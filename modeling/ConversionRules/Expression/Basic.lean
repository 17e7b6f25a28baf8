import ConversionRules.Registry

/-!
The thirteen kinds of expression and their parameters. A parameter that is not
given is `none`. Three kinds answer yes or no and may stand in a condition.
-/
namespace ConversionRules

/-- Operators, applied in this order. -/
structure Arithmetic where
  multiply : Option Binary64 := none
  divide : Option Binary64 := none
  modulo : Option Binary64 := none
  add : Option Binary64 := none
  subtract : Option Binary64 := none
  deriving BEq, Inhabited

/-- Bounds that all have to hold. -/
structure Bounds where
  equalTo : Option Binary64 := none
  notEqualTo : Option Binary64 := none
  greaterThan : Option Binary64 := none
  atLeast : Option Binary64 := none
  lessThan : Option Binary64 := none
  atMost : Option Binary64 := none
  deriving BEq, Inhabited

inductive LookupOperation where
  | count
  | first
  | last
  | max
  | min
  deriving DecidableEq, Inhabited

def LookupOperation.all : List LookupOperation := [.count, .first, .last, .max, .min]

/-- An index takes precedence over the operation. -/
structure Lookup where
  index : Option UInt64 := none
  operation : LookupOperation := .count
  deriving DecidableEq, Inhabited

/-- An enum type, given by its definition, as a type or by name, and the value
to convert in place of the input. -/
structure Enumeration where
  definition : Option EnumType := none
  enumType : Option ValueType := none
  typeName : Option String := none
  value : Option Value := none
  deriving BEq, Inhabited

structure RandomRange where
  lower : Option Int64 := none
  upper : Option Int64 := none
  deriving DecidableEq, Inhabited

inductive CheckOperation where
  | nullOrEmpty
  | nullOrWhitespace
  | lowerCase
  | upperCase
  deriving DecidableEq, Inhabited

def CheckOperation.all : List CheckOperation :=
  [.nullOrEmpty, .nullOrWhitespace, .lowerCase, .upperCase]

structure TextCheck where
  operation : Option CheckOperation := none
  startsWith : Option String := none
  endsWith : Option String := none
  contains : Option String := none
  deriving DecidableEq, Inhabited

inductive TrimMode where
  | whole
  | atStart
  | atEnd
  deriving DecidableEq, Inhabited

def TrimMode.all : List TrimMode := [.whole, .atStart, .atEnd]

/-- Both modes use the default case mapping. -/
inductive CaseMode where
  | default
  | invariant
  deriving DecidableEq, Inhabited

def CaseMode.all : List CaseMode := [.default, .invariant]

/-- Stages of a text transform, applied in this order. -/
structure TextTransform where
  trim : Option TrimMode := none
  substringStart : Option UInt64 := none
  substringEnd : Option UInt64 := none
  insertText : Option String := none
  insertIndex : Option UInt64 := none
  toLower : Option CaseMode := none
  toUpper : Option CaseMode := none
  splitBy : Option String := none
  deriving DecidableEq, Inhabited

structure TypeQuery where
  type : Option ValueType := none
  name : Option String := none
  deriving DecidableEq, Inhabited

inductive Expression where
  | arithmetic (operators : Arithmetic)
  | compare (bounds : Bounds)
  | count (bounds : Bounds)
  | lookup (l : Lookup)
  | double (value : Option Binary64)
  | enum (e : Enumeration)
  | negate
  | percentage (whole : Option Binary64)
  | random (range : RandomRange)
  | check (c : TextCheck)
  | format (template : Option String)
  | transform (t : TextTransform)
  | typeOf (q : TypeQuery)
  deriving BEq, Inhabited

inductive ExpressionKind where
  | arithmetic
  | compare
  | count
  | lookup
  | double
  | enum
  | negate
  | percentage
  | random
  | check
  | format
  | transform
  | typeOf
  deriving DecidableEq, Inhabited

namespace ExpressionKind

def name : ExpressionKind → String
  | .arithmetic => "arithmetic"
  | .compare => "number comparison"
  | .count => "collection count comparison"
  | .lookup => "collection lookup"
  | .double => "double"
  | .enum => "enum"
  | .negate => "negate"
  | .percentage => "percentage"
  | .random => "random number"
  | .check => "string check"
  | .format => "string interpolation"
  | .transform => "string transform"
  | .typeOf => "type"

/-- Whether expressions of the kind answer yes or no. -/
def isCondition : ExpressionKind → Bool
  | .compare | .count | .check => true
  | _ => false

end ExpressionKind

namespace Expression

def kind : Expression → ExpressionKind
  | .arithmetic _ => .arithmetic
  | .compare _ => .compare
  | .count _ => .count
  | .lookup _ => .lookup
  | .double _ => .double
  | .enum _ => .enum
  | .negate => .negate
  | .percentage _ => .percentage
  | .random _ => .random
  | .check _ => .check
  | .format _ => .format
  | .transform _ => .transform
  | .typeOf _ => .typeOf

def isCondition (e : Expression) : Bool := e.kind.isCondition

end Expression

def LookupOperation.name : LookupOperation → String
  | .count => "count"
  | .first => "first"
  | .last => "last"
  | .max => "max"
  | .min => "min"

end ConversionRules
