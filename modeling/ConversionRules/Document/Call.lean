import ConversionRules.Definition
import ConversionRules.Registry

/-!
Calls of expressions: the names by which the kinds are called, their
parameters, and the arguments these admit. Parameters are read in a fixed
order, so that the first one in that order whose argument does not fit is
reported, and arguments that no parameter takes only after that.
-/
namespace ConversionRules

structure Call where
  name : String
  args : List (String × Argument)

namespace Call

def kind? : String → Option ExpressionKind
  | "arithmetic" => some .arithmetic
  | "compare" => some .compare
  | "count" => some .count
  | "lookup" => some .lookup
  | "double" => some .double
  | "enum" => some .enum
  | "negate" => some .negate
  | "percentage" => some .percentage
  | "random" => some .random
  | "check" => some .check
  | "format" => some .format
  | "transform" => some .transform
  | "typeof" => some .typeOf
  | _ => none

def boundNames : List String :=
  ["is_equal_to", "is_not_equal_to", "is_greater_than", "is_greater_or_equal_to",
    "is_lesser_than", "is_lesser_or_equal_to"]

/-- The parameters of a kind in the order in which they are read. -/
def parameters : ExpressionKind → List String
  | .arithmetic => ["multiply", "divide", "modulo", "add", "subtract"]
  | .compare => boundNames
  | .count => boundNames
  | .lookup => ["index", "operation"]
  | .double => ["value"]
  | .enum => ["type", "type_name", "value"]
  | .negate => []
  | .percentage => ["of"]
  | .random => ["lower_bound", "upper_bound"]
  | .check => ["operation", "starts_with", "ends_with", "contains"]
  | .format => ["template"]
  | .transform =>
    ["trim", "substring_start", "substring_end", "insert_text", "insert_index", "to_lower",
      "to_upper", "split_by"]
  | .typeOf => ["type", "name"]

/-- The first name that was given before. -/
def duplicate? (seen : List String) : List (String × Argument) → Option String
  | [] => none
  | (name, _) :: rest =>
    if seen.contains name then some name else duplicate? (name :: seen) rest

/-- Takes the argument of a name out of a list, the last one moving into its place. -/
def remove (name : String) : List (String × Argument) → List (String × Argument)
  | [] => []
  | a :: rest =>
    if a.1 = name then
      match rest.getLast? with
      | none => []
      | some last => last :: rest.dropLast
    else a :: remove name rest

/-- The arguments that are left once those of the given names are taken, in turn. -/
def leftOver (names : List String) (args : List (String × Argument)) :
    List (String × Argument) :=
  names.foldl (fun args name => remove name args) args

variable {α : Type}

/-- Reads the argument of a parameter, if it is given. -/
def read (c : Call) (parameter : String) (f : Argument → Except DefinitionError α) :
    Except DefinitionError (Option α) :=
  match c.args.lookup parameter with
  | none => .ok none
  | some a => (f a).map some

def invalid (c : Call) (parameter : String) (expected : ParameterShape) (a : Argument) :
    DefinitionError :=
  .invalidParameter c.name parameter expected a.form

/-- Reads an argument by a partial function, which gives nothing if it does not fit. -/
def readShape (c : Call) (parameter : String) (expected : ParameterShape)
    (f : Argument → Option α) : Except DefinitionError (Option α) :=
  c.read parameter fun a =>
    match f a with
    | some x => .ok x
    | none => .error (c.invalid parameter expected a)

def number (c : Call) (parameter : String) : Except DefinitionError (Option Binary64) :=
  c.readShape parameter .number fun
    | .literal (.int n) => some (.ofInt n.toInt)
    | .literal (.float x) => some x
    | _ => none

def integer (c : Call) (parameter : String) : Except DefinitionError (Option Int64) :=
  c.readShape parameter .integer fun
    | .literal (.int n) => some n
    | _ => none

def index (c : Call) (parameter : String) : Except DefinitionError (Option UInt64) :=
  c.readShape parameter .index fun
    | .literal (.int n) => if n < 0 then none else some n.toUInt64
    | _ => none

def text (c : Call) (parameter : String) : Except DefinitionError (Option String) :=
  c.readShape parameter .text fun
    | .literal (.string s) => some s
    | _ => none

/-- One of the named choices, given as a word. -/
def choice (c : Call) (parameter : String) (choices : List (String × α)) :
    Except DefinitionError (Option α) :=
  c.read parameter fun
    | .word w =>
      match choices.lookup w with
      | some x => .ok x
      | none => .error (.unknownOption c.name parameter w)
    | a => .error (c.invalid parameter .option a)

/-- Any literal; a word is taken as a text. -/
def value (c : Call) (parameter : String) : Except DefinitionError (Option Value) :=
  c.read parameter fun
    | .literal v => .ok v
    | .word w => .ok (.string w)

def resolve (types : Registry) (name : String) : Except DefinitionError ValueType :=
  match types.resolve? name with
  | some t => .ok t
  | none => .error (.unknownType name)

def typeName (c : Call) (parameter : String) (types : Registry) :
    Except DefinitionError (Option ValueType) :=
  c.read parameter fun
    | .word w => resolve types w
    | a => .error (c.invalid parameter .typeName a)

def enumTypeName (c : Call) (parameter : String) (types : Registry) :
    Except DefinitionError (Option ValueType) :=
  c.read parameter fun
    | .word w =>
      match resolve types w with
      | .ok (.enum name) => .ok (.enum name)
      | .ok _ => .error (c.invalid parameter .enumTypeName (.word w))
      | .error e => .error e
    | a => .error (c.invalid parameter .enumTypeName a)

def bounds (c : Call) : Except DefinitionError Bounds := do
  let equalTo ← c.number "is_equal_to"
  let notEqualTo ← c.number "is_not_equal_to"
  let greaterThan ← c.number "is_greater_than"
  let atLeast ← c.number "is_greater_or_equal_to"
  let lessThan ← c.number "is_lesser_than"
  let atMost ← c.number "is_lesser_or_equal_to"
  return { equalTo, notEqualTo, greaterThan, atLeast, lessThan, atMost }

def lookupOperations : List (String × LookupOperation) :=
  [("count", .count), ("first", .first), ("last", .last), ("max", .max), ("min", .min)]

def checkOperations : List (String × CheckOperation) :=
  [("null_or_empty", .nullOrEmpty), ("null_or_whitespace", .nullOrWhitespace),
    ("lower_case", .lowerCase), ("upper_case", .upperCase)]

def trimModes : List (String × TrimMode) :=
  [("whole", .whole), ("start", .atStart), ("end", .atEnd)]

def caseModes : List (String × CaseMode) := [("default", .default), ("invariant", .invariant)]

/-- The definition of the enum type a call names, as a type or by name only. -/
def definition? (types : Registry) (enumType : Option ValueType) (typeName : Option String) :
    Option EnumType :=
  match enumType, typeName with
  | some (.enum name), _ => types.find? name
  | none, some name => types.find? name
  | _, _ => none

/-- Reads the parameters of a call of a kind. -/
def expressionOf (c : Call) (types : Registry) : ExpressionKind → Except DefinitionError Expression
  | .arithmetic => do
    let multiply ← c.number "multiply"
    let divide ← c.number "divide"
    let modulo ← c.number "modulo"
    let add ← c.number "add"
    let subtract ← c.number "subtract"
    return .arithmetic { multiply, divide, modulo, add, subtract }
  | .compare => return .compare (← c.bounds)
  | .count => return .count (← c.bounds)
  | .lookup => do
    let index ← c.index "index"
    let operation ← c.choice "operation" lookupOperations
    return .lookup { index, operation := operation.getD .count }
  | .double => return .double (← c.number "value")
  | .enum => do
    let enumType ← c.enumTypeName "type" types
    let typeName ← c.text "type_name"
    let value ← c.value "value"
    return .enum { definition := definition? types enumType typeName, enumType, typeName, value }
  | .negate => return .negate
  | .percentage => return .percentage (← c.number "of")
  | .random => do
    let lower ← c.integer "lower_bound"
    let upper ← c.integer "upper_bound"
    return .random { lower, upper }
  | .check => do
    let operation ← c.choice "operation" checkOperations
    let startsWith ← c.text "starts_with"
    let endsWith ← c.text "ends_with"
    let contains ← c.text "contains"
    return .check { operation, startsWith, endsWith, contains }
  | .format => return .format (← c.text "template")
  | .transform => do
    let trim ← c.choice "trim" trimModes
    let substringStart ← c.index "substring_start"
    let substringEnd ← c.index "substring_end"
    let insertText ← c.text "insert_text"
    let insertIndex ← c.index "insert_index"
    let toLower ← c.choice "to_lower" caseModes
    let toUpper ← c.choice "to_upper" caseModes
    let splitBy ← c.text "split_by"
    return .transform
      { trim, substringStart, substringEnd, insertText, insertIndex, toLower, toUpper, splitBy }
  | .typeOf => do
    let type ← c.typeName "type" types
    let name ← c.text "name"
    return .typeOf { type, name }

/-- The expression that a call in a rule denotes. A repeated parameter is
reported before anything else. -/
def expression (c : Call) (types : Registry) (rule : String) :
    Except DefinitionError Expression :=
  match duplicate? [] c.args with
  | some parameter => .error (.duplicateParameter c.name parameter)
  | none =>
    match kind? c.name with
    | none => .error (.unknownExpression rule c.name)
    | some kind =>
      match c.expressionOf types kind with
      | .error e => .error e
      | .ok e =>
        match (leftOver (parameters kind) c.args).head? with
        | some (parameter, _) => .error (.unknownParameter c.name parameter)
        | none => .ok e

end Call

end ConversionRules
