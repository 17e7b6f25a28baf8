import ConversionRules.Expression.Basic
import ConversionRules.Number.Numeral

/-!
What can go wrong when an expression is evaluated. An error names the kind of
the expression that raised it and the cause.
-/
namespace ConversionRules

/-- What an expression asks of its input. -/
inductive Demand where
  | number
  | boolOrNumber
  | collection
  | indexableList
  | string
  | enumType
  deriving DecidableEq

def Demand.text : Demand → String
  | .number => "number"
  | .boolOrNumber => "bool or number"
  | .collection => "collection"
  | .indexableList => "indexable list"
  | .string => "string"
  | .enumType => "enum type"

/-- A parameter that an expression cannot do without. -/
inductive Requirement where
  | enumType
  | typeValue
  | template
  deriving DecidableEq

def Requirement.text : Requirement → String
  | .enumType => "either an enum type or a type name is required"
  | .typeValue => "either a type value or a type name is required"
  | .template => "a format template is required"

/-- The widest alignment of a placeholder. -/
def maxAlignment : Nat := 999999

/-- The largest number of digits a number format may ask for. -/
def maxPrecision : Nat := 99

/-- What can be wrong with a template and its arguments. -/
inductive TemplateFault where
  | unmatchedBrace
  | unclosedPlaceholder
  | invalidIndex (text : String)
  | missingArgument (index given : Nat)
  | invalidAlignment (text : String)
  | alignmentTooWide (width : Int)
  | numberRequired (format : String) (found : Option ValueType)
  | integerRequired (format : String)
  | invalidPrecision (format : String)
  | precisionTooLarge (format : String)
  | unknownSpecifier (format : String)
  deriving DecidableEq

def TemplateFault.message : TemplateFault → String
  | .unmatchedBrace => "unmatched '\x7d'"
  | .unclosedPlaceholder => "unclosed placeholder"
  | .invalidIndex text => "invalid placeholder index '" ++ text ++ "'"
  | .missingArgument index given =>
    "placeholder " ++ toString index ++ " has no argument (" ++ toString given ++ " given)"
  | .invalidAlignment text => "invalid alignment '" ++ text ++ "'"
  | .alignmentTooWide width =>
    "alignment " ++ String.ofList (Numeral.integer width) ++ " exceeds " ++ toString maxAlignment
  | .numberRequired format found =>
    "format '" ++ format ++ "' requires a number, found " ++ kindText found
  | .integerRequired format => "format '" ++ format ++ "' requires an integer"
  | .invalidPrecision format => "invalid precision in format '" ++ format ++ "'"
  | .precisionTooLarge format =>
    "precision in format '" ++ format ++ "' exceeds " ++ toString maxPrecision
  | .unknownSpecifier format => "unsupported format specifier '" ++ format ++ "'"

inductive Cause where
  | typeMismatch (expected : Demand) (found : Option ValueType)
  | unparsable (input target : String)
  | missingConfiguration (required : Requirement)
  | emptySource (operation : LookupOperation)
  | indexOutOfRange (index length : Nat)
  | incomparableItems (left right : Option ValueType)
  | invalidRange (lower upper : Int64)
  | malformedTemplate (fault : TemplateFault)
  | notACondition
  deriving DecidableEq

structure EvalError where
  kind : ExpressionKind
  cause : Cause
  deriving DecidableEq

def EvalError.message (e : EvalError) : String :=
  let name := e.kind.name
  match e.cause with
  | .typeMismatch expected found =>
    name ++ ": expected " ++ expected.text ++ ", found " ++ kindText found
  | .unparsable input target => name ++ ": cannot parse '" ++ input ++ "' as " ++ target
  | .missingConfiguration required => name ++ ": missing configuration: " ++ required.text
  | .emptySource operation => name ++ ": " ++ operation.name ++ " requires a non-empty collection"
  | .indexOutOfRange index length =>
    name ++ ": index " ++ toString index ++ " is out of range for length " ++ toString length
  | .incomparableItems left right =>
    name ++ ": cannot compare " ++ kindText left ++ " with " ++ kindText right
  | .invalidRange lower upper =>
    name ++ ": lower bound " ++ String.ofList (Numeral.integer lower.toInt) ++
      " is greater than upper bound " ++ String.ofList (Numeral.integer upper.toInt)
  | .malformedTemplate fault => name ++ ": invalid format: " ++ fault.message
  | .notACondition => "'" ++ name ++ "' is not a condition expression and cannot gate a rule"

end ConversionRules
