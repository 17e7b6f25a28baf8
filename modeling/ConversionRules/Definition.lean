import ConversionRules.Document.Basic
import ConversionRules.Expression.Basic

/-!
What can be wrong with the definition of a converter.
-/
namespace ConversionRules

/-- What a parameter asks of its argument. -/
inductive ParameterShape where
  | number
  | integer
  | index
  | text
  | option
  | typeName
  | enumTypeName
  deriving DecidableEq

def ParameterShape.description : ParameterShape → String
  | .number => "number"
  | .integer => "integer"
  | .index => "non-negative integer"
  | .text => "string"
  | .option => "option name"
  | .typeName => "type name"
  | .enumTypeName => "enum type name"

/-- The form of an argument: a literal of a type, or a word. -/
inductive ArgumentForm where
  | literal (type : Option ValueType)
  | word (s : String)
  deriving DecidableEq

def ArgumentForm.text : ArgumentForm → String
  | .literal t => kindText t
  | .word s => "identifier '" ++ s ++ "'"

def Argument.form : Argument → ArgumentForm
  | .literal v => .literal v.type?
  | .word s => .word s

/-- Rules are named by their labels, calls by the name that is called. -/
inductive DefinitionError where
  | unknownExpression (rule call : String)
  | unknownParameter (call parameter : String)
  | duplicateParameter (call parameter : String)
  | invalidParameter (call parameter : String) (expected : ParameterShape) (found : ArgumentForm)
  | unknownOption (call parameter option : String)
  | unknownType (name : String)
  | duplicateRule (name : String)
  | duplicateClause (rule : String) (clause : ClauseKind)
  | notACondition (rule : String) (kind : ExpressionKind)
  deriving DecidableEq

def DefinitionError.message : DefinitionError → String
  | .unknownExpression rule call =>
    "unknown expression '" ++ call ++ "' in rule '" ++ rule ++ "'"
  | .unknownParameter call parameter =>
    "unknown parameter '" ++ parameter ++ "' for expression '" ++ call ++ "'"
  | .duplicateParameter call parameter =>
    "parameter '" ++ parameter ++ "' given more than once for expression '" ++ call ++ "'"
  | .invalidParameter call parameter expected found =>
    "parameter '" ++ parameter ++ "' of expression '" ++ call ++ "' expects " ++
      expected.description ++ ", found " ++ found.text
  | .unknownOption call parameter option =>
    "unknown option '" ++ option ++ "' for parameter '" ++ parameter ++ "' of expression '" ++
      call ++ "'"
  | .unknownType name => "unknown type '" ++ name ++ "'"
  | .duplicateRule name => "duplicate rule name '" ++ name ++ "'"
  | .duplicateClause rule clause =>
    "rule '" ++ rule ++ "' has more than one '" ++ clause.keyword ++ "' clause"
  | .notACondition rule kind =>
    "expression '" ++ kind.name ++ "' in rule '" ++ rule ++ "' is not a condition expression"

end ConversionRules
