import ConversionRules.Value.Basic

/-!
Enum types and the registry that finds types by name. A registry holds one
enum type of each name, the one registered last; the built-in names come
before all of them.
-/
namespace ConversionRules

structure EnumType where
  name : String
  members : List (String × Int64)
  flags : Bool
  deriving DecidableEq, Inhabited

namespace EnumType

/-- The value of the first member of a name. -/
def valueOf? (e : EnumType) (member : String) : Option Int64 :=
  (e.members.find? fun m => m.1 == member).map Prod.snd

/-- The enum value of an ordinal, named after the first member that carries it. -/
def enumValue (e : EnumType) (ordinal : Int64) : EnumValue :=
  { typeName := e.name
    memberName := (e.members.find? fun m => m.2 == ordinal).map Prod.fst
    ordinal := ordinal }

end EnumType

structure Registry where
  enums : List EnumType
  deriving DecidableEq, Inhabited

namespace Registry

def empty : Registry := ⟨[]⟩

def register (r : Registry) (e : EnumType) : Registry :=
  ⟨r.enums.filter (fun other => other.name != e.name) ++ [e]⟩

def ofList (es : List EnumType) : Registry := es.foldl register empty

def size (r : Registry) : Nat := r.enums.length

def find? (r : Registry) (name : String) : Option EnumType :=
  r.enums.find? fun e => e.name == name

def builtin? : String → Option ValueType
  | "bool" => some .bool
  | "int" => some .int
  | "i64" => some .int
  | "float" => some .float
  | "f64" => some .float
  | "double" => some .float
  | "char" => some .char
  | "string" => some .string
  | "str" => some .string
  | "list" => some .list
  | "type" => some .type
  | _ => none

def resolve? (r : Registry) (name : String) : Option ValueType :=
  match builtin? name with
  | some t => some t
  | none => (r.find? name).map fun e => .enum e.name

end Registry

end ConversionRules
