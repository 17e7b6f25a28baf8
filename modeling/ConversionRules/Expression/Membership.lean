import ConversionRules.Expression.Error
import ConversionRules.Value.Text
import ConversionRules.Value.Reading

/-!
Values of enum types made from numbers and texts, and types found by name. A
text is a whole number, a list of members of a flags type, or a member.
-/
namespace ConversionRules

namespace EnumType

/-- The union of the values of members, if all of them are declared. -/
def union? (e : EnumType) (members : List (List Char)) : Option Int64 :=
  (members.mapM fun m => e.valueOf? (String.ofList (Text.trim m))).map
    (·.foldl (fun all v => all ||| v) 0)

/-- The ordinal that a text denotes. -/
def ordinalOfText? (e : EnumType) (text : List Char) : Option Int64 :=
  match Numeral.readInt64? text with
  | some n => some n
  | none =>
    if e.flags && text.contains ',' then e.union? (text.splitOn ',')
    else e.valueOf? (String.ofList text)

/-- The ordinal that a value denotes, a value of another enum type none. -/
def ordinal? (e : EnumType) : Value → Option Int64
  | .string s => e.ordinalOfText? (Text.trim s.toList)
  | v => v.integer?

/-- A value of the enum type itself is kept as it is. -/
def parse? (e : EnumType) (v : Value) : Option EnumValue :=
  match v with
  | .enum x => if x.typeName = e.name then some x else none
  | _ => (e.ordinal? v).map e.enumValue

end EnumType

namespace Enumeration

/-- The name of the enum type when no definition is given: that of the
configured type, or else the configured name. -/
def targetName (e : Enumeration) : Except Cause String :=
  match e.enumType, e.typeName with
  | some (.enum name), _ => .ok name
  | some other, _ => .error (.typeMismatch .enumType (some other))
  | none, some name => .ok name
  | none, none => .error (.missingConfiguration .enumType)

def target (e : Enumeration) (types : Registry) : Except Cause EnumType :=
  match e.definition with
  | some definition => .ok definition
  | none =>
    match e.targetName with
    | .error cause => .error cause
    | .ok name =>
      match types.find? name with
      | some definition => .ok definition
      | none => .error (.unparsable name "enum type")

def evaluate (e : Enumeration) (types : Registry) (v : Value) : Except Cause Value :=
  match e.target types with
  | .error cause => .error cause
  | .ok target =>
    let source := e.value.getD v
    match target.parse? source with
    | some x => .ok (.enum x)
    | none => .error (.unparsable (String.ofList source.display) target.name)

end Enumeration

namespace TypeQuery

/-- The configured type, or else the type of the configured name. -/
def evaluate (q : TypeQuery) (types : Registry) : Except Cause Value :=
  match q.type, q.name with
  | some t, _ => .ok (.type t)
  | none, none => .error (.missingConfiguration .typeValue)
  | none, some name =>
    match (Value.string name).typeIn? types with
    | some t => .ok (.type t)
    | none => .error (.unparsable name "type")

end TypeQuery

end ConversionRules
