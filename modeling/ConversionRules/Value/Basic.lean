import ConversionRules.Number.Binary64

/-!
The values that rules convert. A value of an enum type carries the name of its
type and, for display only, the name of a member. Only values of like type are
ordered; a whole number is compared with a binary one after rounding.
-/
namespace ConversionRules

inductive ValueType where
  | bool
  | int
  | float
  | char
  | string
  | list
  | type
  | enum (name : String)
  deriving DecidableEq, Inhabited

namespace ValueType

def display : ValueType → String
  | .bool => "bool"
  | .int => "int"
  | .float => "float"
  | .char => "char"
  | .string => "string"
  | .list => "list"
  | .type => "type"
  | .enum name => name

end ValueType

structure EnumValue where
  typeName : String
  memberName : Option String
  ordinal : Int64
  deriving DecidableEq, Inhabited

namespace EnumValue

/-- The member name takes no part in equality. -/
def equal (a b : EnumValue) : Bool := a.typeName == b.typeName && a.ordinal == b.ordinal

instance : BEq EnumValue := ⟨equal⟩

end EnumValue

inductive Value where
  | null
  | bool (b : Bool)
  | int (n : Int64)
  | float (x : Binary64)
  | char (c : Char)
  | string (s : String)
  | list (items : List Value)
  | enum (e : EnumValue)
  | type (t : ValueType)
  deriving Inhabited

namespace Value

/-- Every value but the null one has a type. -/
def type? : Value → Option ValueType
  | .null => none
  | .bool _ => some .bool
  | .int _ => some .int
  | .float _ => some .float
  | .char _ => some .char
  | .string _ => some .string
  | .list _ => some .list
  | .enum e => some (.enum e.typeName)
  | .type _ => some .type

mutual

def equal : Value → Value → Bool
  | .null, .null => true
  | .bool a, .bool b => a == b
  | .int a, .int b => a == b
  | .float a, .float b => a.equal b
  | .char a, .char b => a == b
  | .string a, .string b => a == b
  | .list as, .list bs => equalItems as bs
  | .enum a, .enum b => a.equal b
  | .type a, .type b => a == b
  | _, _ => false

def equalItems : List Value → List Value → Bool
  | [], [] => true
  | a :: as, b :: bs => equal a b && equalItems as bs
  | _, _ => false

end

instance : BEq Value := ⟨equal⟩

/-- The order of two values of like type. Texts are ordered by code points. -/
def compare? : Value → Value → Option Ordering
  | .int a, .int b => some (compare a.toInt b.toInt)
  | .float a, .float b => a.compare? b
  | .int a, .float b => (Binary64.ofInt a.toInt).compare? b
  | .float a, .int b => a.compare? (Binary64.ofInt b.toInt)
  | .bool a, .bool b => some (compare a.toNat b.toNat)
  | .char a, .char b => some (compare a.toNat b.toNat)
  | .string a, .string b => some (compare a b)
  | .enum a, .enum b =>
    if a.typeName = b.typeName then some (compare a.ordinal.toInt b.ordinal.toInt) else none
  | _, _ => none

end Value

/-- How an error names the type of a value. -/
def kindText : Option ValueType → String
  | none => "null"
  | some t => t.display

def Value.kind (v : Value) : String := kindText v.type?

end ConversionRules
