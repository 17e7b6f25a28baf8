import ConversionRules.Number.Numeral
import ConversionRules.Registry
import ConversionRules.Text.Blank

/-!
What a value counts as where a number, a whole number, a collection or a type
is asked for. A text that is no number counts as its length.
-/
namespace ConversionRules.Value

def textNumber? (s : String) : Option Binary64 := Numeral.readFinite? (Text.trim s.toList)

/-- The number a value stands for: itself, the number its text denotes, the
length of any other text or of a list, or the ordinal of an enum value. -/
def number? : Value → Option Binary64
  | .int n => some (.ofInt n.toInt)
  | .float x => some x
  | .string s => some ((textNumber? s).getD (.ofNat s.length))
  | .list items => some (.ofNat items.length)
  | .enum e => some (.ofInt e.ordinal.toInt)
  | _ => none

/-- The number a value is or its text denotes. -/
def strictNumber? : Value → Option Binary64
  | .int n => some (.ofInt n.toInt)
  | .float x => some x
  | .string s => textNumber? s
  | _ => none

/-- A whole number from -2^63 to 2^63, of which the last is taken as its predecessor. -/
def wholeNumber? (x : Binary64) : Option Int64 :=
  x.toInt?.bind fun n =>
    if Int64.minValue.toInt ≤ n && n ≤ Int64.maxValue.toInt + 1 then
      some (Int64.ofInt (min n Int64.maxValue.toInt))
    else none

/-- The whole number a value is or its text denotes. -/
def integer? : Value → Option Int64
  | .int n => some n
  | .float x => wholeNumber? x
  | .string s => Numeral.readInt64? (Text.trim s.toList)
  | _ => none

/-- The number of items of a list or of characters of a text. -/
def count? : Value → Option Nat
  | .list items => some items.length
  | .string s => some s.length
  | _ => none

/-- The items of a list or the characters of a text. -/
def elements? : Value → Option (List Value)
  | .list items => some items
  | .string s => some (s.toList.map .char)
  | _ => none

/-- The type a value is or its text names. -/
def typeIn? (types : Registry) : Value → Option ValueType
  | .type t => some t
  | .string s => types.resolve? (String.ofList (Text.trim s.toList))
  | _ => none

end ConversionRules.Value
