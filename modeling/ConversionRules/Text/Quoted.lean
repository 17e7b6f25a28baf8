import ConversionRules.Text.PrintTable

/-!
Quoted characters and texts. A backslash stands before the quote, before
itself and in the short forms of the controls; whatever is not visible by
itself is written by its code point in hexadecimal.
-/
namespace ConversionRules.Text

/-- Whether an increasing table of rows (first, last) holds a code point. -/
def inIntervals : List (Nat × Nat) → Nat → Bool
  | [], _ => false
  | (first, last) :: rest, n =>
    if n < first then false else if n ≤ last then true else inIntervals rest n

def isVisible (c : Char) : Bool :=
  !(inIntervals PrintTable.extending c.toNat || inIntervals PrintTable.invisible c.toNat)

def escapeChar (quote c : Char) : List Char :=
  if c = '\x00' then ['\\', '0']
  else if c = '\t' then ['\\', 't']
  else if c = '\n' then ['\\', 'n']
  else if c = '\r' then ['\\', 'r']
  else if c = '\\' || c = quote then ['\\', c]
  else if isVisible c then [c]
  else '\\' :: 'u' :: '\x7b' :: Nat.toDigits 16 c.toNat ++ ['\x7d']

/-- A text between quotes. -/
def quoted (quote : Char) (cs : List Char) : List Char :=
  quote :: cs.flatMap (escapeChar quote) ++ [quote]

end ConversionRules.Text
