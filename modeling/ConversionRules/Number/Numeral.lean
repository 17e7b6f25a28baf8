import ConversionRules.Number.Decimal

/-!
Numbers as text. A binary number is written by the fewest digits that read
back as it, positionally or with an exponent, or rounded to a fixed number of
places. Whole numbers and finite binary numbers are read from text; reading
rounds the exact decimal value once.
-/
namespace ConversionRules.Numeral

def padLeft (width : Nat) (fill : Char) (cs : List Char) : List Char :=
  List.replicate (width - cs.length) fill ++ cs

/-- The digits of `n` with a point before the last `places` of them. -/
def pointed (n places : Nat) : List Char :=
  let ds := padLeft (places + 1) '0' (Nat.toDigits 10 n)
  let whole := ds.length - places
  ds.take whole ++ (if places = 0 then [] else '.' :: ds.drop whole)

/-- A decimal without exponent, and without a point if it is whole. -/
def positional (d : Decimal) : List Char :=
  match d.exponent with
  | .ofNat e => Nat.toDigits 10 d.digits ++ (if d.digits = 0 then [] else List.replicate e '0')
  | .negSucc e => pointed d.digits (e + 1)

/-- A whole number, with a sign if it is negative. -/
def integer (n : Int) : List Char :=
  if n < 0 then '-' :: Nat.toDigits 10 n.natAbs else Nat.toDigits 10 n.natAbs

/-- One digit before the point and the exponent after the letter e. -/
def scientific (d : Decimal) : List Char :=
  match Nat.toDigits 10 d.digits with
  | [] => []
  | c :: rest =>
    c :: (if rest.isEmpty then [] else '.' :: rest) ++ 'e' :: integer (d.exponent + rest.length)

/-- A sign before a magnitude; a number that is none carries no sign. -/
def signed (x : Binary64) (finite : List Char) : List Char :=
  if x.isNaN then "NaN".toList
  else
    let text := if x.isInfinite then "inf".toList else finite
    if x.negative then '-' :: text else text

/-- The fewest digits that read back, without exponent. -/
def plain (x : Binary64) : List Char := signed x (positional (.shortest x))

/-- The exact value rounded to a number of places, a half going to the even digit. -/
def fixed (places : Nat) (x : Binary64) : List Char :=
  signed x (pointed (Binary64.roundHalfEven (x.absUnits * Nat.pow 10 places) Binary64.unitsPerOne) places)

/-- The fewest digits that read back, with at least one place: positional for
zero and from 1e-4 up to below 1e16, with an exponent otherwise. -/
def tagged (x : Binary64) : List Char :=
  let d := Decimal.shortest x
  let order := d.exponent + Decimal.digitCount d.digits
  signed x <|
    if x.isZero || (-4 < order && order ≤ 16) then
      let text := positional d
      if text.contains '.' then text else text ++ ".0".toList
    else scientific d

/-- A sign, if the text begins with one, and the text after it. -/
def takeSign : List Char → Bool × List Char
  | '-' :: rest => (true, rest)
  | '+' :: rest => (false, rest)
  | cs => (false, cs)

def readNat? (cs : List Char) : Option Nat :=
  if cs.isEmpty || !cs.all Char.isDigit then none else some (Nat.ofDigitChars 10 cs 0)

/-- A whole number: digits after an optional sign. -/
def readInt? (cs : List Char) : Option Int :=
  let (negative, rest) := takeSign cs
  (readNat? rest).map fun n => if negative then -(n : Int) else n

def readInt64? (cs : List Char) : Option Int64 :=
  (readInt? cs).bind fun n =>
    if Int64.minValue.toInt ≤ n && n ≤ Int64.maxValue.toInt then some (Int64.ofInt n) else none

/-- A whole number of at most 64 bits, a plus sign before it allowed. -/
def readUInt64? (cs : List Char) : Option UInt64 :=
  (readNat? (match cs with | '+' :: rest => rest | _ => cs)).bind fun n =>
    if n < UInt64.size then some (UInt64.ofNat n) else none

/-- The value of the digits of an exponent, which stops growing past 65536. -/
def exponentOf (cs : List Char) : Nat :=
  cs.foldl (fun n c => if n < 65536 then 10 * n + (c.toNat - '0'.toNat) else n) 0

/-- An exponent part: nothing, or the letter e, an optional sign and digits. -/
def readExponent? : List Char → Option Int
  | [] => some 0
  | c :: rest =>
    if c = 'e' || c = 'E' then
      let (negative, ds) := takeSign rest
      if ds.isEmpty || !ds.all Char.isDigit then none
      else some (if negative then -(exponentOf ds : Int) else exponentOf ds)
    else none

/-- A number without its sign: digits with at most one point among or around
them, then an exponent part. -/
def ofUnsigned? (cs : List Char) : Option Decimal :=
  let whole := cs.takeWhile Char.isDigit
  let (places, rest) := match cs.dropWhile Char.isDigit with
    | '.' :: more => (more.takeWhile Char.isDigit, more.dropWhile Char.isDigit)
    | more => ([], more)
  if whole.isEmpty && places.isEmpty then none
  else (readExponent? rest).map fun e =>
    ⟨Nat.ofDigitChars 10 (whole ++ places) 0, e - places.length⟩

/-- The finite number that a text denotes; a number too large for 64 bits is refused. -/
def readFinite? (cs : List Char) : Option Binary64 :=
  let (negative, rest) := takeSign cs
  match ofUnsigned? rest with
  | none => none
  | some d =>
    let x := d.toBinary64 negative
    if x.isFinite then some x else none

end ConversionRules.Numeral
