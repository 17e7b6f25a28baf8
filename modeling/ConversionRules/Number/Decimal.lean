import ConversionRules.Number.Binary64

/-!
Decimal numbers and the binary numbers nearest to them. Of the decimals that
read back as a binary number, the shortest has the fewest digits and is the
nearest one of these.
-/
namespace ConversionRules

/-- The number digits · 10^exponent. -/
structure Decimal where
  digits : Nat
  exponent : Int
  deriving DecidableEq

namespace Decimal

def digitCount (n : Nat) : Nat := (Nat.toDigits 10 n).length

/-- The binary number nearest to a decimal one. A number with more than 330
places before its point is infinite, and one that begins more than 330 places
after it is zero, so that no power of ten beyond these is needed. -/
def toBinary64 (negative : Bool) (d : Decimal) : Binary64 :=
  let order := d.exponent + digitCount d.digits
  if d.digits = 0 || order < -330 then .zero negative
  else if 330 < order then .infinity negative
  else match d.exponent with
    | .ofNat e => .nearest negative (d.digits * Nat.pow 10 e * Binary64.unitsPerOne) 1
    | .negSucc e => .nearest negative (d.digits * Binary64.unitsPerOne) (Nat.pow 10 (e + 1))

/-- Whether the decimal reads back as the magnitude of `x`. -/
def readsAs (x : Binary64) (d : Decimal) : Bool :=
  (d.toBinary64 false).magnitude == x.magnitude

/-- The exponent of the power of ten just above a finite number that is not zero. -/
def order (x : Binary64) : Int :=
  (digitCount (x.absUnits * Nat.pow 10 350 / Binary64.unitsPerOne) : Int) - 350

/-- The quotient and the remainder, over its denominator, of a number by 10^p. -/
def onGrid (x : Binary64) (p : Int) : Nat × Nat × Nat :=
  let (num, den) := match p with
    | .ofNat e => (x.absUnits, Binary64.unitsPerOne * Nat.pow 10 e)
    | .negSucc e => (x.absUnits * Nat.pow 10 (e + 1), Binary64.unitsPerOne)
  (num / den, num % den, den)

/-- Of two neighbours of `x` the one that reads back as `x`; if both do, the
nearer one, which is the upper one if they are equally near. -/
def nearer? (x : Binary64) (lowerIsNearer : Bool) (lower upper : Decimal) : Option Decimal :=
  match lower.readsAs x, upper.readsAs x with
  | true, true => some (if lowerIsNearer then lower else upper)
  | true, false => some lower
  | false, true => some upper
  | false, false => none

/-- The decimal with `n` digits next to `x`, if one of them reads back as `x`. -/
def withDigits? (x : Binary64) (n : Nat) : Option Decimal :=
  let p := order x - n
  let grid := onGrid x p
  let lower : Decimal := ⟨grid.1, p⟩
  let upper : Decimal := if grid.1 + 1 = Nat.pow 10 n then ⟨1, p + n⟩ else ⟨grid.1 + 1, p⟩
  nearer? x (2 * grid.2.1 < grid.2.2) lower upper

/-- All digits of a finite number. -/
def exact (x : Binary64) : Decimal := ⟨x.absUnits * Nat.pow 5 1074, -1074⟩

/-- The fewest digits that read back as `x`, a finite number; seventeen are
always enough, so that the exact value is never needed. -/
def shortest (x : Binary64) : Decimal :=
  if x.isZero then ⟨0, 0⟩
  else ((List.range' 1 17).findSome? (withDigits? x)).getD (exact x)

end Decimal

end ConversionRules
