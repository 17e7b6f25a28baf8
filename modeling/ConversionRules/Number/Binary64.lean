/-!
Binary floating-point numbers of 64 bits. A number is its bit pattern, and a
finite pattern stands for a whole number of units, the unit being the least
positive number 2^-1074. Arithmetic is exact on units and rounds once, to the
nearest pattern, a tie going to the even pattern.
-/
namespace ConversionRules

structure Binary64 where
  bits : UInt64
  deriving DecidableEq, Inhabited

namespace Binary64

/-- The quotient rounded to the nearest whole number, a half going to the even one. -/
def roundHalfEven (num den : Nat) : Nat :=
  let q := num / den
  let r := num % den
  if 2 * r < den then q
  else if den < 2 * r then q + 1
  else q + q % 2

/-- Patterns of one sign are ordered by magnitude: first the finite ones, then
infinity, then the patterns that are not numbers. -/
def infinityMagnitude : Nat := 2047 * Nat.pow 2 52

def negative (x : Binary64) : Bool := decide (Nat.pow 2 63 ≤ x.bits.toNat)

def magnitude (x : Binary64) : Nat := x.bits.toNat % Nat.pow 2 63

def isNaN (x : Binary64) : Bool := decide (infinityMagnitude < x.magnitude)

def isInfinite (x : Binary64) : Bool := decide (x.magnitude = infinityMagnitude)

def isFinite (x : Binary64) : Bool := decide (x.magnitude < infinityMagnitude)

def isZero (x : Binary64) : Bool := decide (x.magnitude = 0)

def ofMagnitude (negative : Bool) (m : Nat) : Binary64 :=
  ⟨UInt64.ofNat ((if negative then Nat.pow 2 63 else 0) + m)⟩

def zero (negative : Bool) : Binary64 := ofMagnitude negative 0

def infinity (negative : Bool) : Binary64 := ofMagnitude negative infinityMagnitude

def nan : Binary64 := ofMagnitude false (infinityMagnitude + Nat.pow 2 51)

/-- The number of units a finite magnitude stands for. -/
def unitsOfMagnitude (m : Nat) : Nat :=
  if m < Nat.pow 2 52 then m
  else (Nat.pow 2 52 + m % Nat.pow 2 52) * Nat.pow 2 (m / Nat.pow 2 52 - 1)

def absUnits (x : Binary64) : Nat := unitsOfMagnitude x.magnitude

def units (x : Binary64) : Int :=
  if x.negative then -(x.absUnits : Int) else x.absUnits

/-- How many units make one. -/
def unitsPerOne : Nat := Nat.pow 2 1074

/-- The magnitude nearest to a quotient of units. Magnitudes that share an
exponent are 2^k units apart, and a step past the last of them is the first of
the next exponent, so the rounded multiple of 2^k is the offset itself. -/
def nearestMagnitude (num den : Nat) : Nat :=
  let k := Nat.log2 (num / den) - 52
  min infinityMagnitude (k * Nat.pow 2 52 + roundHalfEven num (den * Nat.pow 2 k))

def nearest (negative : Bool) (num den : Nat) : Binary64 :=
  ofMagnitude negative (nearestMagnitude num den)

def ofInt (n : Int) : Binary64 := nearest (decide (n < 0)) (n.natAbs * unitsPerOne) 1

def ofNat (n : Nat) : Binary64 := ofInt n

/-- The whole number that a finite pattern is exactly, if it is one. -/
def toInt? (x : Binary64) : Option Int :=
  if x.isFinite && x.absUnits % unitsPerOne == 0 then some (x.units / unitsPerOne) else none

def neg (x : Binary64) : Binary64 := ofMagnitude (!x.negative) x.magnitude

/-- A sum of zero is negative only if both terms are. -/
def add (x y : Binary64) : Binary64 :=
  if x.isNaN || y.isNaN then nan
  else if x.isInfinite then
    if y.isInfinite && x.negative != y.negative then nan else x
  else if y.isInfinite then y
  else
    let s := x.units + y.units
    if s = 0 then zero (x.negative && y.negative) else nearest (decide (s < 0)) s.natAbs 1

def sub (x y : Binary64) : Binary64 := add x (neg y)

def mul (x y : Binary64) : Binary64 :=
  let negative := x.negative != y.negative
  if x.isNaN || y.isNaN then nan
  else if x.isInfinite || y.isInfinite then
    if x.isZero || y.isZero then nan else infinity negative
  else nearest negative (x.absUnits * y.absUnits) unitsPerOne

def div (x y : Binary64) : Binary64 :=
  let negative := x.negative != y.negative
  if x.isNaN || y.isNaN then nan
  else if x.isInfinite then if y.isInfinite then nan else infinity negative
  else if y.isInfinite then zero negative
  else if y.isZero then if x.isZero then nan else infinity negative
  else nearest negative (x.absUnits * unitsPerOne) y.absUnits

/-- The remainder after division toward zero: exact, with the sign of the dividend. -/
def rem (x y : Binary64) : Binary64 :=
  if x.isNaN || y.isNaN || x.isInfinite || y.isZero then nan
  else if y.isInfinite then x
  else nearest x.negative (x.absUnits % y.absUnits) 1

/-- A key that orders all patterns but those that are not numbers; both zeros have key 0. -/
def orderKey (x : Binary64) : Int :=
  if x.negative then -(x.magnitude : Int) else x.magnitude

def compare? (x y : Binary64) : Option Ordering :=
  if x.isNaN || y.isNaN then none else some (compare x.orderKey y.orderKey)

/-- Equality of numbers: the zeros are equal, and what is not a number differs from itself. -/
def equal (x y : Binary64) : Bool := x.compare? y == some .eq

instance : BEq Binary64 := ⟨equal⟩

def less (x y : Binary64) : Bool := x.compare? y == some .lt

def atMost (x y : Binary64) : Bool := x.less y || x.equal y

end Binary64

end ConversionRules
