import ConversionRules.Number.Decimal
import ConversionRules.Proofs.Number.Ordering

/-!
Decimal numbers read as binary ones. What is read depends on the value of the
decimal number and not on how it is written. It is finite exactly below the
number halfway between the greatest finite number and the next power of two.
The shortest digits of a finite number read back as it.
-/
namespace ConversionRules

namespace Binary64

section Magnitudes

/-- A quotient is rounded by its value alone. -/
theorem nearestMagnitude_scale {c : Nat} (hc : 0 < c) (num den : Nat) :
    nearestMagnitude (num * c) (den * c) = nearestMagnitude num den := by
  obtain ⟨k, hk⟩ : ∃ k, k = Nat.log2 (num / den) - 52 := ⟨_, rfl⟩
  have hscaled : k = Nat.log2 (num * c / (den * c)) - 52 := by
    rw [Nat.mul_div_mul_right num den hc, hk]
  rw [nearestMagnitude_eq hk, nearestMagnitude_eq hscaled, Nat.mul_right_comm den c,
    roundHalfEven_scale hc]

theorem nearestMagnitude_le (num den : Nat) : nearestMagnitude num den ≤ infinityMagnitude :=
  Nat.min_le_left _ _

/-- The exponent and the offset that a magnitude is made of. -/
theorem exists_offset (m : Nat) :
    ∃ k q, m = k * 2 ^ 52 + q ∧ q < 2 ^ 53 ∧ (k = 0 ∨ 2 ^ 52 ≤ q) := by
  by_cases hsmall : m < 2 ^ 52
  · exact ⟨0, m, by omega, by omega, Or.inl rfl⟩
  · exact ⟨m / 2 ^ 52 - 1, 2 ^ 52 + m % 2 ^ 52, by omega, by omega, Or.inr (by omega)⟩

/-- A finite number is the nearest one to itself. -/
theorem nearestMagnitude_unitsOfMagnitude {m : Nat} (hm : m ≤ infinityMagnitude) :
    nearestMagnitude (unitsOfMagnitude m) 1 = m := by
  obtain ⟨k, q, rfl, hq, hnormal⟩ := exists_offset m
  have hunits : unitsOfMagnitude (k * 2 ^ 52 + q) = q * 2 ^ k :=
    unitsOfMagnitude_offset (Nat.le_of_lt hq) hnormal
  have hlog : q.log2 < 53 := log2_lt_of_lt (by decide) hq
  have hk : k = Nat.log2 (q * 2 ^ k / 1) - 52 := by
    rw [Nat.div_one]
    rcases hnormal with rfl | hlower
    · rw [Nat.pow_zero, Nat.mul_one]
      omega
    · have hne : q ≠ 0 := by omega
      have hlower : 52 ≤ q.log2 := (Nat.le_log2 hne).mpr hlower
      rw [log2_mul_two_pow hne]
      omega
  rw [hunits, nearestMagnitude_eq hk, Nat.one_mul, roundHalfEven_mul (Nat.two_pow_pos k)]
  exact Nat.min_eq_right hm

/-- A number is told by its sign and its magnitude. -/
theorem ofMagnitude_magnitude (x : Binary64) : ofMagnitude x.negative x.magnitude = x := by
  obtain ⟨bits⟩ := x
  have hfits : bits.toNat < 2 ^ 64 := bits.toNat_lt
  have hsplit : (if decide (2 ^ 63 ≤ bits.toNat) = true then 2 ^ 63 else 0) + bits.toNat % 2 ^ 63 =
      bits.toNat := by
    simp only [decide_eq_true_eq]
    split <;> omega
  change Binary64.mk (UInt64.ofNat ((if decide (2 ^ 63 ≤ bits.toNat) = true then 2 ^ 63 else 0) +
    bits.toNat % 2 ^ 63)) = ⟨bits⟩
  rw [hsplit, UInt64.ofNat_toNat]

end Magnitudes

section Overflow

/-- Halfway between the greatest finite number and the power of two after it. -/
def overflowLimit : Nat := (2 ^ 54 - 1) * 2 ^ 970

/-- A half goes up from an odd number, so that what is rounded to it lies below the half. -/
theorem roundHalfEven_le_iff {num den q : Nat} (hden : 0 < den) (hq : q % 2 = 1) :
    roundHalfEven num den ≤ q ↔ 2 * num < (2 * q + 1) * den := by
  have hsplit : num / den * den + num % den = num := Nat.div_add_mod' num den
  have hrest : num % den < den := Nat.mod_lt num hden
  have hlimit : (2 * q + 1) * den = 2 * (q * den) + den := by
    rw [Nat.add_mul, Nat.mul_assoc, Nat.one_mul]
  rw [hlimit]
  rcases Nat.lt_trichotomy (num / den) q with hlt | heq | hgt
  · have hbelow : num / den * den + den ≤ q * den := by
      rw [← Nat.succ_mul]
      exact Nat.mul_le_mul_right den hlt
    have hupper := (roundHalfEven_bounds num den).2
    omega
  · rw [← heq]
    unfold roundHalfEven
    dsimp only
    split_ifs <;> omega
  · have habove : q * den + den ≤ num / den * den := by
      rw [← Nat.succ_mul]
      exact Nat.mul_le_mul_right den hgt
    have hlower := (roundHalfEven_bounds num den).1
    omega

/-- The exponent is named, as the power itself is too large to be written out. -/
theorem overflowLimit_units :
    ∃ u, u = 2044 ∧ overflowLimit * unitsPerOne = (2 ^ 54 - 1) * 2 ^ u :=
  ⟨2044, rfl, by decide +kernel⟩

/-- Offsets of smaller exponents lie below all offsets of a greater one. -/
theorem lt_of_quotient_lt {num den k u : Nat} (hstep : 0 < den * 2 ^ k) (hk : k ≤ u)
    (h : num / (den * 2 ^ k) < 2 ^ 53) : num < 2 ^ 53 * (2 ^ u * den) := by
  calc num < 2 ^ 53 * (den * 2 ^ k) := (Nat.div_lt_iff_lt_mul hstep).mp h
    _ = 2 ^ 53 * (2 ^ k * den) := by rw [Nat.mul_comm den]
    _ ≤ 2 ^ 53 * (2 ^ u * den) := Nat.mul_le_mul_left _
      (Nat.mul_le_mul_right den (Nat.pow_le_pow_right Nat.two_pos hk))

theorem le_of_le_quotient {num den k u : Nat} (hstep : 0 < den * 2 ^ k) (hk : 2 + u ≤ k)
    (h : 2 ^ 52 ≤ num / (den * 2 ^ k)) : 2 ^ 54 * (2 ^ u * den) ≤ num := by
  calc 2 ^ 54 * (2 ^ u * den) = 2 ^ 52 * (2 ^ (2 + u) * den) := by
        rw [Nat.pow_add 2 2 u, Nat.mul_assoc (2 ^ 2)]
        omega
    _ ≤ 2 ^ 52 * (2 ^ k * den) := Nat.mul_le_mul_left _
      (Nat.mul_le_mul_right den (Nat.pow_le_pow_right Nat.two_pos hk))
    _ = 2 ^ 52 * (den * 2 ^ k) := by rw [Nat.mul_comm den]
    _ ≤ num := (Nat.le_div_iff_mul_le hstep).mp h

/-- What is rounded to a finite number. The greatest offset of the greatest
exponent is odd; all numbers of smaller exponents lie below the limit, and all
of greater ones above it. -/
theorem nearestMagnitude_lt_iff {num den : Nat} (hden : 0 < den) :
    nearestMagnitude num den < infinityMagnitude ↔ num < overflowLimit * unitsPerOne * den := by
  obtain ⟨u, hu, hlimit⟩ := overflowLimit_units
  obtain ⟨k, hk⟩ : ∃ k, k = Nat.log2 (num / den) - 52 := ⟨_, rfl⟩
  have hstep : 0 < den * 2 ^ k := Nat.mul_pos hden (Nat.two_pow_pos k)
  obtain ⟨hupper, hlower⟩ := quotient_bounds hk
  obtain ⟨hle, hge⟩ := roundHalfEven_bounds num (den * 2 ^ k)
  have hoffset : nearestMagnitude num den < infinityMagnitude ↔
      k * 2 ^ 52 + roundHalfEven num (den * 2 ^ k) < 2047 * 2 ^ 52 := by
    rw [nearestMagnitude_eq hk]
    change min (2047 * 2 ^ 52) _ < 2047 * 2 ^ 52 ↔ _
    omega
  rw [hoffset, hlimit, Nat.mul_assoc]
  rcases Nat.lt_trichotomy k (u + 1) with hbelow | rfl | habove
  · have hnum := lt_of_quotient_lt hstep (u := u) (by omega) hupper
    omega
  · have hhalf : 2 * num < (2 * (2 ^ 53 - 1) + 1) * (den * 2 ^ (u + 1)) ↔
        num < (2 ^ 54 - 1) * (2 ^ u * den) := by
      have hpower : den * 2 ^ (u + 1) = 2 * (2 ^ u * den) := by
        rw [Nat.pow_succ 2 u, Nat.mul_comm den, Nat.mul_comm (2 ^ u) 2, Nat.mul_assoc]
      rw [hpower]
      omega
    rw [← hhalf, ← roundHalfEven_le_iff hstep (by decide)]
    omega
  · have hnum := le_of_le_quotient hstep (u := u) (by omega) (hlower.resolve_left (by omega))
    omega

end Overflow

end Binary64

namespace Decimal

open Binary64

/-- A decimal number as a quotient. -/
def numerator (d : Decimal) : Nat := d.digits * 10 ^ d.exponent.toNat

def denominator (d : Decimal) : Nat := 10 ^ (-d.exponent).toNat

theorem denominator_pos (d : Decimal) : 0 < d.denominator := Nat.pow_pos (by decide)

section Reading

theorem roundHalfEven_eq_zero {num den : Nat} (h : 2 * num < den) : roundHalfEven num den = 0 := by
  have hquotient : num / den = 0 := Nat.div_eq_of_lt (by omega)
  have hrest : num % den = num := Nat.mod_eq_of_lt (by omega)
  unfold roundHalfEven
  dsimp only
  rw [hquotient, hrest, if_pos h]

theorem nearestMagnitude_zero (den : Nat) : nearestMagnitude 0 den = 0 := by
  have hk : 0 = Nat.log2 (0 / den) - 52 := by rw [Nat.zero_div, Nat.log2_zero]
  rw [nearestMagnitude_eq hk]
  unfold roundHalfEven
  simp

/-- A number that begins far enough after the point is nearest to zero. -/
theorem nearestMagnitude_small {n t s : Nat} (hs : 2 * unitsPerOne ≤ 10 ^ s) (hn : n < 10 ^ t) :
    nearestMagnitude (n * unitsPerOne) (10 ^ (t + s)) = 0 := by
  have hsmall : 2 * (n * unitsPerOne) < 10 ^ (t + s) := by
    calc 2 * (n * unitsPerOne) = n * (2 * unitsPerOne) := Nat.mul_left_comm ..
      _ ≤ n * 10 ^ s := Nat.mul_le_mul_left n hs
      _ < 10 ^ t * 10 ^ s := Nat.mul_lt_mul_of_pos_right hn (Nat.pow_pos (by decide))
      _ = 10 ^ (t + s) := (Nat.pow_add ..).symm
  have hk : 0 = Nat.log2 (n * unitsPerOne / 10 ^ (t + s)) - 52 := by
    rw [Nat.div_eq_of_lt (by omega), Nat.log2_zero]
  rw [nearestMagnitude_eq hk, Nat.pow_zero, Nat.mul_one, roundHalfEven_eq_zero hsmall]
  rfl

/-- A number that has enough places before its point is nearest to infinity. -/
theorem nearestMagnitude_large {n t s : Nat} (hs : overflowLimit ≤ 10 ^ s)
    (hn : 10 ^ (t + s) ≤ n) :
    nearestMagnitude (n * unitsPerOne) (10 ^ t) = infinityMagnitude := by
  have hlarge : overflowLimit * unitsPerOne * 10 ^ t ≤ n * unitsPerOne := by
    calc overflowLimit * unitsPerOne * 10 ^ t = 10 ^ t * overflowLimit * unitsPerOne := by
          rw [Nat.mul_comm, Nat.mul_assoc]
      _ ≤ 10 ^ t * 10 ^ s * unitsPerOne := Nat.mul_le_mul_right _ (Nat.mul_le_mul_left _ hs)
      _ ≤ n * unitsPerOne := Nat.mul_le_mul_right _ (Nat.pow_add 10 t s ▸ hn)
  have hpos : 0 < 10 ^ t := Nat.pow_pos (by decide)
  have hnot := mt (nearestMagnitude_lt_iff hpos).mp (Nat.not_lt.mpr hlarge)
  exact Nat.le_antisymm (nearestMagnitude_le _ _) (Nat.not_lt.mp hnot)

theorem digitCount_pos (n : Nat) : 0 < digitCount n := Nat.length_toDigits_pos

theorem lt_pow_digitCount (n : Nat) : n < 10 ^ digitCount n :=
  (Nat.length_toDigits_le_iff (by decide) (digitCount_pos n)).mp (Nat.le_refl _)

theorem pow_digitCount_le {n : Nat} (hn : n ≠ 0) : 10 ^ (digitCount n - 1) ≤ n := by
  by_cases hone : digitCount n - 1 = 0
  · rw [hone, Nat.pow_zero]
    exact Nat.pos_of_ne_zero hn
  · have hmore : ¬ digitCount n ≤ digitCount n - 1 := by omega
    exact Nat.not_lt.mp (mt (Nat.length_toDigits_le_iff (by decide) (by omega)).mpr hmore)

variable {n : Nat} {e : Int}

theorem nearestMagnitude_of_order_small (h : n = 0 ∨ e + digitCount n < -330) :
    nearestMagnitude (n * 10 ^ e.toNat * unitsPerOne) (10 ^ (-e).toNat) = 0 := by
  obtain ⟨s, hs, hsmall⟩ : ∃ s, s = 331 ∧ 2 * unitsPerOne ≤ 10 ^ s :=
    ⟨331, rfl, by decide +kernel⟩
  rcases h with rfl | horder
  · rw [Nat.zero_mul, Nat.zero_mul, nearestMagnitude_zero]
  · have hcount := digitCount_pos n
    have hwhole : e.toNat = 0 := by omega
    have hplaces : (-e).toNat = (-e).toNat - s + s := by omega
    have hn : n < 10 ^ ((-e).toNat - s) :=
      Nat.lt_of_lt_of_le (lt_pow_digitCount n) (Nat.pow_le_pow_right (by decide) (by omega))
    rw [hwhole, Nat.pow_zero, Nat.mul_one, hplaces, nearestMagnitude_small hsmall hn]

theorem nearestMagnitude_of_order_large (hn : n ≠ 0) (h : 330 < e + digitCount n) :
    nearestMagnitude (n * 10 ^ e.toNat * unitsPerOne) (10 ^ (-e).toNat) = infinityMagnitude := by
  obtain ⟨l, hl, hlarge⟩ : ∃ l, l = 330 ∧ overflowLimit ≤ 10 ^ l := ⟨330, rfl, by decide +kernel⟩
  have hcount := digitCount_pos n
  have hle : 10 ^ ((-e).toNat + l) ≤ n * 10 ^ e.toNat := by
    calc 10 ^ ((-e).toNat + l) ≤ 10 ^ (digitCount n - 1 + e.toNat) :=
          Nat.pow_le_pow_right (by decide) (by omega)
      _ = 10 ^ (digitCount n - 1) * 10 ^ e.toNat := Nat.pow_add ..
      _ ≤ n * 10 ^ e.toNat := Nat.mul_le_mul_right _ (pow_digitCount_le hn)
  exact nearestMagnitude_large hlarge hle

/-- The special cases of very large and very small numbers agree with rounding. -/
theorem toBinary64_eq_nearest (negative : Bool) (d : Decimal) :
    d.toBinary64 negative = .nearest negative (d.numerator * unitsPerOne) d.denominator := by
  obtain ⟨n, e⟩ := d
  unfold toBinary64 numerator denominator nearest
  dsimp only
  split
  · rename_i hsmall
    rw [Bool.or_eq_true, decide_eq_true_eq, decide_eq_true_eq] at hsmall
    rw [nearestMagnitude_of_order_small hsmall]
    rfl
  · rename_i hsmall
    rw [Bool.or_eq_true, decide_eq_true_eq, decide_eq_true_eq, not_or] at hsmall
    split
    · rename_i hlarge
      rw [nearestMagnitude_of_order_large hsmall.1 hlarge]
      rfl
    · cases e with
      | ofNat e =>
        have hplaces : (-Int.ofNat e).toNat = 0 :=
          Int.toNat_of_nonpos (Int.neg_nonpos_of_nonneg (Int.natCast_nonneg e))
        rw [hplaces]
        rfl
      | negSucc e =>
        have hwhole : (Int.negSucc e).toNat = 0 := rfl
        rw [hwhole, Nat.pow_zero, Nat.mul_one]
        rfl

/-- What is read is a sign and a magnitude that does not depend on it. -/
theorem toBinary64_eq_ofMagnitude (negative : Bool) (d : Decimal) :
    d.toBinary64 negative = ofMagnitude negative (d.toBinary64 false).magnitude := by
  rw [toBinary64_eq_nearest, toBinary64_eq_nearest, nearest, nearest,
    magnitude_ofMagnitude (nearestMagnitude_lt _ _)]

theorem magnitude_toBinary64 (negative : Bool) (d : Decimal) :
    (d.toBinary64 negative).magnitude =
      nearestMagnitude (d.numerator * unitsPerOne) d.denominator := by
  rw [toBinary64_eq_nearest, nearest, magnitude_ofMagnitude (nearestMagnitude_lt _ _)]

/-- Decimal numbers of one value are read alike. -/
theorem toBinary64_congr {c d : Decimal}
    (h : c.numerator * d.denominator = d.numerator * c.denominator) (negative : Bool) :
    c.toBinary64 negative = d.toBinary64 negative := by
  have hmagnitude : nearestMagnitude (c.numerator * unitsPerOne) c.denominator =
      nearestMagnitude (d.numerator * unitsPerOne) d.denominator := by
    rw [← nearestMagnitude_scale d.denominator_pos, Nat.mul_right_comm, h, Nat.mul_right_comm,
      Nat.mul_comm c.denominator, nearestMagnitude_scale c.denominator_pos]
  rw [toBinary64_eq_nearest, toBinary64_eq_nearest, nearest, nearest, hmagnitude]

/-- What is read is finite exactly if the value lies below the limit. -/
theorem isFinite_toBinary64_iff {negative : Bool} {d : Decimal} :
    (d.toBinary64 negative).isFinite = true ↔ d.numerator < overflowLimit * d.denominator := by
  rw [isFinite, decide_eq_true_eq, magnitude_toBinary64,
    nearestMagnitude_lt_iff d.denominator_pos, Nat.mul_right_comm,
    Nat.mul_lt_mul_right unitsPerOne_pos]

/-- What is read of a larger number is infinite. -/
theorem toBinary64_eq_infinity (negative : Bool) {d : Decimal}
    (h : overflowLimit * d.denominator ≤ d.numerator) :
    d.toBinary64 negative = .infinity negative := by
  have hnot : ¬ (d.toBinary64 negative).isFinite = true :=
    mt isFinite_toBinary64_iff.mp (Nat.not_lt.mpr h)
  rw [isFinite, decide_eq_true_eq, magnitude_toBinary64, Nat.not_lt] at hnot
  rw [toBinary64_eq_nearest, nearest, Nat.le_antisymm (nearestMagnitude_le _ _) hnot]
  rfl

end Reading

section Shortest

variable {x : Binary64}

theorem readsAs_iff {d : Decimal} : readsAs x d = true ↔ (d.toBinary64 false).magnitude = x.magnitude :=
  beq_iff_eq

theorem exact_eq (x : Binary64) :
    ∃ u : Nat, exact x = ⟨x.absUnits * 5 ^ u, -(u : Int)⟩ ∧ unitsPerOne = 2 ^ u := by
  have hexact : exact x = ⟨x.absUnits * Nat.pow 5 1074, -((1074 : Nat) : Int)⟩ := rfl
  rw [hexact]
  unfold unitsPerOne
  generalize 1074 = u
  exact ⟨u, rfl, rfl⟩

/-- All digits of a finite number read back as it. -/
theorem readsAs_exact (hx : x.isFinite = true) : readsAs x (exact x) = true := by
  obtain ⟨u, hexact, hunit⟩ := exact_eq x
  have hwhole : (-(u : Int)).toNat = 0 := Int.toNat_of_nonpos (by omega)
  have hplaces : (- -(u : Int)).toNat = u := by omega
  have hnumerator : (exact x).numerator * unitsPerOne = x.absUnits * 10 ^ u := by
    simp only [hexact, hunit, numerator, hwhole]
    rw [Nat.pow_zero, Nat.mul_one, Nat.mul_assoc, ← Nat.mul_pow]
  have hdenominator : (exact x).denominator = 1 * 10 ^ u := by
    simp only [hexact, denominator, hplaces, Nat.one_mul]
  rw [readsAs_iff, magnitude_toBinary64, hnumerator, hdenominator,
    nearestMagnitude_scale (Nat.pow_pos (by decide))]
  exact nearestMagnitude_unitsOfMagnitude (Nat.le_of_lt (of_decide_eq_true hx))

theorem readsAs_of_nearer? {lowerIsNearer : Bool} {lower upper d : Decimal}
    (h : nearer? x lowerIsNearer lower upper = some d) : readsAs x d = true := by
  unfold nearer? at h
  split at h
  · rename_i hlower hupper
    cases h
    split
    · exact hlower
    · exact hupper
  · rename_i hlower _
    cases h
    exact hlower
  · rename_i _ hupper
    cases h
    exact hupper
  · cases h

theorem readsAs_shortest (hx : x.isFinite = true) : readsAs x (shortest x) = true := by
  unfold shortest
  split
  · rename_i hzero
    have hmagnitude : x.magnitude = 0 := of_decide_eq_true hzero
    rw [readsAs_iff, hmagnitude]
    rfl
  · cases hfound : (List.range' 1 17).findSome? (withDigits? x) with
    | none => exact readsAs_exact hx
    | some d =>
      obtain ⟨n, _, hn⟩ := List.exists_of_findSome?_eq_some hfound
      exact readsAs_of_nearer? hn

/-- The shortest digits read back, whether they are found or all digits are needed. -/
theorem toBinary64_shortest (hx : x.isFinite = true) :
    (shortest x).toBinary64 x.negative = x := by
  rw [toBinary64_eq_ofMagnitude, readsAs_iff.mp (readsAs_shortest hx), ofMagnitude_magnitude]

end Shortest

end Decimal

end ConversionRules
