import Mathlib.Algebra.Group.Nat.Defs
import ConversionRules.Number.Binary64

/-!
Which binary number is nearest to a whole number. Rounding keeps 53 binary
digits, so that of the whole numbers those with at most 53 digits before their
final zeros are binary numbers, and any other is replaced by one of these that
is as near as any.
-/
namespace ConversionRules.Binary64

section Quotients

theorem roundHalfEven_cases (num den : Nat) :
    (roundHalfEven num den = num / den ∧ 2 * (num % den) ≤ den) ∨
      (roundHalfEven num den = num / den + 1 ∧ den ≤ 2 * (num % den)) := by
  unfold roundHalfEven
  dsimp only
  split
  · exact Or.inl ⟨rfl, by omega⟩
  · split
    · exact Or.inr ⟨rfl, by omega⟩
    · omega

theorem roundHalfEven_bounds (num den : Nat) :
    num / den ≤ roundHalfEven num den ∧ roundHalfEven num den ≤ num / den + 1 := by
  rcases roundHalfEven_cases num den with ⟨h, _⟩ | ⟨h, _⟩
  · omega
  · omega

theorem roundHalfEven_mul {den : Nat} (hden : 0 < den) (q : Nat) :
    roundHalfEven (q * den) den = q := by
  unfold roundHalfEven
  simp only [Nat.mul_mod_left, Nat.mul_div_cancel q hden, Nat.mul_zero, if_pos hden]

theorem roundHalfEven_scale {c : Nat} (hc : 0 < c) (num den : Nat) :
    roundHalfEven (num * c) (den * c) = roundHalfEven num den := by
  unfold roundHalfEven
  simp only [Nat.mul_div_mul_right num den hc, Nat.mul_mod_mul_right, ← Nat.mul_assoc,
    Nat.mul_lt_mul_right hc]

/-- No multiple of the denominator is nearer than the rounded one. -/
theorem roundHalfEven_nearest {den : Nat} (hden : 0 < den) (num q : Nat) :
    ((num : Int) - (roundHalfEven num den * den : Nat)).natAbs ≤
      ((num : Int) - (q * den : Nat)).natAbs := by
  have hsplit : num / den * den + num % den = num := Nat.div_add_mod' num den
  have hrest : num % den < den := Nat.mod_lt num hden
  have hside : q * den ≤ num / den * den ∨ num / den * den + den ≤ q * den := by
    rcases Nat.lt_or_ge (num / den) q with h | h
    · refine Or.inr ?_
      rw [← Nat.succ_mul]
      exact Nat.mul_le_mul_right den h
    · exact Or.inl (Nat.mul_le_mul_right den h)
  rcases roundHalfEven_cases num den with ⟨h, hhalf⟩ | ⟨h, hhalf⟩
  · rw [h]
    omega
  · rw [h, Nat.succ_mul]
    omega

end Quotients

section Patterns

variable {negative : Bool} {m : Nat}

theorem toNat_bits_ofMagnitude (hm : m < 2 ^ 63) :
    (ofMagnitude negative m).bits.toNat = (if negative then 2 ^ 63 else 0) + m := by
  have hfits : (if negative then 2 ^ 63 else 0) + m < 2 ^ 64 := by
    split <;> omega
  exact UInt64.toNat_ofNat_of_lt' hfits

theorem magnitude_ofMagnitude (hm : m < 2 ^ 63) : (ofMagnitude negative m).magnitude = m := by
  change (ofMagnitude negative m).bits.toNat % 2 ^ 63 = m
  rw [toNat_bits_ofMagnitude hm]
  split <;> omega

theorem negative_ofMagnitude (hm : m < 2 ^ 63) : (ofMagnitude negative m).negative = negative := by
  change decide (2 ^ 63 ≤ (ofMagnitude negative m).bits.toNat) = negative
  rw [toNat_bits_ofMagnitude hm]
  cases negative with
  | false => exact decide_eq_false (by simpa using hm)
  | true => exact decide_eq_true (by simp)

/-- A multiple of 2^k of 53 digits is the one at its offset, and the multiple
one step further is the first of the next exponent. -/
theorem unitsOfMagnitude_offset {k q : Nat} (hq : q ≤ 2 ^ 53) (hk : k = 0 ∨ 2 ^ 52 ≤ q) :
    unitsOfMagnitude (k * 2 ^ 52 + q) = q * 2 ^ k := by
  change (if k * 2 ^ 52 + q < 2 ^ 52 then k * 2 ^ 52 + q
    else (2 ^ 52 + (k * 2 ^ 52 + q) % 2 ^ 52) * 2 ^ ((k * 2 ^ 52 + q) / 2 ^ 52 - 1)) = q * 2 ^ k
  by_cases hsmall : q < 2 ^ 52
  · obtain rfl : k = 0 := by omega
    rw [Nat.zero_mul, Nat.zero_add, if_pos hsmall, Nat.pow_zero, Nat.mul_one]
  · rw [if_neg (by omega)]
    by_cases hlast : q = 2 ^ 53
    · have hexponent : (k * 2 ^ 52 + q) / 2 ^ 52 - 1 = k + 1 := by omega
      have hoffset : (k * 2 ^ 52 + q) % 2 ^ 52 = 0 := by omega
      rw [hexponent, hoffset, hlast, Nat.pow_succ 2 k]
      omega
    · have hexponent : (k * 2 ^ 52 + q) / 2 ^ 52 - 1 = k := by omega
      have hoffset : 2 ^ 52 + (k * 2 ^ 52 + q) % 2 ^ 52 = q := by omega
      rw [hexponent, hoffset]

end Patterns

section Nearest

/-- The quotient in multiples of 2^k has 53 digits, if k is not zero. -/
theorem quotient_bounds {num den k : Nat} (hk : k = Nat.log2 (num / den) - 52) :
    num / (den * 2 ^ k) < 2 ^ 53 ∧ (k = 0 ∨ 2 ^ 52 ≤ num / (den * 2 ^ k)) := by
  have hupper : num / den < 2 ^ (Nat.log2 (num / den) + 1) := Nat.lt_log2_self
  rw [← Nat.div_div_eq_div_mul]
  constructor
  · rw [Nat.div_lt_iff_lt_mul (Nat.two_pow_pos k), ← Nat.pow_add]
    exact Nat.lt_of_lt_of_le hupper (Nat.pow_le_pow_right Nat.two_pos (by omega))
  · by_cases hzero : k = 0
    · exact Or.inl hzero
    · have hlog : Nat.log2 (num / den) = 52 + k := by omega
      have hne : num / den ≠ 0 := by
        intro h
        rw [h, Nat.log2_zero] at hlog
        omega
      have hlower := Nat.log2_self_le hne
      rw [hlog, Nat.pow_add] at hlower
      exact Or.inr ((Nat.le_div_iff_mul_le (Nat.two_pow_pos k)).mpr hlower)

/-- A quotient that is not too large is rounded to a multiple of 2^k. -/
theorem nearest_spec (negative : Bool) {num den k : Nat} (hk : k = Nat.log2 (num / den) - 52)
    (hlarge : k ≤ 2044) :
    (nearest negative num den).negative = negative ∧
      (nearest negative num den).isFinite = true ∧
      (nearest negative num den).absUnits = roundHalfEven num (den * 2 ^ k) * 2 ^ k := by
  obtain ⟨hupper, hlower⟩ := quotient_bounds hk
  obtain ⟨hle, hge⟩ := roundHalfEven_bounds num (den * 2 ^ k)
  have hq : roundHalfEven num (den * 2 ^ k) ≤ 2 ^ 53 := by omega
  have hnormal : k = 0 ∨ 2 ^ 52 ≤ roundHalfEven num (den * 2 ^ k) := by omega
  have hm : nearestMagnitude num den = k * 2 ^ 52 + roundHalfEven num (den * 2 ^ k) := by
    change min (2047 * 2 ^ 52) ((Nat.log2 (num / den) - 52) * 2 ^ 52 +
      roundHalfEven num (den * 2 ^ (Nat.log2 (num / den) - 52))) = _
    rw [← hk]
    omega
  have hsmall : nearestMagnitude num den < 2047 * 2 ^ 52 := by omega
  have hfits : nearestMagnitude num den < 2 ^ 63 := by omega
  have hmagnitude : (nearest negative num den).magnitude = nearestMagnitude num den :=
    magnitude_ofMagnitude hfits
  refine ⟨negative_ofMagnitude hfits, ?_, ?_⟩
  · unfold isFinite
    rw [hmagnitude]
    exact decide_eq_true hsmall
  · unfold absUnits
    rw [hmagnitude, hm]
    exact unitsOfMagnitude_offset hq hnormal

end Nearest

section Whole

/-- A whole number with at most 53 binary digits before its final zeros. -/
def Exact (n : Int) : Prop := ∃ a e : Nat, a < 2 ^ 53 ∧ n.natAbs = a * 2 ^ e

/-- Of the whole numbers that are binary numbers, one that is as near as any. -/
def IsNearest (n m : Int) : Prop :=
  Exact m ∧ ∀ x, Exact x → (n - m).natAbs ≤ (n - x).natAbs

/-- A whole number rounded to 53 binary digits. -/
def rounded (n : Nat) : Nat :=
  roundHalfEven n (2 ^ (n.log2 - 52)) * 2 ^ (n.log2 - 52)

theorem exact_rounded (n : Nat) : Exact (rounded n) := by
  have hstep : n.log2 - 52 = Nat.log2 (n / 1) - 52 := by rw [Nat.div_one]
  have hquotient := quotient_bounds hstep
  rw [Nat.one_mul] at hquotient
  obtain ⟨_, hle⟩ := roundHalfEven_bounds n (2 ^ (n.log2 - 52))
  rcases Nat.lt_or_ge (roundHalfEven n (2 ^ (n.log2 - 52))) (2 ^ 53) with h | h
  · exact ⟨_, _, h, Int.natAbs_natCast _⟩
  · refine ⟨1, 53 + (n.log2 - 52), by decide, ?_⟩
    have hlast : roundHalfEven n (2 ^ (n.log2 - 52)) = 2 ^ 53 := by omega
    rw [Int.natAbs_natCast, rounded, hlast, Nat.one_mul, Nat.pow_add]

/-- No number of 53 binary digits is nearer. One that is no multiple of the
rounding step lies below the greatest power of two, which is a multiple. -/
theorem rounded_nearest {n x : Nat} (hx : Exact x) :
    ((n : Int) - rounded n).natAbs ≤ ((n : Int) - x).natAbs := by
  obtain ⟨a, e, ha, hvalue⟩ := hx
  rw [Int.natAbs_natCast] at hvalue
  have hstep := roundHalfEven_nearest (Nat.two_pow_pos (n.log2 - 52)) n
  rcases Nat.lt_or_ge e (n.log2 - 52) with he | he
  · have hlog : n.log2 = 52 + (n.log2 - 52) := by omega
    have hne : n ≠ 0 := by
      rintro rfl
      rw [Nat.log2_zero] at he
      omega
    have hpower : 2 ^ 52 * 2 ^ (n.log2 - 52) ≤ n := by
      rw [← Nat.pow_add, ← hlog]
      exact Nat.log2_self_le hne
    have hbelow : x ≤ 2 ^ 52 * 2 ^ (n.log2 - 52) := by
      calc x = a * 2 ^ e := hvalue
        _ ≤ 2 ^ 53 * 2 ^ e := Nat.mul_le_mul_right _ (Nat.le_of_lt ha)
        _ = 2 ^ 52 * 2 ^ (e + 1) := by rw [Nat.pow_succ 2 e]; omega
        _ ≤ 2 ^ 52 * 2 ^ (n.log2 - 52) :=
          Nat.mul_le_mul_left _ (Nat.pow_le_pow_right Nat.two_pos he)
    have h := hstep (2 ^ 52)
    unfold rounded
    omega
  · have hmultiple : a * 2 ^ (e - (n.log2 - 52)) * 2 ^ (n.log2 - 52) = x := by
      rw [Nat.mul_assoc, ← Nat.pow_add, Nat.sub_add_cancel he, hvalue]
    have h := hstep (a * 2 ^ (e - (n.log2 - 52)))
    rw [hmultiple] at h
    exact h

theorem rounded_pos {n : Nat} (hn : 0 < n) : 0 < rounded n := by
  have hone : Exact (1 : Nat) := ⟨1, 0, by decide, rfl⟩
  have h := rounded_nearest (n := n) hone
  omega

/-- Rounding a number to 53 digits and rounding it in small units is the same:
where it has fewer digits than 53, neither changes it. -/
theorem roundHalfEven_units {u k : Nat} (n : Nat) (hk : k + 52 = n.log2 + u) :
    roundHalfEven (n * 2 ^ u) (2 ^ k) * 2 ^ k = rounded n * 2 ^ u := by
  rcases Nat.lt_or_ge n.log2 52 with hlog | hlog
  · have hsplit : 52 - n.log2 + k = u := by omega
    have hunits : n * 2 ^ u = n * 2 ^ (52 - n.log2) * 2 ^ k := by
      rw [Nat.mul_assoc, ← Nat.pow_add, hsplit]
    have hstep : n.log2 - 52 = 0 := by omega
    have hrounded : rounded n = n := by
      have h := roundHalfEven_mul Nat.one_pos n
      rw [Nat.mul_one] at h
      rw [rounded, hstep, Nat.pow_zero, h, Nat.mul_one]
    rw [hrounded, hunits, roundHalfEven_mul (Nat.two_pow_pos k)]
  · have hsplit : k = n.log2 - 52 + u := by omega
    have hstep : 2 ^ k = 2 ^ (n.log2 - 52) * 2 ^ u := by rw [← Nat.pow_add, hsplit]
    rw [hstep, roundHalfEven_scale (Nat.two_pow_pos u), rounded, Nat.mul_assoc]

theorem log2_lt_of_lt {n k : Nat} (hk : 0 < k) (h : n < 2 ^ k) : n.log2 < k := by
  by_cases hzero : n = 0
  · rw [hzero, Nat.log2_zero]
    exact hk
  · exact (Nat.log2_lt hzero).mpr h

theorem log2_mul_two_pow {n : Nat} (hn : n ≠ 0) (k : Nat) : (n * 2 ^ k).log2 = n.log2 + k := by
  rw [Nat.log2_eq_iff (Nat.mul_ne_zero hn (Nat.ne_of_gt (Nat.two_pow_pos k)))]
  constructor
  · rw [Nat.pow_add]
    exact Nat.mul_le_mul_right _ (Nat.log2_self_le hn)
  · rw [Nat.add_right_comm, Nat.pow_add]
    exact Nat.mul_lt_mul_of_pos_right Nat.lt_log2_self (Nat.two_pow_pos k)

/-- The whole number that stands for another one among the binary numbers. -/
def nearestWhole (n : Int) : Int :=
  if n < 0 then -(rounded n.natAbs : Int) else rounded n.natAbs

theorem natAbs_nearestWhole (n : Int) : (nearestWhole n).natAbs = rounded n.natAbs := by
  unfold nearestWhole
  split <;> omega

theorem nearestWhole_neg_iff {n : Int} : nearestWhole n < 0 ↔ n < 0 := by
  unfold nearestWhole
  split
  · rename_i hneg
    have hpos := rounded_pos (Int.natAbs_pos.mpr (Int.ne_of_lt hneg))
    omega
  · omega

theorem exact_nearestWhole (n : Int) : Exact (nearestWhole n) := by
  obtain ⟨a, e, ha, hvalue⟩ := exact_rounded n.natAbs
  exact ⟨a, e, ha, (natAbs_nearestWhole n).trans hvalue⟩

theorem isNearest_nearestWhole (n : Int) : IsNearest n (nearestWhole n) := by
  refine ⟨exact_nearestWhole n, fun x hx => ?_⟩
  have h := rounded_nearest (n := n.natAbs) (x := x.natAbs) hx
  unfold nearestWhole
  split <;> omega

theorem nearestWhole_eq_iff {n : Int} : nearestWhole n = n ↔ Exact n := by
  constructor
  · intro h
    exact h ▸ exact_nearestWhole n
  · intro hn
    have h := (isNearest_nearestWhole n).2 n hn
    omega

/-- The exponent is named, as the power itself is too large to be written out. -/
theorem unitsPerOne_eq : ∃ u, u = 1074 ∧ unitsPerOne = 2 ^ u := by
  unfold unitsPerOne
  generalize 1074 = u
  exact ⟨u, rfl, rfl⟩

theorem unitsPerOne_pos : 0 < unitsPerOne := by
  obtain ⟨u, _, hunit⟩ := unitsPerOne_eq
  rw [hunit]
  exact Nat.two_pow_pos u

/-- A whole number that is not too large becomes the one nearest to it. -/
theorem ofInt_spec {n : Int} (hn : n.natAbs.log2 < 1023) :
    (ofInt n).negative = decide (n < 0) ∧ (ofInt n).isFinite = true ∧
      (ofInt n).absUnits = rounded n.natAbs * unitsPerOne := by
  by_cases hzero : n.natAbs = 0
  · obtain rfl : n = 0 := Int.natAbs_eq_zero.mp hzero
    decide +kernel
  · obtain ⟨u, hu, hunit⟩ := unitsPerOne_eq
    have hk : n.natAbs.log2 + 1022 = Nat.log2 (n.natAbs * unitsPerOne / 1) - 52 := by
      rw [Nat.div_one, hunit, log2_mul_two_pow hzero]
      omega
    obtain ⟨hnegative, hfinite, hunits⟩ :=
      nearest_spec (decide (n < 0)) hk (by omega)
    have hrounded := roundHalfEven_units (u := u) (k := n.natAbs.log2 + 1022) n.natAbs (by omega)
    rw [Nat.one_mul] at hunits
    rw [← hunit] at hrounded
    exact ⟨hnegative, hfinite, hunits.trans hrounded⟩

theorem toInt?_ofInt {n : Int} (hn : n.natAbs.log2 < 1023) :
    (ofInt n).toInt? = some (nearestWhole n) := by
  obtain ⟨hnegative, hfinite, hunits⟩ := ofInt_spec hn
  have hne : (unitsPerOne : Int) ≠ 0 := Int.natCast_ne_zero.mpr (Nat.ne_of_gt unitsPerOne_pos)
  have hvalue : (ofInt n).units = nearestWhole n * unitsPerOne := by
    unfold units nearestWhole
    simp only [hnegative, hunits, decide_eq_true_eq]
    split
    · rw [Int.natCast_mul, Int.neg_mul]
    · rw [Int.natCast_mul]
  unfold toInt?
  rw [hfinite, hunits, Nat.mul_mod_left, hvalue, Int.mul_ediv_cancel _ hne]
  rfl

end Whole

end ConversionRules.Binary64
