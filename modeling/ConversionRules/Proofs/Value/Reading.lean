import Mathlib.Algebra.Group.Int.Defs
import ConversionRules.Proofs.Number.Rounding
import ConversionRules.Value.Reading

/-!
What a binary number is read as where a whole number is asked for. A number
that is whole is read as itself if it has 64 bits. The only other number that is
read is 2^63, one more than the greatest of them, and it is read as that one.
-/
namespace ConversionRules

namespace Binary64

/-- The number is this whole number exactly. -/
def IsWhole (x : Binary64) (n : Int) : Prop := x.isFinite = true ∧ x.units = n * unitsPerOne

theorem natAbs_units (x : Binary64) : x.units.natAbs = x.absUnits := by
  unfold units
  split
  · rw [Int.natAbs_neg, Int.natAbs_natCast]
  · rw [Int.natAbs_natCast]

theorem toInt?_eq_some_iff {x : Binary64} {n : Int} : x.toInt? = some n ↔ x.IsWhole n := by
  have hone : (unitsPerOne : Int) ≠ 0 := Int.natCast_ne_zero.mpr (Nat.ne_of_gt unitsPerOne_pos)
  have hdvd : x.absUnits % unitsPerOne = 0 ↔ (unitsPerOne : Int) ∣ x.units := by
    rw [Int.ofNat_dvd_left, natAbs_units, Nat.dvd_iff_mod_eq_zero]
  unfold toInt? IsWhole
  simp only [Bool.and_eq_true, beq_iff_eq, hdvd, Option.ite_none_right_eq_some, Option.some.injEq]
  constructor
  · rintro ⟨⟨hfinite, hmultiple⟩, rfl⟩
    exact ⟨hfinite, (Int.ediv_mul_cancel hmultiple).symm⟩
  · rintro ⟨hfinite, hunits⟩
    rw [hunits, Int.mul_ediv_cancel _ hone]
    exact ⟨⟨hfinite, Int.dvd_mul_left _ _⟩, rfl⟩

/-- A number is at most one whole number. -/
theorem IsWhole.unique {x : Binary64} {m n : Int} (hm : x.IsWhole m) (hn : x.IsWhole n) : m = n :=
  Option.some.inj ((toInt?_eq_some_iff.mpr hm).symm.trans (toInt?_eq_some_iff.mpr hn))

end Binary64

namespace Value

theorem toInt_maxValue : Int64.maxValue.toInt = 2 ^ 63 - 1 := by decide

theorem toInt_minValue : Int64.minValue.toInt = -2 ^ 63 := by decide

/-- The whole number of 64 bits that a binary number is read as. -/
def ReadsAs (x : Binary64) (n : Int64) : Prop :=
  x.IsWhole n.toInt ∨ x.IsWhole (2 ^ 63) ∧ n = Int64.maxValue

theorem wholeNumber?_eq_some_iff {x : Binary64} {n : Int64} :
    wholeNumber? x = some n ↔ ReadsAs x n := by
  unfold wholeNumber? ReadsAs
  simp only [Option.bind_eq_some_iff, Binary64.toInt?_eq_some_iff, Bool.and_eq_true,
    decide_eq_true_eq, toInt_maxValue, toInt_minValue, Option.ite_none_right_eq_some,
    Option.some.injEq]
  constructor
  · rintro ⟨i, hi, ⟨hleast, hgreatest⟩, rfl⟩
    by_cases hlast : i = 2 ^ 63
    · subst hlast
      exact Or.inr ⟨hi, by decide⟩
    · have hmin : min i (2 ^ 63 - 1) = i := by omega
      rw [hmin, Int64.toInt_ofInt_of_le (by omega) (by omega)]
      exact Or.inl hi
  · rintro (hn | ⟨hlast, rfl⟩)
    · have hleast := n.le_toInt
      have hgreatest := n.toInt_lt
      have hmin : min n.toInt (2 ^ 63 - 1) = n.toInt := by omega
      refine ⟨n.toInt, hn, ⟨hleast, by omega⟩, ?_⟩
      rw [hmin, Int64.ofInt_toInt]
    · exact ⟨2 ^ 63, hlast, by decide, by decide⟩

/-- A number is read exactly if it is whole and from -2^63 to 2^63. -/
theorem exists_readsAs_iff {x : Binary64} :
    (∃ n, ReadsAs x n) ↔ ∃ i : Int, x.IsWhole i ∧ -2 ^ 63 ≤ i ∧ i ≤ 2 ^ 63 := by
  constructor
  · rintro ⟨n, hn | ⟨hlast, _⟩⟩
    · exact ⟨n.toInt, hn, n.le_toInt, Int.le_of_lt n.toInt_lt⟩
    · exact ⟨2 ^ 63, hlast, by decide, by decide⟩
  · rintro ⟨i, hi, hleast, hgreatest⟩
    by_cases hlast : i = 2 ^ 63
    · exact ⟨Int64.maxValue, Or.inr ⟨hlast ▸ hi, rfl⟩⟩
    · refine ⟨Int64.ofInt i, Or.inl ?_⟩
      rwa [Int64.toInt_ofInt_of_le hleast (by omega)]

end Value

end ConversionRules
