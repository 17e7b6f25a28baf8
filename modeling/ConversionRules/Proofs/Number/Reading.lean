import ConversionRules.Number.Numeral
import ConversionRules.Proofs.Document.Spelling

/-!
Which texts are whole numbers: digits after an optional sign, whose value fits
64 bits. The value of the digits is the number, whatever zeros lead them.
-/
namespace ConversionRules.Numeral

open Spelling (AreDigits)

/-- Digits that have a value, a plus sign before them or not. -/
def IsUnsigned (cs : List Char) (n : Nat) : Prop :=
  n < UInt64.size ∧ ∃ digits, AreDigits digits ∧ Nat.ofDigitChars 10 digits 0 = n ∧
    (cs = digits ∨ cs = '+' :: digits)

/-- Digits that have a value, any sign before them or none. -/
def IsSigned (cs : List Char) (n : Int) : Prop :=
  (Int64.minValue.toInt ≤ n ∧ n ≤ Int64.maxValue.toInt) ∧
    ∃ digits, AreDigits digits ∧
      (((Nat.ofDigitChars 10 digits 0 : Int) = n ∧ (cs = digits ∨ cs = '+' :: digits)) ∨
        (-(Nat.ofDigitChars 10 digits 0 : Int) = n ∧ cs = '-' :: digits))

theorem readNat?_eq_some_iff {cs : List Char} {n : Nat} :
    readNat? cs = some n ↔ AreDigits cs ∧ Nat.ofDigitChars 10 cs 0 = n := by
  unfold readNat? AreDigits
  split
  · rename_i h
    simp only [Bool.or_eq_true, List.isEmpty_iff, Bool.not_eq_true', List.all_eq_false] at h
    grind
  · rename_i h
    simp only [Bool.or_eq_true, List.isEmpty_iff, Bool.not_eq_true', List.all_eq_false] at h
    grind

/-- Digits do not begin with a sign. -/
theorem ne_of_areDigits {c : Char} {cs digits : List Char} (hdigits : AreDigits digits)
    (hc : c.isDigit = false) : c :: cs ≠ digits := by
  rintro rfl
  have hdigit := hdigits.2 c List.mem_cons_self
  rw [hc] at hdigit
  cases hdigit

theorem isUnsigned_iff {cs : List Char} {n : Nat} :
    IsUnsigned cs n ↔ ∃ i, readUInt64? cs = some i ∧ i.toNat = n := by
  constructor
  · rintro ⟨hfits, digits, hdigits, hn, htext⟩
    have hvalue : readNat? digits = some n := readNat?_eq_some_iff.mpr ⟨hdigits, hn⟩
    refine ⟨.ofNat n, ?_, UInt64.toNat_ofNat_of_lt' hfits⟩
    rcases htext with rfl | rfl
    · unfold readUInt64?
      split
      · exact absurd rfl (ne_of_areDigits hdigits (by decide))
      · rw [hvalue]
        exact if_pos hfits
    · simp only [readUInt64?, hvalue]
      exact if_pos hfits
  · rintro ⟨i, hi, rfl⟩
    obtain ⟨m, hm, hvalue⟩ := Option.bind_eq_some_iff.mp hi
    split at hvalue
    · rename_i hfits
      cases hvalue
      rw [UInt64.toNat_ofNat_of_lt' hfits]
      refine ⟨hfits, ?_⟩
      split at hm
      · obtain ⟨hdigits, hn⟩ := readNat?_eq_some_iff.mp hm
        exact ⟨_, hdigits, hn, Or.inr rfl⟩
      · obtain ⟨hdigits, hn⟩ := readNat?_eq_some_iff.mp hm
        exact ⟨_, hdigits, hn, Or.inl rfl⟩
    · cases hvalue

theorem readInt?_eq_some_iff {cs : List Char} {n : Int} :
    readInt? cs = some n ↔ ∃ m : Nat, readNat? (takeSign cs).2 = some m ∧
      (if (takeSign cs).1 then -(m : Int) else m) = n := by
  unfold readInt?
  cases hread : readNat? (takeSign cs).2 with
  | none => simp [hread]
  | some m => simp [hread]

theorem isSigned_iff {cs : List Char} {n : Int} :
    IsSigned cs n ↔ ∃ i, readInt64? cs = some i ∧ i.toInt = n := by
  have hread : (∃ i, readInt64? cs = some i ∧ i.toInt = n) ↔
      (Int64.minValue.toInt ≤ n ∧ n ≤ Int64.maxValue.toInt) ∧ readInt? cs = some n := by
    simp only [readInt64?, Option.bind_eq_some_iff, Bool.and_eq_true, decide_eq_true_eq]
    constructor
    · rintro ⟨i, ⟨m, hm, hi⟩, rfl⟩
      split at hi
      · rename_i hfits
        cases hi
        rw [Int64.toInt_ofInt_of_le hfits.1 (Int.lt_add_one_of_le hfits.2)]
        exact ⟨hfits, hm⟩
      · cases hi
    · rintro ⟨hfits, hm⟩
      exact ⟨.ofInt n, ⟨n, hm, if_pos hfits⟩,
        Int64.toInt_ofInt_of_le hfits.1 (Int.lt_add_one_of_le hfits.2)⟩
  rw [hread, IsSigned, and_congr_right_iff]
  intro _
  simp only [readInt?_eq_some_iff, readNat?_eq_some_iff]
  constructor
  · rintro ⟨digits, hdigits, ⟨hn, rfl | rfl⟩ | ⟨hn, rfl⟩⟩
    · have hplain : takeSign cs = (false, cs) := by
        unfold takeSign
        split
        · exact absurd rfl (ne_of_areDigits hdigits (by decide))
        · exact absurd rfl (ne_of_areDigits hdigits (by decide))
        · rfl
      rw [hplain]
      exact ⟨_, ⟨hdigits, rfl⟩, hn⟩
    · exact ⟨_, ⟨hdigits, rfl⟩, hn⟩
    · exact ⟨_, ⟨hdigits, rfl⟩, hn⟩
  · rintro ⟨m, ⟨hdigits, rfl⟩, hn⟩
    unfold takeSign at hdigits hn
    split at hdigits
    · exact ⟨_, hdigits, Or.inr ⟨hn, rfl⟩⟩
    · exact ⟨_, hdigits, Or.inl ⟨hn, Or.inr rfl⟩⟩
    · exact ⟨_, hdigits, Or.inl ⟨by simpa using hn, Or.inl rfl⟩⟩

end ConversionRules.Numeral
