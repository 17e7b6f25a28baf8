import ConversionRules.Proofs.Document.Tokens
import ConversionRules.Proofs.Number.Decimals
import ConversionRules.Proofs.Number.Printing

/-!
Numbers read back from their texts. A text of digits, with or without a point
among them, is read as the decimal number that it shows, and a finite number is
shown by a decimal one that stands for it. So a number is read back from its
text, its sign included.
-/
namespace ConversionRules.Numeral

open Spelling (AreDigits signText takeWhile_dropWhile_append)

section Places

/-- What stands after the digits before the point. -/
def pointedTail (tail : List Char) : List Char := if tail.length = 0 then [] else '.' :: tail

variable {whole tail : List Char}

theorem pointedTail_stops (tail : List Char) : ∀ c ∈ (pointedTail tail).head?, c.isDigit = false := by
  unfold pointedTail
  split
  · simp
  · intro c hc
    cases hc
    rfl

theorem ofUnsigned?_pointed (hwhole : AreDigits whole) (htail : ∀ c ∈ tail, c.isDigit = true) :
    ofUnsigned? (whole ++ pointedTail tail) =
      some ⟨Nat.ofDigitChars 10 (whole ++ tail) 0, -(tail.length : Int)⟩ := by
  obtain ⟨htake, hdrop⟩ := takeWhile_dropWhile_append hwhole.2 (pointedTail_stops tail)
  have hnonempty : whole.isEmpty = false := List.isEmpty_eq_false_iff.mpr hwhole.1
  unfold ofUnsigned?
  simp only [htake, hdrop, hnonempty, Bool.false_and]
  by_cases hlength : tail.length = 0
  · obtain rfl := List.eq_nil_of_length_eq_zero hlength
    simp [pointedTail, readExponent?]
  · have hend : ∀ c ∈ ([] : List Char).head?, c.isDigit = false := by simp
    obtain ⟨htaken, hdropped⟩ := takeWhile_dropWhile_append htail hend
    rw [List.append_nil] at htaken hdropped
    simp [pointedTail, hlength, htaken, hdropped, readExponent?]

/-- The sign is read before the digits, which begin with none. -/
theorem takeSign_signText (hwhole : AreDigits whole) (negative : Bool) (rest : List Char) :
    takeSign (signText negative ++ (whole ++ rest)) = (negative, whole ++ rest) := by
  cases negative with
  | true => rfl
  | false =>
    obtain ⟨c, cs, rfl⟩ := List.exists_cons_of_ne_nil hwhole.1
    change takeSign (c :: (cs ++ rest)) = (false, c :: (cs ++ rest))
    unfold takeSign
    split
    · rename_i heq
      rw [(List.cons.inj heq).1] at hwhole
      exact absurd rfl (ne_of_areDigits hwhole (by decide))
    · rename_i heq
      rw [(List.cons.inj heq).1] at hwhole
      exact absurd rfl (ne_of_areDigits hwhole (by decide))
    · rfl

/-- Without places there are as many zeros as the exponent says, or none after a zero. -/
theorem areDigits_positional (n e : Nat) : AreDigits (positional ⟨n, .ofNat e⟩) := by
  refine ⟨List.append_ne_nil_of_left_ne_nil Nat.toDigits_ne_nil _, fun c hc => ?_⟩
  rcases List.mem_append.mp hc with hdigit | hzero
  · exact (areDigits_toDigits n).2 c hdigit
  · split at hzero
    · cases hzero
    · rw [List.eq_of_mem_replicate hzero]
      rfl

theorem ofDigitChars_positional (n e : Nat) :
    Nat.ofDigitChars 10 (positional ⟨n, .ofNat e⟩) 0 = n * 10 ^ e := by
  unfold positional
  dsimp only
  rw [Nat.ofDigitChars_append, Nat.ofDigitChars_ten_toDigits]
  split
  · rename_i hzero
    rw [hzero, Nat.zero_mul, Nat.ofDigitChars_nil]
  · rw [Nat.ofDigitChars_replicate_zero, Nat.mul_comm]

/-- The text of a decimal number shows digits that stand for it. -/
theorem exists_positional (d : Decimal) : ∃ whole tail, AreDigits whole ∧
    (∀ c ∈ tail, c.isDigit = true) ∧ positional d = whole ++ pointedTail tail ∧
    ∀ negative, Decimal.toBinary64 negative
      ⟨Nat.ofDigitChars 10 (whole ++ tail) 0, -(tail.length : Int)⟩ = d.toBinary64 negative := by
  obtain ⟨n, e⟩ := d
  cases e with
  | ofNat e =>
    refine ⟨positional ⟨n, .ofNat e⟩, [], areDigits_positional n e,
      fun c hc => absurd hc List.not_mem_nil, (List.append_nil _).symm,
      Decimal.toBinary64_congr ?_⟩
    have hplaces : (-Int.ofNat e).toNat = 0 :=
      Int.toNat_of_nonpos (Int.neg_nonpos_of_nonneg (Int.natCast_nonneg e))
    unfold Decimal.numerator Decimal.denominator
    dsimp only
    rw [List.append_nil, ofDigitChars_positional, hplaces]
    simp
  | negSucc e =>
    obtain ⟨whole, tail, hwhole, hlength, htail, hvalue, hpointed⟩ := exists_pointed n (e + 1)
    refine ⟨whole, tail, hwhole, htail, ?_, fun negative => ?_⟩
    · rw [pointedTail, hlength]
      exact hpointed
    · rw [hvalue, hlength]
      rfl

end Places

section Signs

/-- A decimal number that is finite as a binary one is read back from its text. -/
theorem readFinite?_positional {negative : Bool} {d : Decimal}
    (hfinite : (d.toBinary64 negative).isFinite = true) :
    readFinite? (signText negative ++ positional d) = some (d.toBinary64 negative) := by
  obtain ⟨whole, tail, hwhole, htail, htext, hvalue⟩ := exists_positional d
  unfold readFinite?
  rw [htext, takeSign_signText hwhole]
  dsimp only
  rw [ofUnsigned?_pointed hwhole htail]
  dsimp only
  rw [hvalue, if_pos hfinite]

theorem readFinite?_plain {x : Binary64} (hx : x.isFinite = true) : readFinite? (plain x) = some x := by
  have hback : (Decimal.shortest x).toBinary64 x.negative = x := Decimal.toBinary64_shortest hx
  rw [plain, signed_of_isFinite hx, readFinite?_positional (by rw [hback, hx]), hback]

/-- A whole number is the decimal one of its digits. -/
theorem ofInt_eq_toBinary64 (n : Int) :
    Binary64.ofInt n = Decimal.toBinary64 (decide (n < 0)) ⟨n.natAbs, 0⟩ := by
  rw [Decimal.toBinary64_eq_nearest]
  unfold Decimal.numerator Decimal.denominator Binary64.ofInt
  simp

theorem readFinite?_integer {n : Int} (hn : n.natAbs.log2 < 1023) :
    readFinite? (integer n) = some (.ofInt n) := by
  have htext : integer n = signText (decide (n < 0)) ++ positional ⟨n.natAbs, 0⟩ := by
    have hdigits : positional ⟨n.natAbs, 0⟩ = Nat.toDigits 10 n.natAbs := by
      change Nat.toDigits 10 n.natAbs ++ (if n.natAbs = 0 then [] else List.replicate 0 '0') = _
      simp
    rw [hdigits, integer_eq_signed]
  have hfinite := (Binary64.ofInt_spec hn).2.1
  rw [ofInt_eq_toBinary64] at hfinite
  rw [htext, readFinite?_positional hfinite, ofInt_eq_toBinary64]

/-- There is no white space in the text of a decimal number. -/
theorem isBlank_of_mem_positional {negative : Bool} {d : Decimal} {c : Char}
    (hc : c ∈ signText negative ++ positional d) : Text.isBlank c = false := by
  obtain ⟨whole, tail, hwhole, htail, htext, -⟩ := exists_positional d
  rw [htext, List.mem_append, List.mem_append] at hc
  rcases hc with hsign | hwholeDigit | hrest
  · cases negative with
    | false => cases hsign
    | true =>
      rw [List.mem_singleton.mp hsign]
      rfl
  · exact isBlank_of_isDigit (hwhole.2 c hwholeDigit)
  · unfold pointedTail at hrest
    split at hrest
    · cases hrest
    · rcases List.mem_cons.mp hrest with rfl | htailDigit
      · rfl
      · exact isBlank_of_isDigit (htail c htailDigit)

end Signs

end ConversionRules.Numeral
