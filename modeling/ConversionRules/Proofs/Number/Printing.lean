import ConversionRules.Proofs.Number.Reading
import ConversionRules.Proofs.Number.Rounding
import ConversionRules.Text.Blank

/-!
Numbers as text. The digits of whole numbers tell them apart, zeros before them
change nothing, and a binary number that is whole is written without places as
its digits after its sign. With places there is a point between digits.
-/
namespace ConversionRules.Numeral

open Spelling (AreDigits signText)

section Digits

theorem areDigits_toDigits (n : Nat) : AreDigits (Nat.toDigits 10 n) :=
  ⟨Nat.toDigits_ne_nil, fun _ hc => Nat.isDigit_of_mem_toDigits (by decide) (by decide) hc⟩

theorem isUnsigned_toDigits {n : Nat} (hn : n < UInt64.size) : IsUnsigned (Nat.toDigits 10 n) n :=
  ⟨hn, _, areDigits_toDigits n, Nat.ofDigitChars_ten_toDigits, Or.inl rfl⟩

theorem toDigits_inj {m n : Nat} : Nat.toDigits 10 m = Nat.toDigits 10 n ↔ m = n := by
  refine ⟨fun h => ?_, congrArg (Nat.toDigits 10)⟩
  calc m = Nat.ofDigitChars 10 (Nat.toDigits 10 m) 0 := Nat.ofDigitChars_ten_toDigits.symm
    _ = Nat.ofDigitChars 10 (Nat.toDigits 10 n) 0 := by rw [h]
    _ = n := Nat.ofDigitChars_ten_toDigits

/-- A number and its sign are told by its text. -/
theorem integer_inj {m n : Int} : integer m = integer n ↔ m = n := by
  refine ⟨fun h => ?_, congrArg integer⟩
  unfold integer at h
  split at h
  · split at h
    · have habs := toDigits_inj.mp (List.cons.inj h).2
      omega
    · exact absurd h (ne_of_areDigits (areDigits_toDigits _) (by decide))
  · split at h
    · exact absurd h.symm (ne_of_areDigits (areDigits_toDigits _) (by decide))
    · have habs := toDigits_inj.mp h
      omega

theorem mem_integer {c : Char} {n : Int} (hc : c ∈ integer n) : c = '-' ∨ c.isDigit = true := by
  unfold integer at hc
  split at hc
  · exact (List.mem_cons.mp hc).imp_right ((areDigits_toDigits _).2 c)
  · exact Or.inr ((areDigits_toDigits _).2 c hc)

theorem isBlank_of_isDigit {c : Char} (hc : c.isDigit = true) : Text.isBlank c = false := by
  have hlow : 48 ≤ c.toNat := (Char.isDigit_iff_toNat.mp hc).1
  have hhigh : c.toNat ≤ 57 := (Char.isDigit_iff_toNat.mp hc).2
  simp only [Text.isBlank, Bool.or_eq_false_iff, Bool.and_eq_false_iff, decide_eq_false_iff_not,
    beq_eq_false_iff_ne]
  omega

theorem signText_append (negative : Bool) (cs : List Char) :
    signText negative ++ cs = if negative then '-' :: cs else cs := by
  cases negative with
  | true => rfl
  | false => rfl

theorem integer_eq_signed (n : Int) :
    integer n = signText (decide (n < 0)) ++ Nat.toDigits 10 n.natAbs := by
  rw [signText_append, integer]
  simp only [decide_eq_true_eq]

/-- There is no white space around digits and their sign. -/
theorem trim_signed {digits : List Char} (h : AreDigits digits) (negative : Bool) :
    Text.trim (signText negative ++ digits) = signText negative ++ digits := by
  refine Text.trim_of_forall fun c hc => ?_
  rcases List.mem_append.mp hc with hsign | hdigit
  · have hminus : c = '-' := by
      cases negative with
      | false => cases hsign
      | true => exact List.mem_singleton.mp hsign
    rw [hminus]
    rfl
  · exact isBlank_of_isDigit (h.2 c hdigit)

theorem trim_integer (n : Int) : Text.trim (integer n) = integer n := by
  rw [integer_eq_signed]
  exact trim_signed (areDigits_toDigits _) _

end Digits

section Padding

variable (width : Nat) {cs : List Char}

theorem length_padLeft (fill : Char) (cs : List Char) :
    (padLeft width fill cs).length = max width cs.length := by
  rw [padLeft, List.length_append, List.length_replicate]
  omega

theorem areDigits_padLeft (h : AreDigits cs) : AreDigits (padLeft width '0' cs) := by
  refine ⟨List.append_ne_nil_of_right_ne_nil _ h.1, fun c hc => ?_⟩
  rcases List.mem_append.mp hc with hzero | hdigit
  · rw [List.eq_of_mem_replicate hzero]
    rfl
  · exact h.2 c hdigit

theorem ofDigitChars_padLeft (cs : List Char) :
    Nat.ofDigitChars 10 (padLeft width '0' cs) 0 = Nat.ofDigitChars 10 cs 0 := by
  rw [padLeft, Nat.ofDigitChars_append, Nat.ofDigitChars_replicate_zero, Nat.mul_zero]

/-- A whole number of 64 bits is read back from its sign and digits, whatever zeros lead them. -/
theorem readInt64?_signed {digits : List Char} {k : Int64} (hdigits : AreDigits digits)
    (hvalue : Nat.ofDigitChars 10 digits 0 = k.toInt.natAbs) :
    readInt64? (signText (decide (k.toInt < 0)) ++ digits) = some k := by
  have hsigned : IsSigned (signText (decide (k.toInt < 0)) ++ digits) k.toInt := by
    refine ⟨⟨k.minValue_le_toInt, k.toInt_le⟩, digits, hdigits, ?_⟩
    rw [hvalue]
    by_cases hk : k.toInt < 0
    · refine Or.inr ⟨by omega, ?_⟩
      rw [decide_eq_true hk]
      rfl
    · refine Or.inl ⟨by omega, Or.inl ?_⟩
      rw [decide_eq_false hk]
      rfl
  obtain ⟨i, hi, hik⟩ := isSigned_iff.mp hsigned
  rw [hi, Int64.toInt_inj.mp hik]

theorem readInt64?_integer (k : Int64) : readInt64? (integer k.toInt) = some k := by
  rw [integer_eq_signed]
  exact readInt64?_signed (areDigits_toDigits _) Nat.ofDigitChars_ten_toDigits

end Padding

section Places

/-- The digits of a number are enough to be written without places. -/
theorem pointed_zero (n : Nat) : pointed n 0 = Nat.toDigits 10 n := by
  have hfill : 0 + 1 - (Nat.toDigits 10 n).length = 0 := by
    have hpos := List.length_pos_iff.mpr (areDigits_toDigits n).1
    omega
  unfold pointed padLeft
  rw [hfill]
  simp

/-- With places, the point stands between the digits before it and the places. -/
theorem exists_pointed (n places : Nat) : ∃ whole tail, AreDigits whole ∧ tail.length = places ∧
    (∀ c ∈ tail, c.isDigit = true) ∧ Nat.ofDigitChars 10 (whole ++ tail) 0 = n ∧
    pointed n places = whole ++ (if places = 0 then [] else '.' :: tail) := by
  have hdigits := areDigits_padLeft (places + 1) (areDigits_toDigits n)
  have hlength := length_padLeft (places + 1) '0' (Nat.toDigits 10 n)
  have hvalue : Nat.ofDigitChars 10 (padLeft (places + 1) '0' (Nat.toDigits 10 n)) 0 = n := by
    rw [ofDigitChars_padLeft, Nat.ofDigitChars_ten_toDigits]
  unfold pointed
  generalize padLeft (places + 1) '0' (Nat.toDigits 10 n) = ds at hdigits hlength hvalue
  refine ⟨ds.take (ds.length - places), ds.drop (ds.length - places), ⟨?_, ?_⟩, ?_, ?_, ?_, rfl⟩
  · rw [← List.length_pos_iff, List.length_take]
    omega
  · exact fun c hc => hdigits.2 c (List.mem_of_mem_take hc)
  · rw [List.length_drop]
    omega
  · exact fun c hc => hdigits.2 c (List.mem_of_mem_drop hc)
  · rw [List.take_append_drop, hvalue]

/-- A finite number is neither of the words that stand for the others. -/
theorem signed_of_isFinite {x : Binary64} (hx : x.isFinite = true) (text : List Char) :
    signed x text = signText x.negative ++ text := by
  have hlt : x.magnitude < Binary64.infinityMagnitude := of_decide_eq_true hx
  have hnan : x.isNaN = false := decide_eq_false (Nat.not_lt.mpr (Nat.le_of_lt hlt))
  have hinfinite : x.isInfinite = false := decide_eq_false (Nat.ne_of_lt hlt)
  rw [signed, hnan, hinfinite, signText_append]
  rfl

/-- What is no finite number is shown by a word. -/
theorem signed_mem_of_not_isFinite {x : Binary64} (hx : x.isFinite = false) (text : List Char) :
    signed x text ∈ ["NaN".toList, "inf".toList, "-inf".toList] := by
  have hlarge : ¬ x.magnitude < Binary64.infinityMagnitude := of_decide_eq_false hx
  unfold signed
  by_cases hnan : x.isNaN = true
  · rw [if_pos hnan]
    decide
  · have hsmall : ¬ Binary64.infinityMagnitude < x.magnitude := fun h => hnan (decide_eq_true h)
    have hinfinite : x.isInfinite = true :=
      decide_eq_true (Nat.le_antisymm (Nat.le_of_not_lt hsmall) (Nat.le_of_not_lt hlarge))
    rw [if_neg hnan, if_pos hinfinite]
    cases x.negative with
    | true => decide
    | false => decide

/-- A whole number is written without places as the number it is rounded to. -/
theorem fixed_ofInt {n : Int} (hn : n.natAbs.log2 < 1023) :
    fixed 0 (.ofInt n) = integer (Binary64.nearestWhole n) := by
  obtain ⟨hnegative, hfinite, hunits⟩ := Binary64.ofInt_spec hn
  have hdigits : Binary64.roundHalfEven ((Binary64.ofInt n).absUnits * Nat.pow 10 0)
      Binary64.unitsPerOne = Binary64.rounded n.natAbs := by
    rw [Nat.pow_eq, Nat.pow_zero, Nat.mul_one, hunits,
      Binary64.roundHalfEven_mul Binary64.unitsPerOne_pos]
  unfold fixed integer
  rw [hdigits, pointed_zero, signed_of_isFinite hfinite, hnegative,
    Binary64.natAbs_nearestWhole, signText_append]
  simp only [decide_eq_true_eq, Binary64.nearestWhole_neg_iff]

end Places

end ConversionRules.Numeral
