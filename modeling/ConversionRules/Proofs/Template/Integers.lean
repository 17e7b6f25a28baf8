import ConversionRules.Proofs.Template.Segments
import ConversionRules.Proofs.Number.Printing

/-!
Whole numbers in templates. Without a format and with the format D a whole
number of 64 bits is written as it is. The formats F and N write the binary
number nearest to it, so that they show another number where 53 binary digits
are too few for it; grouping only puts commas between the digits.
-/
namespace ConversionRules.Template

open Binary64 (Exact IsNearest nearestWhole)
open Numeral (IsUnsigned integer)

section Grouping

theorem filter_group (cs : List Char) :
    (group cs).filter (· != ',') = cs.filter (· != ',') := by
  induction cs with
  | nil => rfl
  | cons c rest ih =>
    rw [group]
    split
    · rename_i hlast
      rw [List.isEmpty_iff.mp hlast]
    · split
      · simp only [List.filter_cons, ih]
        rfl
      · simp only [List.filter_cons, ih]

theorem groupWhole_negative {cs whole : List Char} {places : Option (List Char)}
    (hcut : cutAt '.' cs = (whole, places)) :
    groupWhole ('-' :: cs) = '-' :: (group whole ++ attached '.' places) := by
  simp only [groupWhole, hcut]
  cases places with
  | none => rw [attached, List.append_nil]
  | some places => rfl

theorem groupWhole_unsigned {cs whole : List Char} {places : Option (List Char)}
    (hsign : cs.head? ≠ some '-') (hcut : cutAt '.' cs = (whole, places)) :
    groupWhole cs = group whole ++ attached '.' places := by
  unfold groupWhole
  split
  · exact absurd rfl hsign
  · simp only [hcut]
    cases places with
    | none => rw [attached, List.append_nil]
    | some places => rfl

/-- Grouping adds nothing but commas. -/
theorem filter_groupWhole (cs : List Char) :
    (groupWhole cs).filter (· != ',') = cs.filter (· != ',') := by
  by_cases hsign : cs.head? = some '-'
  · obtain ⟨rest, rfl⟩ := List.head?_eq_some_iff.mp hsign
    cases hcut : cutAt '.' rest with
    | mk whole places =>
      obtain ⟨_, rfl⟩ := cutAt_eq_iff.mp hcut
      rw [groupWhole_negative hcut, List.filter_cons_of_pos (by decide),
        List.filter_cons_of_pos (by decide), List.filter_append, filter_group, List.filter_append]
  · cases hcut : cutAt '.' cs with
    | mk whole places =>
      obtain ⟨_, rfl⟩ := cutAt_eq_iff.mp hcut
      rw [groupWhole_unsigned hsign hcut, List.filter_append, filter_group, List.filter_append]

/-- A whole number holds no comma. -/
theorem filter_integer (n : Int) : (integer n).filter (· != ',') = integer n := by
  refine List.filter_eq_self.mpr fun c hc => bne_iff_ne.mpr ?_
  rintro rfl
  rcases Numeral.mem_integer hc with h | h
  · cases h
  · cases h

end Grouping

section Formats

theorem isUnsigned_zero : IsUnsigned ['0'] 0 := Numeral.isUnsigned_toDigits (by decide)

theorem zeroPadded_zero (n : Int) : zeroPadded 0 n = integer n := by
  unfold zeroPadded Numeral.padLeft integer
  rw [Nat.zero_sub, List.replicate_zero, List.nil_append]

theorem log2_toInt_lt (v : Int64) : v.toInt.natAbs.log2 < 1023 := by
  have hfits : v.toInt.natAbs < 2 ^ 64 := by
    have hlow := v.le_toInt
    have hhigh := v.toInt_lt
    omega
  exact Nat.lt_trans (Binary64.log2_lt_of_lt (by decide) hfits) (by decide)

/-- A template that is the placeholder of an argument, in a format or without one. -/
theorem evaluate_placeholder {t : String} {w v : Value} {i : Nat} {format : Option (List Char)}
    {shown : List Char}
    (ht : t.toList = '\x7b' :: (Nat.toDigits 10 i ++ attached ':' format) ++ ['\x7d'])
    (hi : i < UInt64.size) (hv : (arguments w)[i]? = some v)
    (hformat : '\x7d' ∉ attached ':' format) (h : Shown format v shown) :
    evaluate (some t) w = .ok (.string (String.ofList shown)) := by
  have hdigits := Numeral.areDigits_toDigits i
  have hbrace {c : Char} (hc : c.isDigit = false) : c ∉ Nat.toDigits 10 i := by
    intro hmem
    cases hc.symm.trans (hdigits.2 c hmem)
  have htrimmed : Text.Trimmed (Nat.toDigits 10 i) (Nat.toDigits 10 i) :=
    Text.trim_eq_iff.mp (Numeral.trim_signed hdigits false)
  have hplaceholder :
      Placeholder (arguments w) (Nat.toDigits 10 i ++ attached ':' format) shown := by
    have hparts := Placeholder.mk htrimmed (Numeral.isUnsigned_toDigits hi) hv h (.unaligned shown)
    rwa [attached, List.append_nil] at hparts
  have hhead : (Nat.toDigits 10 i ++ attached ':' format).head? ≠ some '\x7b' := by
    obtain ⟨c, rest, hcons⟩ := List.exists_cons_of_ne_nil hdigits.1
    rw [hcons]
    intro hopening
    cases hopening
    exact hbrace rfl (hcons ▸ List.mem_cons_self)
  have hexpand := expand_segment (.placeholder (List.not_mem_append (hbrace rfl) hformat) hhead
    hplaceholder)
  rw [← ht] at hexpand
  simp only [evaluate, hexpand]

variable (v : Int64)

theorem evaluate_unformatted :
    evaluate (some "\x7b0\x7d") (.int v) = .ok (.string (String.ofList (integer v.toInt))) :=
  evaluate_placeholder (i := 0) rfl (by decide) rfl (by decide) (.plain (.int v))

theorem evaluate_padded :
    evaluate (some "\x7b0:D\x7d") (.int v) = .ok (.string (String.ofList (integer v.toInt))) := by
  rw [← zeroPadded_zero]
  exact evaluate_placeholder (i := 0) rfl (by decide) rfl (by decide)
    (.specified (.padded (Or.inl rfl) .default))

theorem evaluate_fixed :
    evaluate (some "\x7b0:F0\x7d") (.int v) =
      .ok (.string (String.ofList (integer (nearestWhole v.toInt)))) := by
  rw [← Numeral.fixed_ofInt (log2_toInt_lt v)]
  exact evaluate_placeholder (i := 0) rfl (by decide) rfl (by decide)
    (.specified (.fixed (Or.inl rfl) (.int v) (.given isUnsigned_zero (by decide))))

theorem evaluate_grouped :
    evaluate (some "\x7b0:N0\x7d") (.int v) =
      .ok (.string (String.ofList (groupWhole (integer (nearestWhole v.toInt))))) := by
  rw [← Numeral.fixed_ofInt (log2_toInt_lt v)]
  exact evaluate_placeholder (i := 0) rfl (by decide) rfl (by decide)
    (.specified (.grouped (Or.inl rfl) (.int v) (.given isUnsigned_zero (by decide))))

/-- Two formats show a whole number alike if and only if they show the same one. -/
theorem integer_text_inj {m n : Int} :
    (Except.ok (.string (String.ofList (integer m))) : Except Cause Value) =
      .ok (.string (String.ofList (integer n))) ↔ m = n := by
  rw [Except.ok.injEq, Value.string.injEq, String.ofList_inj, Numeral.integer_inj]

end Formats

/-- Without a format and in the format D, a whole number of 64 bits is shown as
it is. The formats F0 and N0 show the binary number nearest to it, N0 with
commas: so F0 shows it as it is exactly if 53 binary digits are enough for it. -/
theorem evaluate_integer_formats (v : Int64) :
    ∃ m : Int, (Binary64.ofInt v.toInt).toInt? = some m ∧ IsNearest v.toInt m ∧
      evaluate (some "\x7b0\x7d") (.int v) = .ok (.string (String.ofList (integer v.toInt))) ∧
      evaluate (some "\x7b0:D\x7d") (.int v) = evaluate (some "\x7b0\x7d") (.int v) ∧
      evaluate (some "\x7b0:F0\x7d") (.int v) = .ok (.string (String.ofList (integer m))) ∧
      (∃ grouped, evaluate (some "\x7b0:N0\x7d") (.int v) = .ok (.string (String.ofList grouped)) ∧
        grouped.filter (· != ',') = integer m) ∧
      (evaluate (some "\x7b0:F0\x7d") (.int v) = evaluate (some "\x7b0\x7d") (.int v) ↔
        Exact v.toInt) := by
  refine ⟨nearestWhole v.toInt, Binary64.toInt?_ofInt (log2_toInt_lt v),
    Binary64.isNearest_nearestWhole v.toInt, evaluate_unformatted v, ?_, evaluate_fixed v, ?_, ?_⟩
  · rw [evaluate_padded, evaluate_unformatted]
  · refine ⟨_, evaluate_grouped v, ?_⟩
    rw [filter_groupWhole, filter_integer]
  · rw [evaluate_fixed, evaluate_unformatted, integer_text_inj]
    exact Binary64.nearestWhole_eq_iff

/-- The least positive whole number that 53 binary digits are too few for. -/
def wideInteger : Int64 := 9007199254740993

theorem evaluate_fixed_wideInteger :
    evaluate (some "\x7b0:F0\x7d") (.int wideInteger) = .ok (.string "9007199254740992") ∧
      evaluate (some "\x7b0\x7d") (.int wideInteger) = .ok (.string "9007199254740993") ∧
      evaluate (some "\x7b0:F0\x7d") (.int wideInteger) ≠
        evaluate (some "\x7b0\x7d") (.int wideInteger) := by
  have hnearest : nearestWhole wideInteger.toInt = 9007199254740992 := by decide +kernel
  have hvalue : wideInteger.toInt = 9007199254740993 := by decide
  rw [evaluate_fixed, evaluate_unformatted, ne_eq, integer_text_inj, hnearest, hvalue]
  have htext : String.ofList (integer 9007199254740992) = "9007199254740992" := by decide +kernel
  have hplain : String.ofList (integer 9007199254740993) = "9007199254740993" := by decide +kernel
  rw [htext, hplain]
  exact ⟨rfl, rfl, by decide⟩

end ConversionRules.Template
