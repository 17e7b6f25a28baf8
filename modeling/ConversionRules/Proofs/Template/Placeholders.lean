import ConversionRules.Expression.Template
import ConversionRules.Proofs.Document.Tokens
import ConversionRules.Proofs.Number.Reading

/-!
The placeholders of templates. A placeholder is an index, an alignment after a
comma and a format after a colon, and is accepted if the index is that of an
argument, the format is one for this argument and the alignment is not too
wide. Neither the index nor the alignment can hold one of the separators, so
there is one way to read a placeholder.
-/
namespace ConversionRules.Template

open Numeral (IsUnsigned IsSigned isUnsigned_iff isSigned_iff)
open Spelling (AreDigits takeWhile_dropWhile_spec takeWhile_dropWhile_append)

/-- A part that stands after its separator, if there is one. -/
def attached (separator : Char) : Option (List Char) → List Char
  | none => []
  | some part => separator :: part

/-- The numbers that a format applies to, a whole number rounded. -/
inductive Numeric : Value → Binary64 → Prop
  | int (k : Int64) : Numeric (.int k) (.ofInt k.toInt)
  | float (x : Binary64) : Numeric (.float x) x

/-- The count that the digits of a format ask for: a default if there are none,
and no more than 99. -/
inductive Places (default : Nat) : List Char → Nat → Prop
  | default : Places default [] default
  | given {digits : List Char} {p : Nat} (hp : IsUnsigned digits p) (hmax : p ≤ 99) :
      Places default digits p

/-- The text of a number in a format, which is a letter of either case and a count. -/
inductive Specified : List Char → Value → List Char → Prop
  | fixed {c : Char} {digits : List Char} {v : Value} {x : Binary64} {p : Nat}
      (hc : c = 'F' ∨ c = 'f') (hx : Numeric v x) (hp : Places 2 digits p) :
      Specified (c :: digits) v (Numeral.fixed p x)
  | grouped {c : Char} {digits : List Char} {v : Value} {x : Binary64} {p : Nat}
      (hc : c = 'N' ∨ c = 'n') (hx : Numeric v x) (hp : Places 2 digits p) :
      Specified (c :: digits) v (groupWhole (Numeral.fixed p x))
  | percent {c : Char} {digits : List Char} {v : Value} {x : Binary64} {p : Nat}
      (hc : c = 'P' ∨ c = 'p') (hx : Numeric v x) (hp : Places 2 digits p) :
      Specified (c :: digits) v (Numeral.fixed p (x.mul (.ofNat 100)) ++ ['%'])
  | padded {c : Char} {digits : List Char} {k : Int64} {p : Nat}
      (hc : c = 'D' ∨ c = 'd') (hp : Places 0 digits p) :
      Specified (c :: digits) (.int k) (zeroPadded p k.toInt)

/-- The text of an argument: its display form without a format or with an empty one. -/
inductive Shown : Option (List Char) → Value → List Char → Prop
  | plain (v : Value) : Shown none v v.display
  | unspecified (v : Value) : Shown (some []) v v.display
  | specified {format text : List Char} {v : Value} (h : Specified format v text) :
      Shown (some format) v text

/-- A text and the blanks that fill it up to a width, which is at most 999999:
before it if the width is positive, after it if the width is negative. -/
inductive Aligned : Option (List Char) → List Char → List Char → Prop
  | unaligned (text : List Char) : Aligned none text text
  | right {a number text : List Char} {width : Int} {fill : Nat}
      (htrimmed : Text.Trimmed a number) (hwidth : IsSigned number width)
      (hmax : width.natAbs ≤ 999999) (hside : 0 ≤ width)
      (hfill : fill + text.length = max width.natAbs text.length) :
      Aligned (some a) text (List.replicate fill ' ' ++ text)
  | left {a number text : List Char} {width : Int} {fill : Nat}
      (htrimmed : Text.Trimmed a number) (hwidth : IsSigned number width)
      (hmax : width.natAbs ≤ 999999) (hside : width < 0)
      (hfill : text.length + fill = max width.natAbs text.length) :
      Aligned (some a) text (text ++ List.replicate fill ' ')

/-- What stands between the braces of a placeholder, and what the placeholder shows. -/
inductive Placeholder (args : List Value) : List Char → List Char → Prop
  | mk {index number text shown : List Char} {alignment format : Option (List Char)} {i : Nat}
      {v : Value} (htrimmed : Text.Trimmed index number) (hindex : IsUnsigned number i)
      (hv : args[i]? = some v)
      (htext : Shown format v text) (hshown : Aligned alignment text shown) :
      Placeholder args (index ++ attached ',' alignment ++ attached ':' format) shown

section Formats

theorem toNat_toUpper (c : Char) :
    c.toUpper.toNat = if 97 ≤ c.toNat ∧ c.toNat ≤ 122 then c.toNat - 32 else c.toNat := by
  unfold Char.toUpper
  split
  · rename_i h
    have hlow : 97 ≤ c.val.toNat := h.1
    have hhigh : c.val.toNat ≤ 122 := h.2
    have hshift : ('A'.val - 'a'.val).toNat = 4294967264 := by decide
    rw [if_pos (show 97 ≤ c.toNat ∧ c.toNat ≤ 122 from h)]
    change (c.val + ('A'.val - 'a'.val)).toNat = c.val.toNat - 32
    rw [UInt32.toNat_add, hshift]
    omega
  · rename_i h
    exact (if_neg h).symm

theorem toUpper_eq_iff {c upper lower : Char} (hcase : lower.toNat = upper.toNat + 32)
    (hlow : 65 ≤ upper.toNat) (hhigh : upper.toNat ≤ 90) :
    c.toUpper = upper ↔ c = upper ∨ c = lower := by
  simp only [← Char.toNat_inj, toNat_toUpper]
  split <;> omega

theorem precision_eq_ok_iff {format digits : List Char} {default p : Nat} :
    precision format default digits = .ok p ↔ Places default digits p := by
  unfold precision
  constructor
  · intro h
    split at h
    · rename_i hnone
      cases h
      rw [List.isEmpty_iff.mp hnone]
      exact .default
    · split at h
      · cases h
      · rename_i n hn
        split at h
        · cases h
        · rename_i hmax
          cases h
          exact .given (isUnsigned_iff.mpr ⟨n, hn, rfl⟩) (Nat.le_of_not_lt hmax)
  · intro h
    cases h with
    | default => rfl
    | given hp hmax =>
      obtain ⟨n, hn, rfl⟩ := isUnsigned_iff.mp hp
      have hdigits : digits.isEmpty = false := by
        cases digits with
        | nil => cases hn
        | cons c rest => rfl
      simp only [hdigits, hn]
      exact if_neg (Nat.not_lt.mpr hmax)

theorem map_precision_eq_ok_iff {format digits text : List Char} {default : Nat}
    {f : Nat → List Char} :
    (precision format default digits).map f = .ok text ↔
      ∃ p, Places default digits p ∧ text = f p := by
  have hplaces (p : Nat) : precision format default digits = .ok p ↔ Places default digits p :=
    precision_eq_ok_iff
  simp only [← hplaces]
  cases precision format default digits with
  | error fault => simp [Except.map]
  | ok p => simp [Except.map, eq_comm]

theorem Numeric.unique {v : Value} {x y : Binary64} (hx : Numeric v x) (hy : Numeric v y) :
    x = y := by
  cases hx with
  | int k =>
    cases hy
    rfl
  | float x =>
    cases hy
    rfl

theorem specified_eq_ok_iff {format text : List Char} {v : Value} {x : Binary64}
    (hx : Numeric v x) : specified format v x = .ok text ↔ Specified format v text := by
  constructor
  · intro h
    unfold specified at h
    split at h
    · cases h
    · rename_i c digits
      split at h
      · rename_i hc
        obtain ⟨p, hp, rfl⟩ := map_precision_eq_ok_iff.mp h
        exact .fixed ((toUpper_eq_iff rfl (by decide) (by decide)).mp hc) hx hp
      · rename_i hc
        obtain ⟨p, hp, rfl⟩ := map_precision_eq_ok_iff.mp h
        exact .grouped ((toUpper_eq_iff rfl (by decide) (by decide)).mp hc) hx hp
      · rename_i hc
        obtain ⟨p, hp, rfl⟩ := map_precision_eq_ok_iff.mp h
        exact .percent ((toUpper_eq_iff rfl (by decide) (by decide)).mp hc) hx hp
      · rename_i hc
        split at h
        · obtain ⟨p, hp, rfl⟩ := map_precision_eq_ok_iff.mp h
          exact .padded ((toUpper_eq_iff rfl (by decide) (by decide)).mp hc) hp
        · cases h
      · cases h
  · intro h
    cases h with
    | fixed hc hy hp =>
      have hupper := (toUpper_eq_iff rfl (by decide) (by decide)).mpr hc
      simp only [specified, hupper, hx.unique hy]
      exact map_precision_eq_ok_iff.mpr ⟨_, hp, rfl⟩
    | grouped hc hy hp =>
      have hupper := (toUpper_eq_iff rfl (by decide) (by decide)).mpr hc
      simp only [specified, hupper, hx.unique hy]
      exact map_precision_eq_ok_iff.mpr ⟨_, hp, rfl⟩
    | percent hc hy hp =>
      have hupper := (toUpper_eq_iff rfl (by decide) (by decide)).mpr hc
      simp only [specified, hupper, hx.unique hy]
      exact map_precision_eq_ok_iff.mpr ⟨_, hp, rfl⟩
    | padded hc hp =>
      have hupper := (toUpper_eq_iff rfl (by decide) (by decide)).mpr hc
      simp only [specified, hupper]
      exact map_precision_eq_ok_iff.mpr ⟨_, hp, rfl⟩

theorem Specified.numeric {format text : List Char} {v : Value} (h : Specified format v text) :
    ∃ x, Numeric v x := by
  cases h with
  | fixed hc hx hp => exact ⟨_, hx⟩
  | grouped hc hx hp => exact ⟨_, hx⟩
  | percent hc hx hp => exact ⟨_, hx⟩
  | padded hc hp => exact ⟨_, .int _⟩

theorem formatNumber_eq_ok_iff {format text : List Char} {v : Value} :
    formatNumber format v = .ok text ↔ Specified format v text := by
  constructor
  · intro h
    unfold formatNumber at h
    split at h
    · exact (specified_eq_ok_iff (.int _)).mp h
    · exact (specified_eq_ok_iff (.float _)).mp h
    · cases h
  · intro h
    obtain ⟨x, hx⟩ := h.numeric
    cases hx with
    | int k => exact (specified_eq_ok_iff (.int k)).mpr h
    | float x => exact (specified_eq_ok_iff (.float x)).mpr h

theorem argumentText_eq_ok_iff {format : Option (List Char)} {v : Value} {text : List Char} :
    argumentText format v = .ok text ↔ Shown format v text := by
  constructor
  · intro h
    unfold argumentText at h
    split at h
    · exact .specified (formatNumber_eq_ok_iff.mp h)
    · rename_i hplain
      cases h
      cases format with
      | none => exact .plain v
      | some cs =>
        cases cs with
        | nil => exact .unspecified v
        | cons c rest => exact absurd rfl (hplain c rest)
  · intro h
    cases h with
    | plain => rfl
    | unspecified => rfl
    | specified hspecified =>
      have htext := formatNumber_eq_ok_iff.mpr hspecified
      cases hspecified with
      | fixed hc hx hp => exact htext
      | grouped hc hx hp => exact htext
      | percent hc hx hp => exact htext
      | padded hc hp => exact htext

end Formats

section Parts

theorem length_pad (width : Int) (cs : List Char) :
    (pad width cs).length = max width.natAbs cs.length := by
  unfold pad
  split
  · simp only [List.length_append, List.length_replicate]
    omega
  · simp only [List.length_append, List.length_replicate]
    omega

theorem align_eq_ok_iff {alignment : Option (List Char)} {text shown : List Char} :
    align alignment text = .ok shown ↔ Aligned alignment text shown := by
  constructor
  · intro h
    unfold align at h
    split at h
    · cases h
      exact .unaligned text
    · rename_i a
      split at h
      · cases h
      · rename_i w hw
        have hwidth := isSigned_iff.mpr ⟨w, hw, rfl⟩
        split at h
        · cases h
        · rename_i hmax
          have hnarrow : w.toInt.natAbs ≤ 999999 := Nat.le_of_not_lt hmax
          cases h
          have hlength := length_pad w.toInt text
          unfold pad at hlength ⊢
          split
          · rename_i hside
            rw [if_pos hside, List.length_append, List.length_replicate] at hlength
            exact .left (Text.trimmed_trim a) hwidth hnarrow hside hlength
          · rename_i hside
            rw [if_neg hside, List.length_append, List.length_replicate] at hlength
            exact .right (Text.trimmed_trim a) hwidth hnarrow (Int.not_lt.mp hside) hlength
  · intro h
    cases h with
    | unaligned => rfl
    | @right a number _ width fill htrimmed hwidth hmax hside hfill =>
      obtain rfl := Text.trim_eq_iff.mpr htrimmed
      obtain ⟨w, hw, rfl⟩ := isSigned_iff.mp hwidth
      have hblanks : w.toInt.natAbs - text.length = fill := by omega
      simp only [align, hw, pad, if_neg (Int.not_lt.mpr hside), hblanks]
      exact if_neg (Nat.not_lt.mpr hmax)
    | @left a number _ width fill htrimmed hwidth hmax hside hfill =>
      obtain rfl := Text.trim_eq_iff.mpr htrimmed
      obtain ⟨w, hw, rfl⟩ := isSigned_iff.mp hwidth
      have hblanks : w.toInt.natAbs - text.length = fill := by omega
      simp only [align, hw, pad, if_pos hside, hblanks]
      exact if_neg (Nat.not_lt.mpr hmax)

theorem argument_eq_ok_iff {args : List Value} {index : List Char} {v : Value} :
    argument args index = .ok v ↔ ∃ i, IsUnsigned index i ∧ args[i]? = some v := by
  constructor
  · intro h
    unfold argument at h
    split at h
    · cases h
    · rename_i i hi
      split at h
      · cases h
      · rename_i w hw
        cases h
        exact ⟨i.toNat, isUnsigned_iff.mpr ⟨i, hi, rfl⟩, hw⟩
  · rintro ⟨n, hn, hv⟩
    obtain ⟨i, hi, rfl⟩ := isUnsigned_iff.mp hn
    simp only [argument, hi, hv]

end Parts

section Separators

theorem all_ne_iff {c : Char} {cs : List Char} : (∀ d ∈ cs, (d != c) = true) ↔ c ∉ cs := by
  simp only [bne_iff_ne, ne_eq]
  exact ⟨fun h hc => h c hc rfl, fun h d hd hdc => h (hdc ▸ hd)⟩

/-- A text is cut where the separator stands first. -/
theorem cutAt_eq_iff {c : Char} {cs before : List Char} {after : Option (List Char)} :
    cutAt c cs = (before, after) ↔ c ∉ before ∧ cs = before ++ attached c after := by
  constructor
  · intro h
    obtain ⟨hsplit, hall, hstop⟩ := takeWhile_dropWhile_spec (· != c) cs
    unfold cutAt at h
    split at h
    · rename_i hend
      cases h
      rw [hend, List.append_nil] at hsplit
      rw [← hsplit] at hall
      exact ⟨all_ne_iff.mp hall, (List.append_nil cs).symm⟩
    · rename_i d rest hrest
      cases h
      rw [hrest] at hsplit hstop
      have hd : d = c := by simpa using hstop d rfl
      exact ⟨all_ne_iff.mp hall, hd ▸ hsplit⟩
  · rintro ⟨hc, rfl⟩
    have hstop : ∀ d ∈ (attached c after).head?, (d != c) = false := by
      cases after with
      | none => simp [attached]
      | some part => simp [attached]
    obtain ⟨htake, hdrop⟩ := takeWhile_dropWhile_append (all_ne_iff.mpr hc) hstop
    unfold cutAt
    rw [hdrop, htake]
    cases after with
    | none => simp [attached]
    | some part => rfl

/-- A character that is no part of a number or of the white space around it. -/
def Separates (c : Char) : Prop :=
  Text.isBlank c = false ∧ c.isDigit = false ∧ c ≠ '+' ∧ c ≠ '-'

theorem Separates.not_mem_of_trimmed {c : Char} {cs number : List Char} (hc : Separates c)
    (htrimmed : Text.Trimmed cs number)
    (hnumber : ∀ d ∈ number, d.isDigit = true ∨ d = '+' ∨ d = '-') : c ∉ cs := by
  obtain ⟨hblank, hdigit, hplus, hminus⟩ := hc
  intro hmem
  rcases htrimmed.blank_or_mem hmem with h | h
  · rw [hblank] at h
    cases h
  · rcases hnumber c h with h | h | h
    · rw [hdigit] at h
      cases h
    · exact hplus h
    · exact hminus h

theorem Separates.not_mem_of_isUnsigned {c : Char} {cs number : List Char} {n : Nat}
    (hc : Separates c) (htrimmed : Text.Trimmed cs number) (h : IsUnsigned number n) :
    c ∉ cs := by
  obtain ⟨_, digits, hdigits, _, htext⟩ := h
  apply hc.not_mem_of_trimmed htrimmed
  rcases htext with rfl | rfl
  · exact fun d hd => Or.inl (hdigits.2 d hd)
  · exact List.forall_mem_cons.mpr ⟨Or.inr (Or.inl rfl), fun d hd => Or.inl (hdigits.2 d hd)⟩

theorem Separates.not_mem_of_isSigned {c : Char} {cs number : List Char} {n : Int}
    (hc : Separates c) (htrimmed : Text.Trimmed cs number) (h : IsSigned number n) : c ∉ cs := by
  obtain ⟨_, digits, hdigits, htext⟩ := h
  apply hc.not_mem_of_trimmed htrimmed
  rcases htext with ⟨_, rfl | rfl⟩ | ⟨_, rfl⟩
  · exact fun d hd => Or.inl (hdigits.2 d hd)
  · exact List.forall_mem_cons.mpr ⟨Or.inr (Or.inl rfl), fun d hd => Or.inl (hdigits.2 d hd)⟩
  · exact List.forall_mem_cons.mpr ⟨Or.inr (Or.inr rfl), fun d hd => Or.inl (hdigits.2 d hd)⟩

theorem separates_comma : Separates ',' := ⟨rfl, rfl, by decide, by decide⟩

theorem separates_colon : Separates ':' := ⟨rfl, rfl, by decide, by decide⟩

/-- An alignment holds no colon. -/
theorem Aligned.not_mem {alignment : Option (List Char)} {text shown : List Char}
    (h : Aligned alignment text shown) : ':' ∉ attached ',' alignment := by
  have hsome {a number : List Char} {width : Int} (htrimmed : Text.Trimmed a number)
      (hwidth : IsSigned number width) : ':' ∉ attached ',' (some a) :=
    List.not_mem_cons_of_ne_of_not_mem (by decide)
      (separates_colon.not_mem_of_isSigned htrimmed hwidth)
  cases h with
  | unaligned => exact List.not_mem_nil
  | right htrimmed hwidth hmax hside hfill => exact hsome htrimmed hwidth
  | left htrimmed hwidth hmax hside hfill => exact hsome htrimmed hwidth

end Separators

/-- A placeholder is read in one way, and shows a text if each of its parts is right. -/
theorem placeholder_eq_ok_iff {args : List Value} {spec shown : List Char} :
    placeholder args spec = .ok shown ↔ Placeholder args spec shown := by
  constructor
  · intro h
    unfold placeholder at h
    cases hcolon : cutAt ':' spec with
    | mk head format =>
      cases hcomma : cutAt ',' head with
      | mk index alignment =>
        obtain ⟨_, rfl⟩ := cutAt_eq_iff.mp hcolon
        obtain ⟨_, rfl⟩ := cutAt_eq_iff.mp hcomma
        simp only [hcolon, hcomma] at h
        split at h
        · cases h
        · rename_i v hv
          split at h
          · cases h
          · rename_i text htext
            obtain ⟨i, hindex, hi⟩ := argument_eq_ok_iff.mp hv
            exact .mk (Text.trimmed_trim index) hindex hi (argumentText_eq_ok_iff.mp htext)
              (align_eq_ok_iff.mp h)
  · intro h
    cases h with
    | @mk index number text shown alignment format i v htrimmed hindex hv htext hshown =>
      have hhead : ':' ∉ index ++ attached ',' alignment :=
        List.not_mem_append (separates_colon.not_mem_of_isUnsigned htrimmed hindex) hshown.not_mem
      have hcolon : cutAt ':' (index ++ attached ',' alignment ++ attached ':' format) =
          (index ++ attached ',' alignment, format) := cutAt_eq_iff.mpr ⟨hhead, rfl⟩
      have hcomma : cutAt ',' (index ++ attached ',' alignment) = (index, alignment) :=
        cutAt_eq_iff.mpr ⟨separates_comma.not_mem_of_isUnsigned htrimmed hindex, rfl⟩
      obtain rfl := Text.trim_eq_iff.mpr htrimmed
      have hargument := argument_eq_ok_iff.mpr ⟨i, hindex, hv⟩
      unfold placeholder
      simp only [hcolon, hcomma, hargument, argumentText_eq_ok_iff.mpr htext]
      exact align_eq_ok_iff.mpr hshown

end ConversionRules.Template
