import ConversionRules.Proofs.Template.Integers

/-!
Numbers in the formats F, N and D with a count of digits. The formats F and N
show the same digits, N with a comma before every third of them counted
leftwards from the point. The format D fills a whole number up with zeros after
its sign, so that it reads back.
-/
namespace ConversionRules.Template

open Spelling (AreDigits signText)
open Numeral (fixed padLeft)

section Groups

/-- A number as text, and the text with commas: the digits before the point are
in groups of three, of which only the first may be shorter. -/
inductive Thousands : List Char → List Char → Prop
  | mk {negative : Bool} {first : List Char} {rest : List (List Char)}
      {places : Option (List Char)} (hfirst : AreDigits first ∧ first.length ≤ 3)
      (hrest : ∀ digits ∈ rest, AreDigits digits ∧ digits.length = 3)
      (hplaces : ∀ digits ∈ places, AreDigits digits) :
      Thousands (signText negative ++ (first :: rest).flatten ++ attached '.' places)
        (signText negative ++ [','].intercalate (first :: rest) ++ attached '.' places)

/-- Groups of three do not change the number of digits modulo three. -/
theorem length_flatten_mod (first : List Char) {rest : List (List Char)}
    (hrest : ∀ digits ∈ rest, digits.length = 3) :
    (first :: rest).flatten.length % 3 = first.length % 3 := by
  induction rest with
  | nil => simp
  | cons digits rest ih =>
    obtain ⟨hdigits, hrest⟩ := List.forall_mem_cons.mp hrest
    have hlength := ih hrest
    simp only [List.flatten_cons, List.length_append] at hlength ⊢
    omega

theorem exists_groups {cs : List Char} (hcs : cs ≠ []) :
    ∃ first rest, cs = (first :: rest).flatten ∧ group cs = [','].intercalate (first :: rest) ∧
      (0 < first.length ∧ first.length ≤ 3) ∧ ∀ digits ∈ rest, digits.length = 3 := by
  induction cs with
  | nil => exact absurd rfl hcs
  | cons c cs ih =>
    by_cases hlast : cs = []
    · subst hlast
      exact ⟨[c], [], rfl, rfl, by simp, fun _ h => absurd h List.not_mem_nil⟩
    · obtain ⟨first, rest, hcs, hgroup, hfirst, hrest⟩ := ih hlast
      have hmod := length_flatten_mod first hrest
      rw [← hcs] at hmod
      rw [group, if_neg (by simpa using hlast)]
      by_cases hthird : cs.length % 3 = 0
      · -- The groups so far are full, so the digit is a group of its own.
        have hfull : first.length = 3 := by omega
        refine ⟨[c], first :: rest, ?_, ?_, by simp, List.forall_mem_cons.mpr ⟨hfull, hrest⟩⟩
        · rw [List.flatten_cons, ← hcs]
          rfl
        · rw [if_pos hthird, hgroup, List.intercalate_cons_cons]
          rfl
      · refine ⟨c :: first, rest, ?_, ?_, ⟨by simp, ?_⟩, hrest⟩
        · rw [List.flatten_cons, List.cons_append, ← List.flatten_cons, ← hcs]
        · rw [if_neg hthird, hgroup, List.intercalate_cons_cons_left]
        · rw [List.length_cons]
          omega

/-- A number with digits before its point, grouped. -/
theorem thousands_groupWhole {whole : List Char} {places : Option (List Char)} (negative : Bool)
    (hwhole : AreDigits whole) (hplaces : ∀ digits ∈ places, AreDigits digits) :
    Thousands (signText negative ++ whole ++ attached '.' places)
      (groupWhole (signText negative ++ whole ++ attached '.' places)) := by
  have hpoint : '.' ∉ whole := fun h => absurd (hwhole.2 _ h) (by decide)
  have hcut : cutAt '.' (whole ++ attached '.' places) = (whole, places) :=
    cutAt_eq_iff.mpr ⟨hpoint, rfl⟩
  have hgrouped : groupWhole (signText negative ++ whole ++ attached '.' places) =
      signText negative ++ group whole ++ attached '.' places := by
    cases negative with
    | true => exact groupWhole_negative hcut
    | false =>
      -- A minus sign would be stripped, but the first character is a digit.
      refine groupWhole_unsigned (fun h => ?_) hcut
      obtain ⟨c, more, hcons⟩ := List.exists_cons_of_ne_nil hwhole.1
      rw [hcons] at h hwhole
      cases h
      exact absurd (hwhole.2 '-' List.mem_cons_self) (by decide)
  obtain ⟨first, rest, hflat, hgroup, hfirst, hrest⟩ := exists_groups hwhole.1
  have hdigits : ∀ digits ∈ first :: rest, ∀ c ∈ digits, c.isDigit = true := by
    intro digits hmem c hc
    exact hwhole.2 c (hflat ▸ List.mem_flatten_of_mem hmem hc)
  obtain ⟨hfirstDigits, hrestDigits⟩ := List.forall_mem_cons.mp hdigits
  rw [hgrouped, hgroup, hflat]
  refine .mk ⟨⟨List.length_pos_iff.mp hfirst.1, hfirstDigits⟩, hfirst.2⟩ (fun digits hmem => ?_)
    hplaces
  have hlength := hrest digits hmem
  refine ⟨⟨List.length_pos_iff.mp ?_, hrestDigits digits hmem⟩, hlength⟩
  omega

/-- A finite number is digits after its sign, with or without places. -/
theorem exists_fixed {x : Binary64} (hx : x.isFinite = true) (p : Nat) :
    ∃ whole places, fixed p x = signText x.negative ++ whole ++ attached '.' places ∧
      AreDigits whole ∧ ∀ digits ∈ places, AreDigits digits := by
  obtain ⟨whole, tail, hwhole, hlength, htail, -, hpointed⟩ := Numeral.exists_pointed
    (Binary64.roundHalfEven (x.absUnits * Nat.pow 10 p) Binary64.unitsPerOne) p
  rw [fixed, Numeral.signed_of_isFinite hx, hpointed, ← List.append_assoc]
  by_cases hp : p = 0
  · refine ⟨whole, none, ?_, hwhole, by simp⟩
    rw [if_pos hp, attached]
  · refine ⟨whole, some tail, ?_, hwhole, ?_⟩
    · rw [if_neg hp, attached]
    · rintro digits ⟨⟩
      refine ⟨List.length_pos_iff.mp ?_, htail⟩
      omega

/-- The words for what is no finite number. -/
def words : List (List Char) := ["NaN".toList, "inf".toList, "-inf".toList]

theorem fixed_mem_words {x : Binary64} (hx : x.isFinite = false) (p : Nat) : fixed p x ∈ words :=
  Numeral.signed_mem_of_not_isFinite hx _

theorem comma_not_mem_fixed (x : Binary64) (p : Nat) : ',' ∉ fixed p x := by
  have hdigits {cs : List Char} (h : AreDigits cs) : ',' ∉ cs := fun hmem => nomatch h.2 _ hmem
  cases hx : x.isFinite with
  | false =>
    have hwords : ∀ text ∈ words, ',' ∉ text := by decide
    exact hwords _ (fixed_mem_words hx p)
  | true =>
    obtain ⟨whole, places, htext, hwhole, hplaces⟩ := exists_fixed hx p
    rw [htext]
    refine List.not_mem_append (List.not_mem_append ?_ (hdigits hwhole)) ?_
    · cases x.negative with
      | true => decide
      | false => decide
    · cases places with
      | none => exact List.not_mem_nil
      | some tail =>
        exact List.not_mem_cons_of_ne_of_not_mem (by decide) (hdigits (hplaces tail rfl))

/-- The words are too short for a comma. -/
theorem groupWhole_of_mem_words {text : List Char} (h : text ∈ words) : groupWhole text = text := by
  simp only [words, List.mem_cons, List.not_mem_nil, or_false] at h
  rcases h with rfl | rfl | rfl
  · rfl
  · rfl
  · rfl

end Groups

section Formats

/-- The template that shows one argument in a format with a count of digits. -/
def numberTemplate (index : Nat) (letter : Char) (count : Nat) : String :=
  String.ofList ('\x7b' :: (Nat.toDigits 10 index ++
    attached ':' (some (letter :: Nat.toDigits 10 count))) ++ ['\x7d'])

variable {w v : Value} {i p : Nat}

theorem evaluate_numberTemplate {letter : Char} {shown : List Char} (hi : i < UInt64.size)
    (hv : (arguments w)[i]? = some v) (hletter : letter ≠ '\x7d')
    (h : Specified (letter :: Nat.toDigits 10 p) v shown) :
    evaluate (some (numberTemplate i letter p)) w = .ok (.string (String.ofList shown)) := by
  refine evaluate_placeholder String.toList_ofList hi hv (fun hmem => ?_) (.specified h)
  rcases List.mem_cons.mp hmem with h | hmem
  · cases h
  rcases List.mem_cons.mp hmem with h | hmem
  · exact hletter h.symm
  · cases (Numeral.areDigits_toDigits p).2 _ hmem

theorem places_toDigits {default : Nat} (hp : p ≤ 99) : Places default (Nat.toDigits 10 p) p :=
  .given (Numeral.isUnsigned_toDigits (Nat.lt_of_le_of_lt hp (by decide))) hp

/-- The digits of a whole number in the format D. -/
theorem exists_zeroPadded (p : Nat) (k : Int64) : ∃ digits,
    zeroPadded p k.toInt = signText (decide (k.toInt < 0)) ++ digits ∧ AreDigits digits ∧
      digits.length = max p (Decimal.digitCount k.toInt.natAbs) ∧
      Nat.ofDigitChars 10 digits 0 = k.toInt.natAbs := by
  refine ⟨padLeft p '0' (Nat.toDigits 10 k.toInt.natAbs), ?_, ?_, ?_, ?_⟩
  · rw [zeroPadded, Numeral.signText_append]
    simp only [decide_eq_true_eq]
  · exact Numeral.areDigits_padLeft p (Numeral.areDigits_toDigits _)
  · exact Numeral.length_padLeft p '0' _
  · rw [Numeral.ofDigitChars_padLeft, Nat.ofDigitChars_ten_toDigits]

end Formats

/-- With a count of at most 99, the format N shows a number as the format F does,
with commas that put its digits before the point in groups of three, and the
words for infinities and what is no number without any. The format D shows a
whole number as its sign and at least that many digits, which read back. -/
theorem evaluate_grouped_and_padded {w : Value} {i p : Nat} (hi : i < UInt64.size) (hp : p ≤ 99) :
    (∀ v x, (arguments w)[i]? = some v → Numeric v x → ∃ plain grouped,
      evaluate (some (numberTemplate i 'F' p)) w = .ok (.string (String.ofList plain)) ∧
      evaluate (some (numberTemplate i 'N' p)) w = .ok (.string (String.ofList grouped)) ∧
      grouped.filter (· != ',') = plain ∧
      (x.isFinite = true ∧ Thousands plain grouped ∨
        x.isFinite = false ∧ plain ∈ words ∧ grouped = plain)) ∧
    ∀ k : Int64, (arguments w)[i]? = some (.int k) → ∃ digits,
      evaluate (some (numberTemplate i 'D' p)) w =
        .ok (.string (String.ofList (signText (decide (k.toInt < 0)) ++ digits))) ∧
      AreDigits digits ∧ digits.length = max p (Decimal.digitCount k.toInt.natAbs) ∧
      (Value.string (String.ofList (signText (decide (k.toInt < 0)) ++ digits))).integer? =
        some k := by
  refine ⟨fun v x hv hx => ?_, fun k hk => ?_⟩
  · have hfixed : Specified ('F' :: Nat.toDigits 10 p) v (fixed p x) :=
      .fixed (Or.inl rfl) hx (places_toDigits hp)
    have hgrouped : Specified ('N' :: Nat.toDigits 10 p) v (groupWhole (fixed p x)) :=
      .grouped (Or.inl rfl) hx (places_toDigits hp)
    have hfilter : (groupWhole (fixed p x)).filter (· != ',') = fixed p x := by
      rw [filter_groupWhole]
      exact List.filter_eq_self.mpr (all_ne_iff.mpr (comma_not_mem_fixed x p))
    refine ⟨fixed p x, groupWhole (fixed p x), evaluate_numberTemplate hi hv (by decide) hfixed,
      evaluate_numberTemplate hi hv (by decide) hgrouped, hfilter, ?_⟩
    cases hfinite : x.isFinite with
    | true =>
      obtain ⟨whole, places, htext, hwhole, hplaces⟩ := exists_fixed hfinite p
      rw [htext]
      exact Or.inl ⟨rfl, thousands_groupWhole x.negative hwhole hplaces⟩
    | false =>
      have hword := fixed_mem_words hfinite p
      exact Or.inr ⟨rfl, hword, groupWhole_of_mem_words hword⟩
  · obtain ⟨digits, htext, hdigits, hlength, hvalue⟩ := exists_zeroPadded p k
    have hpadded : Specified ('D' :: Nat.toDigits 10 p) (.int k) (zeroPadded p k.toInt) :=
      .padded (Or.inl rfl) (places_toDigits hp)
    have hshown := evaluate_numberTemplate hi hk (by decide) hpadded
    rw [htext] at hshown
    refine ⟨digits, hshown, hdigits, hlength, ?_⟩
    rw [Value.integer?, String.toList_ofList, Numeral.trim_signed hdigits]
    exact Numeral.readInt64?_signed hdigits hvalue

/-- The least whole number of 64 bits, of which the magnitude does not fit 64 bits. -/
def leastNumber : Value := .list [.string "least", .int Int64.minValue]

theorem evaluate_leastNumber :
    (∃ plain grouped,
      evaluate (some (numberTemplate 1 'F' 20)) leastNumber =
        .ok (.string (String.ofList plain)) ∧
      evaluate (some (numberTemplate 1 'N' 20)) leastNumber =
        .ok (.string (String.ofList grouped)) ∧
      grouped = "-9,223,372,036,854,775,808.00000000000000000000".toList ∧
      grouped.filter (· != ',') = plain ∧ Thousands plain grouped) ∧
    ∃ digits,
      evaluate (some (numberTemplate 1 'D' 20)) leastNumber =
        .ok (.string (String.ofList ('-' :: digits))) ∧
      AreDigits digits ∧ digits.length = 20 ∧
      (Value.string (String.ofList ('-' :: digits))).integer? = some Int64.minValue := by
  have hfinite : (Binary64.ofInt Int64.minValue.toInt).isFinite = true := by decide +kernel
  have htext : groupWhole (fixed 20 (Binary64.ofInt Int64.minValue.toInt)) =
      "-9,223,372,036,854,775,808.00000000000000000000".toList := by decide +kernel
  have hshown : Specified ('N' :: Nat.toDigits 10 20) (.int Int64.minValue)
      (groupWhole (fixed 20 (Binary64.ofInt Int64.minValue.toInt))) :=
    .grouped (Or.inl rfl) (.int _) (places_toDigits (by decide))
  have hlength : max 20 (Decimal.digitCount Int64.minValue.toInt.natAbs) = 20 := by decide +kernel
  obtain ⟨hnumbers, hwhole⟩ :=
    evaluate_grouped_and_padded (w := leastNumber) (i := 1) (p := 20) (by decide) (by decide)
  obtain ⟨plain, grouped, hplain, hgrouped, hfilter, hshape⟩ :=
    hnumbers (.int Int64.minValue) _ rfl (.int _)
  obtain ⟨digits, hpadded, hdigits, hcount, hread⟩ := hwhole Int64.minValue rfl
  refine ⟨⟨plain, grouped, hplain, hgrouped, ?_, hfilter, ?_⟩, digits, hpadded, hdigits,
    hcount.trans hlength, hread⟩
  · have hsame := hgrouped.symm.trans (evaluate_numberTemplate (by decide) rfl (by decide) hshown)
    rw [Except.ok.injEq, Value.string.injEq, String.ofList_inj, htext] at hsame
    exact hsame
  · rcases hshape with ⟨_, hthousands⟩ | ⟨hinfinite, _⟩
    · exact hthousands
    · cases hfinite.symm.trans hinfinite

end ConversionRules.Template
