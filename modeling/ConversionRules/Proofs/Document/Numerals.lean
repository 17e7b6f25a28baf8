import ConversionRules.Proofs.Document.Words

/-!
The reader of numbers finds a number token if neither a digit nor a point
follows it. In a document neither does, since layout, a word, a symbol or
nothing stands after a number.
-/
namespace ConversionRules.Spelling

open Lexeme

/-- What may follow a number: no digit, and no point. -/
def NumberEnd (cs : List Char) : Prop := ∀ c ∈ cs.head?, c.isDigit = false ∧ c ≠ '.'

theorem digits?_finds_iff {cs ds rest : List Char} :
    Finds (digits? cs) ds rest ↔
      AreDigits ds ∧ cs = ds ++ rest ∧ ∀ c ∈ rest.head?, c.isDigit = false := by
  unfold digits?
  constructor
  · intro h
    split at h
    · simp at h
    · rename_i hne
      rw [finds_some_iff] at h
      obtain ⟨rfl, rfl⟩ := h
      obtain ⟨hsplit, hall, hstop⟩ := takeWhile_dropWhile_spec Char.isDigit cs
      exact ⟨⟨hne, hall⟩, hsplit, hstop⟩
  · intro hyp
    rcases hyp with ⟨⟨hne, hall⟩, rfl, hstop⟩
    obtain ⟨htake, hdrop⟩ := takeWhile_dropWhile_append hall hstop
    rw [dif_neg (by rw [htake]; exact hne), finds_some_iff]
    exact ⟨htake, hdrop⟩

theorem placesText_of_places? {cs places rest : List Char}
    (h : Finds (places? cs) places rest) :
    AreDigits places ∧ cs = placesText (some places) ++ rest := by
  unfold places? at h
  split at h
  · split at h
    · simp at h
    · rename_i more ds r hr hsome
      rw [finds_some_iff] at h
      obtain ⟨rfl, rfl⟩ := h
      obtain ⟨hdigits, rfl, -⟩ := digits?_finds_iff.mp ⟨hr, hsome⟩
      exact ⟨hdigits, rfl⟩
  · simp at h

theorem places?_placesText {places rest : List Char} (h : AreDigits places)
    (hend : NumberEnd rest) : Finds (places? (placesText (some places) ++ rest)) places rest := by
  obtain ⟨hlen, heq⟩ := digits?_finds_iff.mpr ⟨h, rfl, fun c hc => (hend c hc).1⟩
  simp [placesText, places?, heq]

theorem places?_eq_none {cs : List Char} (h : ∀ c ∈ cs.head?, c ≠ '.') : places? cs = none := by
  unfold places?
  split
  · exact absurd rfl (h _ rfl)
  · rfl

theorem unsignedText_of_unsigned? {negative : Bool} {cs rest : List Char} {n : NumberWord}
    (h : Finds (unsigned? negative cs) n rest) :
    n.negative = negative ∧ IsNumber n ∧ cs = unsignedText n ++ rest := by
  unfold unsigned? at h
  split at h
  · simp at h
  · rename_i whole r hr hwhole
    obtain ⟨hdigits, rfl, -⟩ := digits?_finds_iff.mp ⟨hr, hwhole⟩
    split at h
    · rw [finds_some_iff] at h
      obtain ⟨rfl, rfl⟩ := h
      exact ⟨rfl, ⟨hdigits, by simp⟩, by simp [unsignedText, placesText]⟩
    · rename_i places r' hr' hplaces
      rw [finds_some_iff] at h
      obtain ⟨rfl, rfl⟩ := h
      obtain ⟨hdigits', rfl⟩ := placesText_of_places? ⟨hr', hplaces⟩
      exact ⟨rfl, ⟨hdigits, by simpa using hdigits'⟩, by simp [unsignedText]⟩

theorem unsigned?_unsignedText {n : NumberWord} {rest : List Char} (hn : IsNumber n)
    (hend : NumberEnd rest) : Finds (unsigned? n.negative (unsignedText n ++ rest)) n rest := by
  obtain ⟨negative, whole, places⟩ := n
  obtain ⟨hwhole, hplaces⟩ := hn
  rw [unsignedText, List.append_assoc]
  cases places with
  | none =>
    have hfinds : Finds (digits? (whole ++ rest)) whole rest :=
      digits?_finds_iff.mpr ⟨hwhole, rfl, fun c hc => (hend c hc).1⟩
    obtain ⟨hlen, heq⟩ := hfinds
    have hnone : places? rest = none := places?_eq_none fun c hc => (hend c hc).2
    simp [placesText, unsigned?, heq, hnone]
  | some places =>
    have hfinds : Finds (digits? (whole ++ (placesText (some places) ++ rest))) whole
        (placesText (some places) ++ rest) :=
      digits?_finds_iff.mpr ⟨hwhole, rfl, by simp [placesText]⟩
    obtain ⟨hlen, heq⟩ := hfinds
    obtain ⟨hlen', heq'⟩ := places?_placesText (hplaces places rfl) hend
    simp [unsigned?, heq, heq']

theorem begins_of_numeral? {cs rest : List Char} {n : NumberWord}
    (h : Finds (numeral? cs) n rest) : (Token.number n).Begins cs rest := by
  unfold numeral? at h
  split at h
  · split at h
    · simp at h
    · rename_i more n' r hr hsome
      rw [finds_some_iff] at h
      obtain ⟨rfl, rfl⟩ := h
      obtain ⟨hsign, hn, rfl⟩ := unsignedText_of_unsigned? ⟨hr, hsome⟩
      exact ⟨hn, by simp [Token.text, signText, hsign, unsignedText], trivial⟩
  · obtain ⟨hsign, hn, rfl⟩ := unsignedText_of_unsigned? h
    exact ⟨hn, by simp [Token.text, signText, hsign, unsignedText], trivial⟩

theorem numeral?_of_begins {cs rest : List Char} {n : NumberWord}
    (h : (Token.number n).Begins cs rest) (hend : NumberEnd rest) :
    Finds (numeral? cs) n rest := by
  obtain ⟨hn, hcs, -⟩ := h
  rw [Token.text, List.append_assoc] at hcs
  have hfinds := unsigned?_unsignedText hn hend
  cases hsign : n.negative with
  | true =>
    rw [hsign, signText, if_pos rfl, List.singleton_append] at hcs
    subst hcs
    rw [hsign] at hfinds
    obtain ⟨hlen, heq⟩ := hfinds
    simp [numeral?, heq]
  | false =>
    rw [hsign, signText, if_neg Bool.false_ne_true, List.nil_append] at hcs
    subst hcs
    rw [hsign] at hfinds
    rw [numeral?.eq_2 _ ?_]
    · exact hfinds
    · intro more hminus
      obtain ⟨c, whole, hwhole⟩ := List.exists_cons_of_ne_nil hn.1.1
      have hdigit : c.isDigit = true := hn.1.2 c (by simp [hwhole])
      rw [unsignedText, hwhole, List.cons_append, List.cons_append] at hminus
      exact ne_of_isDigit hdigit (by decide) (List.cons.inj hminus).1

theorem numeral?_eq_none {cs : List Char} (h : ∀ c ∈ cs.head?, c ≠ '-' ∧ c.isDigit = false) :
    numeral? cs = none := by
  have hdigits : digits? cs = none := by
    cases cs with
    | nil => rfl
    | cons c cs => simp [digits?, (h c rfl).2]
  rw [numeral?.eq_2 cs (fun more hcs => (h '-' (by rw [hcs]; rfl)).1 rfl), unsigned?, hdigits]

theorem numberEnd_of_isSpace {c : Char} (hc : isSpace c = true) (cs : List Char) :
    NumberEnd (c :: cs) := by
  intro d hd
  obtain rfl : c = d := by simpa using hd
  simp only [isSpace, Bool.or_eq_true, beq_iff_eq] at hc
  rcases hc with (((rfl | rfl) | rfl) | rfl) | rfl <;> decide

/-- Layout may follow a number if what stands after the layout may. -/
theorem numberEnd_of_skip {cs : List Char} (h : NumberEnd (skip cs)) : NumberEnd cs := by
  obtain ⟨gap, heq, hgap⟩ := exists_layout_skip cs
  rw [heq]
  cases hgap with
  | nothing => exact h
  | space hc _ => exact numberEnd_of_isSpace hc _
  | comment _ _ _ =>
    intro c hc
    obtain rfl : '#' = c := by simpa using hc
    decide

theorem numberEnd_of_word {s : String} {ts : List Token} {cs rest : List Char}
    (h : Laid (.word s :: ts) cs rest) : NumberEnd cs := by
  obtain ⟨more, hbegins, -⟩ := laid_cons_iff.mp h
  exact numberEnd_of_skip (hbegins.forall_head fun c hc =>
    ⟨isDigit_of_startsIdentifier hc, ne_of_startsIdentifier hc (by decide)⟩)

theorem numberEnd_of_symbol {s : Char} {ts : List Token} {cs rest : List Char}
    (h : Laid (.symbol s :: ts) cs rest) : NumberEnd cs := by
  obtain ⟨more, hbegins, -⟩ := laid_cons_iff.mp h
  refine numberEnd_of_skip (hbegins.forall_head fun c hc => ?_)
  obtain ⟨-, hdigit, -, hpoint, -⟩ := of_mem_symbols hc.2
  exact ⟨hdigit, hpoint⟩

end ConversionRules.Spelling
