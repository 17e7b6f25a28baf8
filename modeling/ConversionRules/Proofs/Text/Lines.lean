import ConversionRules.Text.Blank

/-!
Lines of a text. A text that is put together from a wording of one line and
from given texts has the line breaks of these texts and no other ones, so it is
of one line exactly if they all are.
-/
namespace ConversionRules.Text

/-- A character after which a new line begins: the controls that feed or
return, and the separators of lines and of paragraphs. -/
def isLineBreak (c : Char) : Bool :=
  ['\n', '\x0b', '\x0c', '\r', '\x85', '\u2028', '\u2029'].contains c

theorem isBlank_of_isLineBreak {c : Char} (h : isLineBreak c = true) : isBlank c = true := by
  simp only [isLineBreak, List.contains_eq_mem, decide_eq_true_eq, List.mem_cons, List.not_mem_nil,
    or_false] at h
  rcases h with rfl | rfl | rfl | rfl | rfl | rfl | rfl <;> rfl

def SingleLine (s : String) : Prop := ∀ c ∈ s.toList, isLineBreak c = false

instance (s : String) : Decidable (SingleLine s) :=
  decidable_of_iff ((s.toList.all fun c => !isLineBreak c) = true) (by simp [SingleLine])

theorem singleLine_of_forall_not_blank {s : String} (h : ∀ c ∈ s.toList, isBlank c = false) :
    SingleLine s := by
  intro c hc
  cases hbreak : isLineBreak c with
  | false => rfl
  | true => cases (h c hc).symm.trans (isBlank_of_isLineBreak hbreak)

/-- The line breaks of a text stand in some of the given texts. -/
def BreaksWithin (s : String) (given : List String) : Prop :=
  ∀ c ∈ s.toList, isLineBreak c = true → ∃ text ∈ given, c ∈ text.toList

theorem SingleLine.breaksWithin {s : String} (h : SingleLine s) (given : List String) :
    BreaksWithin s given := by
  intro c hc hbreak
  cases (h c hc).symm.trans hbreak

theorem BreaksWithin.singleLine {s : String} {given : List String} (h : BreaksWithin s given)
    (hgiven : ∀ text ∈ given, SingleLine text) : SingleLine s := by
  intro c hc
  cases hbreak : isLineBreak c with
  | false => rfl
  | true =>
    obtain ⟨text, htext, hmem⟩ := h c hc hbreak
    exact hbreak.symm.trans (hgiven text htext c hmem)

theorem breaksWithin_of_mem {s : String} {given : List String} (h : s ∈ given) :
    BreaksWithin s given := fun _ hc _ => ⟨s, h, hc⟩

theorem BreaksWithin.trans {s : String} {texts given : List String} (h : BreaksWithin s texts)
    (htexts : ∀ text ∈ texts, BreaksWithin text given) : BreaksWithin s given := by
  intro c hc hbreak
  obtain ⟨text, htext, hmem⟩ := h c hc hbreak
  exact htexts text htext c hmem hbreak

theorem BreaksWithin.mono {s : String} {texts given : List String} (h : BreaksWithin s texts)
    (hsubset : texts ⊆ given) : BreaksWithin s given :=
  h.trans fun _ htext => breaksWithin_of_mem (hsubset htext)

theorem BreaksWithin.append {s t : String} {given : List String} (hs : BreaksWithin s given)
    (ht : BreaksWithin t given) : BreaksWithin (s ++ t) given := by
  intro c hc hbreak
  rw [String.toList_append, List.mem_append] at hc
  rcases hc with hc | hc
  · exact hs c hc hbreak
  · exact ht c hc hbreak

/-- A text shows the given texts as they are, and has no other line breaks. -/
structure Shows (s : String) (given : List String) : Prop where
  occurs : ∀ text ∈ given, text.toList <:+: s.toList
  breaks : BreaksWithin s given

namespace Shows

variable {s t : String} {texts given : List String}

/-- To be of one line is to show only texts of one line. -/
theorem singleLine_iff (h : Shows s given) : SingleLine s ↔ ∀ text ∈ given, SingleLine text :=
  ⟨fun hs text htext c hc => hs c ((h.occurs text htext).subset hc), h.breaks.singleLine⟩

theorem wording (hs : SingleLine s) : Shows s [] :=
  ⟨fun _ htext => absurd htext List.not_mem_nil, hs.breaksWithin []⟩

theorem text (s : String) : Shows s [s] := by
  refine ⟨fun text htext => ?_, breaksWithin_of_mem List.mem_cons_self⟩
  obtain rfl := List.mem_singleton.mp htext
  exact List.infix_rfl

theorem append (hs : Shows s texts) (ht : Shows t given) : Shows (s ++ t) (texts ++ given) := by
  refine ⟨fun text htext => ?_, ?_⟩
  · rw [String.toList_append]
    rcases List.mem_append.mp htext with htext | htext
    · exact (hs.occurs text htext).trans (List.prefix_append s.toList t.toList).isInfix
    · exact (ht.occurs text htext).trans (List.suffix_append s.toList t.toList).isInfix
  · exact (hs.breaks.mono (List.subset_append_left texts given)).append
      (ht.breaks.mono (List.subset_append_right texts given))

theorem then_wording (hs : Shows s given) (ht : SingleLine t) : Shows (s ++ t) given := by
  have h := hs.append (wording ht)
  rwa [List.append_nil] at h

theorem then_text (hs : Shows s given) (t : String) : Shows (s ++ t) (given ++ [t]) :=
  hs.append (text t)

end Shows

end ConversionRules.Text
