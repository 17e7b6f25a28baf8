import ConversionRules.Text.Parts

/-!
The parts of a text between the occurrences of a separator. Each of them ends
where the separator occurs first, so no part holds the separator, and the parts
are the text again once the separator is put between neighbours.
-/
namespace ConversionRules.Text

/-- No occurrence of the separator begins in a part of a text, not even one that
reaches into the rest of the text. -/
def Clear (separator part rest : List Char) : Prop :=
  ∀ before c after, part = before ++ c :: after → ¬ separator <+: c :: (after ++ rest)

/-- A text and its parts. Each part but the last is followed by the separator,
which occurs nowhere before. -/
inductive Parted (separator : List Char) : List Char → List (List Char) → Prop
  | last {part : List Char} (hpart : Clear separator part []) : Parted separator part [part]
  | cons {part rest : List Char} {parts : List (List Char)}
      (hpart : Clear separator part (separator ++ rest)) (hrest : Parted separator rest parts) :
      Parted separator (part ++ separator ++ rest) (part :: parts)

variable {separator : List Char}

theorem clear_nil (rest : List Char) : Clear separator [] rest := by
  intro before c after h
  exact absurd h (by simp)

/-- A character at which the separator does not begin extends the part before it. -/
theorem Clear.snoc {part rest : List Char} {c : Char} (hpart : Clear separator part (c :: rest))
    (hc : ¬ separator <+: c :: rest) : Clear separator (part ++ [c]) rest := by
  intro before d after h
  -- An occurrence begins at the new character or before it.
  rcases List.eq_nil_or_concat after with rfl | ⟨middle, e, rfl⟩
  · obtain ⟨_, hd⟩ := List.append_inj' h rfl
    cases hd
    exact hc
  · rw [List.concat_eq_append, ← List.cons_append, ← List.append_assoc] at h
    obtain ⟨hbefore, he⟩ := List.append_inj' h rfl
    cases he
    rw [List.concat_eq_append, List.append_assoc]
    exact hpart before d middle hbefore

theorem Clear.not_occurs {part rest : List Char} (hpart : Clear separator part rest)
    (hseparator : separator ≠ []) : ¬ separator <:+: part := by
  rintro ⟨before, after, rfl⟩
  obtain ⟨c, more, rfl⟩ := List.exists_cons_of_ne_nil hseparator
  refine hpart before c (more ++ after) (by simp) ⟨after ++ rest, by simp⟩

namespace Parted

variable {cs : List Char} {parts : List (List Char)}

theorem ne_nil (h : Parted separator cs parts) : parts ≠ [] := by
  cases h with
  | last hpart => exact List.cons_ne_nil _ _
  | cons hpart hrest => exact List.cons_ne_nil _ _

theorem intercalate_eq (h : Parted separator cs parts) : separator.intercalate parts = cs := by
  induction h with
  | last hpart => exact List.intercalate_singleton
  | cons hpart hrest ih => rw [List.intercalate_cons_of_ne_nil hrest.ne_nil, ih]

theorem not_occurs (h : Parted separator cs parts) (hseparator : separator ≠ []) :
    ∀ part ∈ parts, ¬ separator <:+: part := by
  induction h with
  | last hpart =>
    intro part hmem
    rw [List.mem_singleton.mp hmem]
    exact hpart.not_occurs hseparator
  | cons hpart hrest ih => exact List.forall_mem_cons.mpr ⟨hpart.not_occurs hseparator, ih⟩

end Parted

/-- The scan goes on from a part that is clear so far, and adds what it finds to
the parts before. -/
theorem exists_parted_splitFrom (s : Char) (more : List Char) (parts : List (List Char))
    (current cs : List Char) (hcurrent : Clear (s :: more) current.reverse cs) :
    ∃ found, splitFrom s more parts current cs = parts.reverse ++ found ∧
      Parted (s :: more) (current.reverse ++ cs) found := by
  fun_induction splitFrom s more parts current cs with
  | case1 parts current =>
    refine ⟨[current.reverse], List.reverse_cons, ?_⟩
    rw [List.append_nil]
    exact .last hcurrent
  | case2 parts current c rest hmatch ih =>
    -- The separator begins here, which completes the current part.
    simp only [List.unattach_reverse, List.unattach_attach] at ih
    obtain ⟨found, hfound, hparted⟩ := ih (clear_nil _)
    simp only [Bool.and_eq_true, decide_eq_true_eq, List.isPrefixOf_iff_prefix] at hmatch
    obtain ⟨rfl, after, rfl⟩ := hmatch
    refine ⟨current.reverse :: found, ?_, ?_⟩
    · rw [hfound, List.reverse_cons, List.append_assoc, List.singleton_append]
    · rw [List.drop_left, List.reverse_nil, List.nil_append] at hparted
      have h := Parted.cons hcurrent hparted
      rwa [List.append_assoc] at h
  | case3 parts current c rest hmatch ih =>
    have hc : ¬ (s :: more) <+: c :: rest := by
      rw [List.cons_prefix_cons]
      rintro ⟨rfl, hrest⟩
      exact hmatch (by simp [hrest])
    have hnext : Clear (s :: more) (c :: current).reverse rest := by
      rw [List.reverse_cons]
      exact hcurrent.snoc hc
    obtain ⟨found, hfound, hparted⟩ := ih hnext
    refine ⟨found, hfound, ?_⟩
    rwa [List.reverse_cons, List.append_assoc, List.singleton_append] at hparted

theorem parted_split (hseparator : separator ≠ []) (cs : List Char) :
    Parted separator cs (split separator cs) := by
  obtain ⟨s, more, rfl⟩ := List.exists_cons_of_ne_nil hseparator
  obtain ⟨found, hfound, hparted⟩ := exists_parted_splitFrom s more [] [] cs (clear_nil _)
  rw [split, hfound]
  exact hparted

theorem split_ne_nil (separator cs : List Char) : split separator cs ≠ [] := by
  cases separator with
  | nil => exact List.cons_ne_nil _ _
  | cons s more => exact (parted_split (List.cons_ne_nil _ _) cs).ne_nil

/-- Splitting loses nothing. -/
theorem intercalate_split (separator cs : List Char) :
    separator.intercalate (split separator cs) = cs := by
  cases separator with
  | nil => exact List.intercalate_singleton
  | cons s more => exact (parted_split (List.cons_ne_nil _ _) cs).intercalate_eq

end ConversionRules.Text
