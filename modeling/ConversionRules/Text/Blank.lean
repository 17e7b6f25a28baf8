/-!
White space: the twenty-five characters that separate words in any script, and
the removal of white space at the ends of a text.
-/
namespace ConversionRules.Text

def isBlank (c : Char) : Bool :=
  let n := c.toNat
  (9 ≤ n && n ≤ 13) || n == 0x20 || n == 0x85 || n == 0xa0 || n == 0x1680 ||
    (0x2000 ≤ n && n ≤ 0x200a) || n == 0x2028 || n == 0x2029 || n == 0x202f || n == 0x205f ||
    n == 0x3000

def trimStart (cs : List Char) : List Char := cs.dropWhile isBlank

def trimEnd (cs : List Char) : List Char := (cs.reverse.dropWhile isBlank).reverse

def trim (cs : List Char) : List Char := trimEnd (trimStart cs)

theorem dropWhile_isBlank {cs : List Char} (h : ∀ c ∈ cs.head?, isBlank c = false) :
    cs.dropWhile isBlank = cs := by
  cases cs with
  | nil => rfl
  | cons c rest => exact List.dropWhile_cons_of_neg (by simp [h c rfl])

/-- Nothing is removed from a text without white space at its ends. -/
theorem trim_of_ends {cs : List Char} (hfirst : ∀ c ∈ cs.head?, isBlank c = false)
    (hlast : ∀ c ∈ cs.getLast?, isBlank c = false) : trim cs = cs := by
  have hreverse : ∀ c ∈ cs.reverse.head?, isBlank c = false := by
    rw [List.head?_reverse]
    exact hlast
  rw [trim, trimStart, trimEnd, dropWhile_isBlank hfirst, dropWhile_isBlank hreverse,
    List.reverse_reverse]

theorem trim_of_forall {cs : List Char} (h : ∀ c ∈ cs, isBlank c = false) : trim cs = cs :=
  trim_of_ends (fun c hc => h c (List.mem_of_mem_head? hc))
    fun c hc => h c (List.mem_of_mem_getLast? hc)

theorem trimEnd_append {after : List Char} (h : ∀ c ∈ after, isBlank c = true) (cs : List Char) :
    trimEnd (cs ++ after) = trimEnd cs := by
  have hreverse : ∀ c ∈ after.reverse, isBlank c = true := fun c hc => h c (List.mem_reverse.mp hc)
  rw [trimEnd, List.reverse_append, List.dropWhile_append_of_pos hreverse, trimEnd]

/-- White space around a text makes no difference to what is left of it. -/
theorem trim_append {before after : List Char} (hbefore : ∀ c ∈ before, isBlank c = true)
    (hafter : ∀ c ∈ after, isBlank c = true) (cs : List Char) :
    trim (before ++ cs ++ after) = trim cs := by
  rw [trim, trimStart, List.append_assoc, List.dropWhile_append_of_pos hbefore,
    List.dropWhile_append, trim, trimStart]
  split
  · rename_i hempty
    -- The text is white space too, so that nothing is left of all of it.
    have hrest : after.dropWhile isBlank = [] := by
      rw [← List.append_nil after, List.dropWhile_append_of_pos hafter, List.dropWhile_nil]
    rw [List.isEmpty_iff.mp hempty, hrest]
  · exact trimEnd_append hafter _

/-- Trimming ends before a character that is not white space. -/
theorem trimStart_append_cons {c : Char} (hc : isBlank c = false) (before after : List Char) :
    trimStart (before ++ c :: after) = trimStart before ++ c :: after := by
  rw [trimStart, List.dropWhile_append, trimStart]
  split
  · rename_i hempty
    rw [List.isEmpty_iff.mp hempty, List.dropWhile_cons_of_neg (by simp [hc]), List.nil_append]
  · rfl

theorem trimEnd_append_cons {c : Char} (hc : isBlank c = false) (before after : List Char) :
    trimEnd (before ++ c :: after) = before ++ c :: trimEnd after := by
  have hstart := trimStart_append_cons hc after.reverse before.reverse
  rw [trimStart, trimStart] at hstart
  rw [trimEnd, List.reverse_append, List.reverse_cons, List.append_assoc, List.singleton_append,
    hstart, List.reverse_append, List.reverse_cons, List.reverse_reverse, List.append_assoc,
    List.singleton_append, trimEnd]

theorem trim_append_cons {c : Char} (hc : isBlank c = false) (before after : List Char) :
    trim (before ++ c :: after) = trimStart before ++ c :: trimEnd after := by
  rw [trim, trimStart_append_cons hc, trimEnd_append_cons hc]

/-- What is cut off at the start is white space. -/
theorem exists_blanks_trimStart (cs : List Char) :
    ∃ before, cs = before ++ trimStart cs ∧ ∀ c ∈ before, isBlank c = true :=
  ⟨cs.takeWhile isBlank, List.takeWhile_append_dropWhile.symm,
    List.all_eq_true.mp List.all_takeWhile⟩

theorem exists_blanks_trimEnd (cs : List Char) :
    ∃ after, cs = trimEnd cs ++ after ∧ ∀ c ∈ after, isBlank c = true := by
  obtain ⟨before, hcs, hblank⟩ := exists_blanks_trimStart cs.reverse
  refine ⟨before.reverse, ?_, fun c hc => hblank c (List.mem_reverse.mp hc)⟩
  have h := congrArg List.reverse hcs
  rwa [List.reverse_reverse, List.reverse_append] at h

theorem trim_trimStart (cs : List Char) : trim (trimStart cs) = trim cs := by
  obtain ⟨before, hcs, hblank⟩ := exists_blanks_trimStart cs
  have h := trim_append hblank (List.forall_mem_nil _) (trimStart cs)
  rwa [List.append_nil, ← hcs, eq_comm] at h

theorem trim_trimEnd (cs : List Char) : trim (trimEnd cs) = trim cs := by
  obtain ⟨after, hcs, hblank⟩ := exists_blanks_trimEnd cs
  have h := trim_append (List.forall_mem_nil _) hblank (trimEnd cs)
  rwa [List.nil_append, ← hcs, eq_comm] at h

/-- What is left of a text without the white space around it: only white space
is cut off, and none stands at an end of what is left. -/
structure Trimmed (cs text : List Char) : Prop where
  cut : ∃ before after, cs = before ++ text ++ after ∧ (∀ c ∈ before, isBlank c = true) ∧
    ∀ c ∈ after, isBlank c = true
  first : ∀ c ∈ text.head?, isBlank c = false
  last : ∀ c ∈ text.getLast?, isBlank c = false

theorem Trimmed.blank_or_mem {cs text : List Char} (h : Trimmed cs text) {c : Char} (hc : c ∈ cs) :
    isBlank c = true ∨ c ∈ text := by
  obtain ⟨before, after, rfl, hbefore, hafter⟩ := h.cut
  rcases List.mem_append.mp hc with hc | hc
  · exact (List.mem_append.mp hc).imp_left (hbefore c)
  · exact Or.inl (hafter c hc)

theorem Trimmed.subset {cs text : List Char} (h : Trimmed cs text) : text ⊆ cs := by
  obtain ⟨before, after, rfl, _, _⟩ := h.cut
  intro c hc
  exact List.mem_append_left _ (List.mem_append_right _ hc)

theorem head_trimStart (cs : List Char) : ∀ c ∈ (trimStart cs).head?, isBlank c = false := by
  intro c hc
  have h := List.head?_dropWhile_not isBlank cs
  rw [← trimStart, Option.mem_def.mp hc] at h
  exact Bool.eq_false_iff.mpr (by simpa using h)

theorem trimmed_trim (cs : List Char) : Trimmed cs (trim cs) := by
  obtain ⟨before, hstart, hbefore⟩ := exists_blanks_trimStart cs
  obtain ⟨after, hend, hafter⟩ := exists_blanks_trimEnd (trimStart cs)
  rw [← trim] at hend
  refine ⟨⟨before, after, ?_, hbefore, hafter⟩, fun c hc => ?_, fun c hc => ?_⟩
  · rw [List.append_assoc, ← hend, ← hstart]
  · -- The first character of what is left is also the first one after the start is cut.
    obtain ⟨rest, hrest⟩ := List.head?_eq_some_iff.mp hc
    rw [hrest] at hend
    exact head_trimStart cs c (by rw [hend]; rfl)
  · rw [trim, trimEnd, List.getLast?_reverse] at hc
    exact head_trimStart _ c hc

theorem trim_eq_iff {cs text : List Char} : trim cs = text ↔ Trimmed cs text := by
  constructor
  · rintro rfl
    exact trimmed_trim cs
  · rintro ⟨⟨before, after, rfl, hbefore, hafter⟩, hfirst, hlast⟩
    rw [trim_append hbefore hafter, trim_of_ends hfirst hlast]

end ConversionRules.Text
