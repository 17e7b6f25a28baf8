import ConversionRules.Document.Call

/-!
Arguments as they are taken out of a list by name. Taking one moves another
into its place, so what is left is known up to the order, and this is enough
if the names are distinct.
-/
namespace ConversionRules.Call

def Distinct (args : List (String × Argument)) : Prop := (args.map Prod.fst).Nodup

theorem Distinct.perm {args args' : List (String × Argument)} (h : Distinct args)
    (hperm : args.Perm args') : Distinct args' :=
  (hperm.map Prod.fst).nodup h

theorem Distinct.filter {args : List (String × Argument)} (h : Distinct args)
    (p : String × Argument → Bool) : Distinct (args.filter p) :=
  List.Nodup.sublist (List.filter_sublist.map Prod.fst) h

theorem lookup_eq_some_iff {α : Type} {entries : List (String × α)}
    (h : (entries.map Prod.fst).Nodup) (name : String) (b : α) :
    entries.lookup name = some b ↔ (name, b) ∈ entries := by
  induction entries with
  | nil => simp
  | cons entry rest ih =>
    obtain ⟨first, b'⟩ := entry
    rw [List.map_cons, List.nodup_cons] at h
    by_cases hname : name = first
    · subst hname
      have hrest : (name, b) ∉ rest := by
        intro hmem
        exact h.1 (List.mem_map.mpr ⟨(name, b), hmem, rfl⟩)
      simp [hrest, eq_comm]
    · have hother : (name == first) = false := beq_false_of_ne hname
      simp [List.lookup_cons, hother, hname, ih h.2]

theorem lookup_eq_none_iff {α : Type} {entries : List (String × α)}
    (h : (entries.map Prod.fst).Nodup) (name : String) :
    entries.lookup name = none ↔ ∀ b, (name, b) ∉ entries := by
  simp only [← lookup_eq_some_iff h, Option.eq_none_iff_forall_ne_some]

theorem duplicate?_eq_none_iff_unseen (seen : List String) (args : List (String × Argument)) :
    duplicate? seen args = none ↔ Distinct args ∧ ∀ a ∈ args, a.1 ∉ seen := by
  induction args generalizing seen with
  | nil => simp [duplicate?, Distinct]
  | cons entry rest ih =>
    obtain ⟨name, a⟩ := entry
    unfold duplicate?
    by_cases hname : name ∈ seen
    · simp [hname]
    · have hfirst : ¬seen.contains name := by simpa using hname
      rw [if_neg hfirst, ih]
      simp only [Distinct, List.map_cons, List.nodup_cons, List.mem_map, List.forall_mem_cons]
      constructor
      · rintro ⟨hrest, hseen⟩
        refine ⟨⟨?_, hrest⟩, hname, ?_⟩
        · rintro ⟨b, hb, heq⟩
          exact hseen b hb (heq ▸ List.mem_cons_self)
        · intro b hb hmem
          exact hseen b hb (List.mem_cons_of_mem name hmem)
      · rintro ⟨⟨hfresh, hrest⟩, _, hseen⟩
        refine ⟨hrest, fun b hb hmem => ?_⟩
        rcases List.mem_cons.mp hmem with heq | hmem
        · exact hfresh ⟨b, hb, heq⟩
        · exact hseen b hb hmem

theorem duplicate?_eq_none_iff (args : List (String × Argument)) :
    duplicate? [] args = none ↔ Distinct args := by
  simp [duplicate?_eq_none_iff_unseen]

theorem moved_last_perm {α : Type} {rest : List α} {last : α} (h : rest.getLast? = some last) :
    (last :: rest.dropLast).Perm rest := by
  have hrest : rest.dropLast ++ [last] = rest := by
    obtain ⟨before, rfl⟩ := List.getLast?_eq_some_iff.mp h
    rw [List.dropLast_concat]
  calc
    _ = [last] ++ rest.dropLast := rfl
    List.Perm _ (rest.dropLast ++ [last]) := List.perm_append_comm
    _ = rest := hrest

/-- Without its argument, a list holds the others, though not in their order. -/
theorem remove_perm (name : String) {args : List (String × Argument)} (h : Distinct args) :
    (remove name args).Perm (args.filter fun a => a.1 ∉ [name]) := by
  induction args with
  | nil => exact List.Perm.refl _
  | cons a rest ih =>
    obtain ⟨hfresh, hrest⟩ := List.nodup_cons.mp h
    unfold remove
    by_cases hname : a.1 = name
    · -- no other argument has the name, so that the rest is kept as a whole
      have hkept : ∀ b ∈ rest, b.1 ∉ [name] := by
        intro b hb heq
        apply hfresh
        rw [hname]
        exact List.mem_map.mpr ⟨b, hb, List.mem_singleton.mp heq⟩
      rw [if_pos hname, List.filter_cons_of_neg (by simpa using hname),
        List.filter_eq_self.mpr (by simpa using hkept)]
      cases hlast : rest.getLast? with
      | none => rw [List.getLast?_eq_none_iff.mp hlast]
      | some last => exact moved_last_perm hlast
    · rw [if_neg hname, List.filter_cons_of_pos (by simpa using hname)]
      exact (ih hrest).cons a

theorem leftOver_perm (names : List String) {args : List (String × Argument)}
    (h : Distinct args) : (leftOver names args).Perm (args.filter fun a => a.1 ∉ names) := by
  induction names generalizing args with
  | nil =>
    have hall : (args.filter fun a => a.1 ∉ []) = args := by simp
    exact List.Perm.of_eq hall.symm
  | cons name names ih =>
    have hfirst := remove_perm name h
    -- names stay distinct, which the next removal needs
    have hdistinct : Distinct (remove name args) := (h.filter _).perm hfirst.symm
    calc
      List.Perm (leftOver (name :: names) args)
          ((remove name args).filter fun a => a.1 ∉ names) := ih hdistinct
      List.Perm _ ((args.filter fun a => a.1 ∉ [name]).filter fun a => a.1 ∉ names) :=
        hfirst.filter _
      _ = args.filter fun a => a.1 ∉ name :: names := by
        rw [List.filter_filter]
        congr 1
        funext a
        simp [Bool.and_comm]

theorem leftOver_eq_nil_iff (names : List String) {args : List (String × Argument)}
    (h : Distinct args) : leftOver names args = [] ↔ ∀ a ∈ args, a.1 ∈ names := by
  constructor
  · intro hnone
    have hempty := leftOver_perm names h
    rw [hnone] at hempty
    simpa using hempty.symm.eq_nil
  · intro hall
    have hempty : (args.filter fun a => a.1 ∉ names) = [] := by simpa using hall
    exact (hempty ▸ leftOver_perm names h).eq_nil

end ConversionRules.Call
