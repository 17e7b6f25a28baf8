import ConversionRules.Registry

/-!
What a registry finds under a name. However often types are registered, and
replace others of their names, it is the type of the name registered last, and
no other type is found under a name than one that has it.
-/
namespace ConversionRules.Registry

variable {r : Registry} {name : String}

/-- Only the name of the registered type is found anew. -/
theorem find?_register (r : Registry) (e : EnumType) (name : String) :
    (r.register e).find? name = if e.name = name then some e else r.find? name := by
  rw [register, find?, List.find?_append, List.find?_singleton]
  simp only [beq_iff_eq]
  by_cases hname : e.name = name
  · have hremoved : (r.enums.filter fun other => other.name != e.name).find?
        (fun other => other.name == name) = none := by
      refine List.find?_eq_none.mpr fun other hother => ?_
      simpa [hname] using (List.mem_filter.mp hother).2
    rw [hremoved, Option.none_or, if_pos hname, if_pos hname]
  · have hkept : (fun other : EnumType =>
        decide ((other.name != e.name) = true ∧ (other.name == name) = true)) =
          fun other => other.name == name := by
      funext other
      grind
    rw [List.find?_filter, hkept, if_neg hname, if_neg hname, Option.or_none, find?]

theorem find?_foldl_register (es : List EnumType) (r : Registry) (name : String) :
    (es.foldl register r).find? name =
      (es.reverse.find? fun e => e.name == name).or (r.find? name) := by
  induction es generalizing r with
  | nil => rfl
  | cons e rest ih =>
    rw [List.foldl_cons, ih, find?_register, List.reverse_cons, List.find?_append, Option.or_assoc,
      List.find?_singleton]
    simp only [beq_iff_eq]
    split
    · rw [Option.some_or]
    · rw [Option.none_or]

/-- What is found after many registrations is the last type that has the name. -/
theorem find?_ofList (es : List EnumType) (name : String) :
    (ofList es).find? name = es.reverse.find? fun e => e.name == name := by
  rw [ofList, find?_foldl_register]
  exact Option.or_none

theorem name_of_find? {t : EnumType} (h : r.find? name = some t) : t.name = name :=
  beq_iff_eq.mp (List.find?_some (p := fun e : EnumType => e.name == name) h)

theorem builtin?_ne_enum (name type : String) : builtin? name ≠ some (.enum type) := by
  unfold builtin?
  split <;> nofun

/-- A word that resolves to an enum type is its name, under which it is found. -/
theorem find?_of_resolve? {word : String} (h : r.resolve? word = some (.enum name)) :
    word = name ∧ ∃ t, r.find? name = some t := by
  unfold resolve? at h
  cases hbuiltin : builtin? word with
  | some t =>
    rw [hbuiltin] at h
    exact absurd (hbuiltin.trans h) (builtin?_ne_enum word name)
  | none =>
    rw [hbuiltin] at h
    obtain ⟨t, ht, heq⟩ := Option.map_eq_some_iff.mp h
    cases heq
    have hword := name_of_find? ht
    exact ⟨hword.symm, t, hword ▸ ht⟩

end ConversionRules.Registry
