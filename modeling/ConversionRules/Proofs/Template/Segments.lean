import ConversionRules.Proofs.Template.Placeholders

/-!
Which templates there are and what they show. A template is a concatenation of
segments: a character, a doubled brace or a placeholder. One character ahead
tells which of them comes next, so a template shows what its segments show, one
after the other, whatever they stand next to.
-/
namespace ConversionRules.Template

open Spelling (takeWhile_dropWhile_spec takeWhile_dropWhile_append)

/-- A part of a template and what it shows. -/
inductive Segment (args : List Value) : List Char → List Char → Prop
  | character {c : Char} (hopening : c ≠ '\x7b') (hclosing : c ≠ '\x7d') : Segment args [c] [c]
  | opening : Segment args ['\x7b', '\x7b'] ['\x7b']
  | closing : Segment args ['\x7d', '\x7d'] ['\x7d']
  | placeholder {spec shown : List Char} (hspec : '\x7d' ∉ spec)
      (hhead : spec.head? ≠ some '\x7b') (hshown : Placeholder args spec shown) :
      Segment args ('\x7b' :: spec ++ ['\x7d']) shown

variable {args : List Value}

theorem expand_character {c : Char} (hopening : c ≠ '\x7b') (hclosing : c ≠ '\x7d')
    (rest : List Char) : expand args (c :: rest) = (expand args rest).map (c :: ·) := by
  rw [expand]
  all_goals simp [hopening, hclosing]

theorem expand_opening (rest : List Char) :
    expand args ('\x7b' :: '\x7b' :: rest) = (expand args rest).map ('\x7b' :: ·) := by
  rw [expand]

theorem expand_closing (rest : List Char) :
    expand args ('\x7d' :: '\x7d' :: rest) = (expand args rest).map ('\x7d' :: ·) := by
  rw [expand]

/-- A placeholder ends at the first closing brace. -/
theorem expand_placeholder {spec shown : List Char} (hspec : '\x7d' ∉ spec)
    (hhead : spec.head? ≠ some '\x7b') (hshown : placeholder args spec = .ok shown)
    (rest : List Char) :
    expand args ('\x7b' :: (spec ++ '\x7d' :: rest)) = (expand args rest).map (shown ++ ·) := by
  have hstop : ∀ c ∈ ('\x7d' :: rest).head?, (c != '\x7d') = false := by simp
  obtain ⟨htake, hdrop⟩ := takeWhile_dropWhile_append (all_ne_iff.mpr hspec) hstop
  rw [expand]
  · split
    · rename_i hend
      rw [hdrop] at hend
      cases hend
    · rename_i more hmore
      rw [hdrop] at hmore
      cases hmore
      rw [htake, hshown]
  · intro more hmore
    cases spec with
    | nil => cases hmore
    | cons c spec =>
      cases hmore
      exact hhead rfl

/-- A segment shows the same whatever follows it. -/
theorem expand_segment_append {written shown : List Char} (h : Segment args written shown)
    (rest : List Char) :
    expand args (written ++ rest) = (expand args rest).map (shown ++ ·) := by
  cases h with
  | character hopening hclosing => exact expand_character hopening hclosing rest
  | opening => exact expand_opening rest
  | closing => exact expand_closing rest
  | placeholder hspec hhead hshown =>
    rw [List.cons_append, List.cons_append, List.append_assoc, List.singleton_append]
    exact expand_placeholder hspec hhead (placeholder_eq_ok_iff.mpr hshown) rest

theorem expand_segment {written shown : List Char} (h : Segment args written shown) :
    expand args written = .ok shown := by
  have hlast := expand_segment_append h []
  rw [List.append_nil, expand] at hlast
  exact hlast.trans (congrArg Except.ok (List.append_nil shown))

theorem expand_segments {segments : List (List Char × List Char)}
    (h : ∀ p ∈ segments, Segment args p.1 p.2) :
    expand args (segments.flatMap Prod.fst) = .ok (segments.flatMap Prod.snd) := by
  induction segments with
  | nil => rw [List.flatMap_nil, List.flatMap_nil, expand]
  | cons p segments ih =>
    obtain ⟨hfirst, hrest⟩ := List.forall_mem_cons.mp h
    rw [List.flatMap_cons, List.flatMap_cons, expand_segment_append hfirst, ih hrest]
    rfl

/-- Segments in front of more of them. -/
theorem exists_segments_cons {written shown rest out : List Char}
    {x : Except TemplateFault (List Char)} (hfirst : Segment args written shown)
    (hrest : ∀ more, x = .ok more → ∃ segments : List (List Char × List Char),
      (∀ p ∈ segments, Segment args p.1 p.2) ∧ rest = segments.flatMap Prod.fst ∧
        more = segments.flatMap Prod.snd)
    (hout : x.map (shown ++ ·) = .ok out) : ∃ segments : List (List Char × List Char),
      (∀ p ∈ segments, Segment args p.1 p.2) ∧ written ++ rest = segments.flatMap Prod.fst ∧
        out = segments.flatMap Prod.snd := by
  cases x with
  | error fault => cases hout
  | ok more =>
    cases hout
    obtain ⟨segments, hsegments, rfl, rfl⟩ := hrest more rfl
    exact ⟨(written, shown) :: segments, List.forall_mem_cons.mpr ⟨hfirst, hsegments⟩, rfl, rfl⟩

theorem exists_segments {template out : List Char} (h : expand args template = .ok out) :
    ∃ segments : List (List Char × List Char), (∀ p ∈ segments, Segment args p.1 p.2) ∧
      template = segments.flatMap Prod.fst ∧ out = segments.flatMap Prod.snd := by
  fun_induction expand args template generalizing out with
  | case1 =>
    cases h
    exact ⟨[], fun _ hp => absurd hp List.not_mem_nil, rfl, rfl⟩
  | case2 rest ih => exact exists_segments_cons .opening (fun more hmore => ih hmore) h
  | case3 rest ih => exact exists_segments_cons .closing (fun more hmore => ih hmore) h
  | case4 => cases h
  | case5 => cases h
  | case6 => cases h
  | case7 rest hopening brace more hmore shown hshown ih =>
    obtain ⟨hsplit, hspec, hstop⟩ := takeWhile_dropWhile_spec (· != '\x7d') rest
    generalize rest.takeWhile (· != '\x7d') = spec at hsplit hspec hshown
    rw [hmore] at hsplit hstop
    have hbrace : brace = '\x7d' := by simpa using hstop brace rfl
    rw [hbrace] at hsplit
    have hhead : spec.head? ≠ some '\x7b' := by
      intro hhead
      obtain ⟨tail, rfl⟩ := List.head?_eq_some_iff.mp hhead
      exact hopening _ hsplit
    have hsegment : Segment args ('\x7b' :: spec ++ ['\x7d']) shown :=
      .placeholder (all_ne_iff.mp hspec) hhead (placeholder_eq_ok_iff.mp hshown)
    have hall := exists_segments_cons hsegment (fun more hmore => ih hmore) h
    rw [List.append_assoc, List.singleton_append, List.cons_append, ← hsplit] at hall
    exact hall
  | case8 c rest _ _ hclosing hopening ih =>
    have hsegment : Segment args [c] [c] := .character hopening hclosing
    exact exists_segments_cons hsegment (fun more hmore => ih hmore) h

/-- The template of a text that holds no placeholder: every brace is doubled. -/
def doubled (text : List Char) : List Char :=
  text.flatMap fun c => if c = '\x7b' ∨ c = '\x7d' then [c, c] else [c]

theorem expand_doubled (text : List Char) : expand args (doubled text) = .ok text := by
  induction text with
  | nil => rw [doubled, List.flatMap_nil, expand]
  | cons c rest ih =>
    have hfirst : Segment args (if c = '\x7b' ∨ c = '\x7d' then [c, c] else [c]) [c] := by
      split
      · rename_i hbrace
        rcases hbrace with rfl | rfl
        · exact .opening
        · exact .closing
      · rename_i hplain
        exact .character (fun h => hplain (Or.inl h)) (fun h => hplain (Or.inr h))
    rw [doubled, List.flatMap_cons, expand_segment_append hfirst]
    rw [doubled] at ih
    rw [ih]
    rfl

/-- A template is accepted if and only if it is a concatenation of segments, and
shows what they show; a text is shown as it is if its braces are doubled. -/
theorem expand_eq_ok_iff_segments (args : List Value) :
    (∀ template out, expand args template = .ok out ↔
      ∃ segments : List (List Char × List Char), (∀ p ∈ segments, Segment args p.1 p.2) ∧
        template = segments.flatMap Prod.fst ∧ out = segments.flatMap Prod.snd) ∧
    ∀ text, expand args (doubled text) = .ok text := by
  refine ⟨fun template out => ⟨exists_segments, ?_⟩, expand_doubled⟩
  rintro ⟨segments, hsegments, rfl, rfl⟩
  exact expand_segments hsegments

-- Doubled braces beside the braces of a placeholder.
example : expand [.int 7] ['\x7b', '\x7b', '\x7b', '0', '\x7d', '\x7d', '\x7d'] =
    .ok ['\x7b', '7', '\x7d'] := by
  cbv

end ConversionRules.Template
