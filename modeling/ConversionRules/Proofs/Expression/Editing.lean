import ConversionRules.Rule
import ConversionRules.Proofs.Expression.Blame
import ConversionRules.Proofs.Text.Parts

/-!
Text transforms stage by stage. A transform is the chain of the transforms that
carry one of its stages each, and a position is a number of characters of the
text that its stage gets. Splitting comes last and loses nothing.
-/
namespace ConversionRules.TextTransform

section Positions

variable {start stop index : Option UInt64} {cs out : List Char} {cause : Cause}

/-- A start that is not given is the beginning, an end that is not given the end. -/
theorem cutStage_eq (start stop : Option UInt64) (cs : List Char) :
    cutStage start stop cs =
      if cs.length < stop.elim cs.length UInt64.toNat then
        .error (.indexOutOfRange (stop.elim cs.length UInt64.toNat) cs.length)
      else if stop.elim cs.length UInt64.toNat < start.elim 0 UInt64.toNat then
        .error (.indexOutOfRange (start.elim 0 UInt64.toNat) cs.length)
      else .ok ((cs.take (stop.elim cs.length UInt64.toNat)).drop (start.elim 0 UInt64.toNat)) := by
  cases start with
  | some first =>
    cases stop with
    | some last => rfl
    | none => rfl
  | none =>
    cases stop with
    | some last => rfl
    | none => simp [cutStage]

/-- A text is cut between its characters: as many of them as the start says come
before what is kept, and as many as the end says up to the last that is kept. -/
theorem cutStage_eq_ok_iff : cutStage start stop cs = .ok out ↔
    ∃ before after, cs = before ++ out ++ after ∧ before.length = start.elim 0 UInt64.toNat ∧
      (before ++ out).length = stop.elim cs.length UInt64.toNat := by
  rw [cutStage_eq]
  generalize start.elim 0 UInt64.toNat = first
  generalize stop.elim cs.length UInt64.toNat = last
  constructor
  · intro h
    split at h
    · cases h
    split at h
    · cases h
    rename_i hlast hfirst
    cases h
    refine ⟨(cs.take last).take first, cs.drop last, ?_, ?_, ?_⟩
    · rw [List.take_append_drop, List.take_append_drop]
    · rw [List.length_take, List.length_take]
      omega
    · rw [List.take_append_drop, List.length_take]
      omega
  · rintro ⟨before, after, rfl, rfl, rfl⟩
    rw [if_neg (by simp), if_neg (by simp), List.take_left, List.drop_left]

theorem cutStage_eq_error_iff : cutStage start stop cs = .error cause ↔
    (cs.length < stop.elim cs.length UInt64.toNat ∧
      cause = .indexOutOfRange (stop.elim cs.length UInt64.toNat) cs.length) ∨
    (stop.elim cs.length UInt64.toNat ≤ cs.length ∧
      stop.elim cs.length UInt64.toNat < start.elim 0 UInt64.toNat ∧
      cause = .indexOutOfRange (start.elim 0 UInt64.toNat) cs.length) := by
  rw [cutStage_eq]
  generalize start.elim 0 UInt64.toNat = first
  generalize stop.elim cs.length UInt64.toNat = last
  by_cases hlast : cs.length < last
  · simp [hlast, Nat.not_le.mpr hlast, eq_comm]
  · by_cases hfirst : last < first
    · simp [hlast, hfirst, Nat.le_of_not_lt hlast, eq_comm]
    · simp [hlast, hfirst]

/-- An index that is not given is that of the first character. -/
theorem insertStage_some (text : String) (index : Option UInt64) (cs : List Char) :
    insertStage (some text) index cs =
      if cs.length < index.elim 0 UInt64.toNat then
        .error (.indexOutOfRange (index.elim 0 UInt64.toNat) cs.length)
      else .ok (cs.take (index.elim 0 UInt64.toNat) ++ text.toList ++
        cs.drop (index.elim 0 UInt64.toNat)) := by
  cases index with
  | none => rfl
  | some n => rfl

/-- A text is inserted between characters, of which the index says how many come before. -/
theorem insertStage_some_eq_ok_iff {text : String} : insertStage (some text) index cs = .ok out ↔
    ∃ before after, cs = before ++ after ∧ before.length = index.elim 0 UInt64.toNat ∧
      out = before ++ text.toList ++ after := by
  rw [insertStage_some]
  generalize index.elim 0 UInt64.toNat = n
  constructor
  · intro h
    split at h
    · cases h
    rename_i hn
    cases h
    refine ⟨cs.take n, cs.drop n, (List.take_append_drop n cs).symm, ?_, rfl⟩
    rw [List.length_take]
    omega
  · rintro ⟨before, after, rfl, rfl, rfl⟩
    rw [if_neg (by simp), List.take_left, List.drop_left]

theorem length_lt_of_insertStage {text : Option String}
    (h : insertStage text index cs = .error cause) :
    ∃ n, cs.length < n ∧ cause = .indexOutOfRange n cs.length := by
  cases text with
  | none => cases h
  | some text =>
    rw [insertStage_some] at h
    split at h
    · rename_i hn
      cases h
      exact ⟨_, hn, rfl⟩
    · cases h

end Positions

section Stages

variable (text : String)

theorem evaluate_of_requireText {v : Value} {cause : Cause} (h : v.requireText = .error cause)
    (t : TextTransform) : t.evaluate v = .error cause := by
  rw [evaluate, h]

theorem exists_string_of_requireText {v : Value} {cs : List Char} (h : v.requireText = .ok cs) :
    ∃ text, v = .string text := by
  unfold Value.requireText at h
  split at h
  · exact ⟨_, rfl⟩
  · cases h

theorem evaluate_string (t : TextTransform) :
    t.evaluate (.string text) = (t.reshape text.toList).map (splitStage t.splitBy) := rfl

theorem evaluate_trim (mode : Option TrimMode) :
    evaluate { trim := mode } (.string text) =
      .ok (.string (String.ofList (trimStage mode text.toList))) := rfl

theorem evaluate_cut (start stop : Option UInt64) :
    evaluate { substringStart := start, substringEnd := stop } (.string text) =
      (cutStage start stop text.toList).map fun cs => .string (String.ofList cs) := by
  rw [evaluate_string, reshape]
  simp only [trimStage]
  cases cutStage start stop text.toList with
  | error cause => rfl
  | ok cut => rfl

theorem evaluate_insert (inserted : Option String) (index : Option UInt64) :
    evaluate { insertText := inserted, insertIndex := index } (.string text) =
      (insertStage inserted index text.toList).map fun cs => .string (String.ofList cs) := by
  rw [evaluate_string, reshape]
  have hcut : cutStage none none (trimStage none text.toList) = .ok text.toList := rfl
  simp only [hcut]
  cases insertStage inserted index text.toList with
  | error cause => rfl
  | ok cs => rfl

theorem evaluate_lower (mode : Option CaseMode) :
    evaluate { toLower := mode } (.string text) =
      .ok (.string (String.ofList (lowerStage mode text.toList))) := rfl

theorem evaluate_upper (mode : Option CaseMode) :
    evaluate { toUpper := mode } (.string text) =
      .ok (.string (String.ofList (upperStage mode text.toList))) := rfl

theorem evaluate_split (separator : Option String) :
    evaluate { splitBy := separator } (.string text) = .ok (splitStage separator text.toList) :=
  rfl

/-- The transforms that carry one stage of a transform each, in order. -/
def stages (t : TextTransform) : List TextTransform :=
  [{ trim := t.trim },
   { substringStart := t.substringStart, substringEnd := t.substringEnd },
   { insertText := t.insertText, insertIndex := t.insertIndex },
   { toLower := t.toLower },
   { toUpper := t.toUpper },
   { splitBy := t.splitBy }]

/-- The values of transforms, each applied to what the one before it gives. -/
def evaluateAll (ts : List TextTransform) (v : Value) : Except Cause Value :=
  ts.foldlM (fun x t => t.evaluate x) v

theorem evaluateAll_cons (t : TextTransform) (ts : List TextTransform) (v : Value) :
    evaluateAll (t :: ts) v = (t.evaluate v).bind (evaluateAll ts) := List.foldlM_cons ..

theorem evaluateAll_stages (t : TextTransform) (v : Value) :
    evaluateAll t.stages v = t.evaluate v := by
  cases htext : v.requireText with
  | error cause =>
    -- The first stage needs a text just as the whole transform does.
    rw [stages, evaluateAll_cons, evaluate_of_requireText htext, evaluate_of_requireText htext]
    rfl
  | ok cs =>
    obtain ⟨text, rfl⟩ := exists_string_of_requireText htext
    rw [evaluate_string, reshape]
    simp only [stages, evaluateAll_cons, evaluate_trim, evaluate_cut, Except.bind,
      String.toList_ofList]
    cases cutStage t.substringStart t.substringEnd (trimStage t.trim text.toList) with
    | error cause => rfl
    | ok cut =>
      simp only [Except.map, evaluate_insert, String.toList_ofList]
      cases insertStage t.insertText t.insertIndex cut with
      | error cause => rfl
      | ok inserted =>
        simp only [evaluate_lower, evaluate_upper, evaluate_split, String.toList_ofList]
        rfl

end Stages

/-- Outputs that are transforms are applied as the transforms are, and leave the scope alone. -/
theorem applyAll_transforms (ts : List TextTransform) (v : Value) (s : Scope) :
    Output.applyAll (ts.map fun t => .expression (.transform t)) v s =
      ((evaluateAll ts v).mapError (EvalError.mk .transform), s) := by
  induction ts generalizing v with
  | nil => rfl
  | cons t ts ih =>
    rw [List.map_cons, Output.applyAll, Output.apply, Expression.evaluate_eq, Expression.attempt,
      evaluateAll_cons]
    cases t.evaluate v with
    | error cause => rfl
    | ok x => exact ih x

/-- A transform is evaluated as the outputs that carry one of its stages each,
in any rule: the values, the errors and the scopes are the same. The positions
of a substring and of an insertion are numbers of characters of the text that
this stage gets. -/
theorem convert_stages (t : TextTransform) (r : Rule) (v : Value) (s : Scope) :
    ({ r with
        output := none
        outputs := t.stages.map fun stage => .expression (.transform stage) } : Rule).convert v s =
      (Expression.transform t).evaluate v s ∧
    (∀ text x, evaluate { substringStart := t.substringStart, substringEnd := t.substringEnd }
        (.string text) = .ok x ↔
      ∃ before kept after : List Char, text.toList = before ++ kept ++ after ∧
        before.length = t.substringStart.elim 0 UInt64.toNat ∧
        (before ++ kept).length = t.substringEnd.elim text.length UInt64.toNat ∧
        x = .string (String.ofList kept)) ∧
    ∀ text inserted x, evaluate { insertText := some inserted, insertIndex := t.insertIndex }
        (.string text) = .ok x ↔
      ∃ before after : List Char, text.toList = before ++ after ∧
        before.length = t.insertIndex.elim 0 UInt64.toNat ∧
        x = .string (String.ofList (before ++ inserted.toList ++ after)) := by
  refine ⟨?_, fun text x => ?_, fun text inserted x => ?_⟩
  · rw [Rule.convert, Rule.activeOutputs, applyAll_transforms, evaluateAll_stages,
      Expression.evaluate_eq]
    rfl
  · rw [evaluate_cut, map_eq_ok_iff]
    simp only [cutStage_eq_ok_iff, String.length_toList]
    constructor
    · rintro ⟨kept, ⟨before, after, htext, hstart, hstop⟩, rfl⟩
      exact ⟨before, kept, after, htext, hstart, hstop, rfl⟩
    · rintro ⟨before, kept, after, htext, hstart, hstop, rfl⟩
      exact ⟨kept, ⟨before, after, htext, hstart, hstop⟩, rfl⟩
  · rw [evaluate_insert, map_eq_ok_iff]
    simp only [insertStage_some_eq_ok_iff]
    constructor
    · rintro ⟨out, ⟨before, after, htext, hindex, rfl⟩, rfl⟩
      exact ⟨before, after, htext, hindex, rfl⟩
    · rintro ⟨before, after, htext, hindex, rfl⟩
      exact ⟨_, ⟨before, after, htext, hindex, rfl⟩, rfl⟩

section Splitting

/-- The stages before the last do not look at the separator. -/
theorem evaluate_splitBy_string (t : TextTransform) (separator : Option String) (text : String) :
    evaluate { t with splitBy := separator } (.string text) =
      (t.reshape text.toList).map (splitStage separator) := rfl

/-- The parts of a text as texts. -/
def pieces (separator : String) (cs : List Char) : List String :=
  (Text.split separator.toList cs).map String.ofList

theorem splitStage_some (separator : String) (cs : List Char) :
    splitStage (some separator) cs = .list ((pieces separator cs).map .string) := by
  rw [splitStage, pieces, List.map_map]
  rfl

theorem intercalate_pieces (separator : String) (cs : List Char) :
    separator.intercalate (pieces separator cs) = String.ofList cs := by
  have htexts : (pieces separator cs).map String.toList = Text.split separator.toList cs := by
    rw [pieces, List.map_map]
    exact List.map_id'' (fun _ => String.toList_ofList) _
  rw [← String.toList_inj, String.toList_intercalate, htexts, Text.intercalate_split,
    String.toList_ofList]

theorem not_occurs_of_mem_pieces {separator part : String} {cs : List Char}
    (hseparator : separator ≠ "") (hpart : part ∈ pieces separator cs) :
    ¬ separator.toList <:+: part.toList := by
  have hcharacters : separator.toList ≠ [] := by simpa using hseparator
  obtain ⟨piece, hpiece, rfl⟩ := List.mem_map.mp hpart
  rw [String.toList_ofList]
  exact (Text.parted_split hcharacters cs).not_occurs hcharacters piece hpiece

/-- A transform with a separator fails if it does without one. Otherwise it
gives a list of parts that are, with the separator between neighbours, the text
that it gives without, and no part holds a separator that is not empty. -/
theorem evaluate_splitBy (t : TextTransform) (separator : String) (v : Value) :
    (∃ cause, evaluate { t with splitBy := some separator } v = .error cause ∧
      evaluate { t with splitBy := none } v = .error cause) ∨
    ∃ parts : List String, parts ≠ [] ∧
      evaluate { t with splitBy := some separator } v = .ok (.list (parts.map .string)) ∧
      evaluate { t with splitBy := none } v = .ok (.string (separator.intercalate parts)) ∧
      (separator ≠ "" → ∀ part ∈ parts, ¬ separator.toList <:+: part.toList) := by
  cases htext : v.requireText with
  | error cause =>
    exact Or.inl ⟨cause, evaluate_of_requireText htext _, evaluate_of_requireText htext _⟩
  | ok cs =>
    obtain ⟨text, rfl⟩ := exists_string_of_requireText htext
    rw [evaluate_splitBy_string, evaluate_splitBy_string]
    cases t.reshape text.toList with
    | error cause => exact Or.inl ⟨cause, rfl, rfl⟩
    | ok out =>
      refine Or.inr ⟨pieces separator out, ?_, ?_, ?_, ?_⟩
      · exact fun h => Text.split_ne_nil _ _ (List.map_eq_nil_iff.mp h)
      · rw [Except.map, splitStage_some]
      · rw [Except.map, intercalate_pieces]
        rfl
      · exact fun hseparator part hpart => not_occurs_of_mem_pieces hseparator hpart

/-- The separator overlaps itself in the text, and one part begins with a part of it. -/
theorem evaluate_splitBy_dashes :
    evaluate { trim := some .whole, splitBy := some "--" } (.string " a--b---c ") =
      .ok (.list [.string "a", .string "b", .string "-c"]) ∧
    ∃ parts : List String, parts ≠ [] ∧
      Value.list (parts.map .string) = .list [.string "a", .string "b", .string "-c"] ∧
      evaluate { trim := some .whole } (.string " a--b---c ") =
        .ok (.string ("--".intercalate parts)) ∧
      ∀ part ∈ parts, ¬ "--".toList <:+: part.toList := by
  have htrimmed : reshape { trim := some .whole, splitBy := some "--" } " a--b---c ".toList =
      .ok "a--b---c".toList := rfl
  have hpieces : pieces "--" "a--b---c".toList = ["a", "b", "-c"] := by cbv
  have hparts : evaluate { trim := some .whole, splitBy := some "--" } (.string " a--b---c ") =
      .ok (.list [.string "a", .string "b", .string "-c"]) := by
    rw [evaluate_string, htrimmed, Except.map, splitStage_some, hpieces]
    rfl
  refine ⟨hparts, ?_⟩
  rcases evaluate_splitBy { trim := some .whole } "--" (.string " a--b---c ") with
    ⟨cause, hfails, _⟩ | ⟨parts, hne, hsplit, hwhole, hfree⟩
  · cases hparts.symm.trans hfails
  · exact ⟨parts, hne, Except.ok.inj (hsplit.symm.trans hparts), hwhole, hfree (by decide)⟩

end Splitting

end ConversionRules.TextTransform
