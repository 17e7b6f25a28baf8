import ConversionRules.Proofs.Expression.Editing
import ConversionRules.Proofs.Registry.Registration
import ConversionRules.Proofs.Template.Faults

/-!
Line breaks in the messages of errors. The wording of every message is of one
line, but the texts of an input and of the parameters are shown in it as they
are, so a message has their line breaks. Expressions of all but four kinds can
be made to show any text.
-/
namespace ConversionRules

open Text (Shows SingleLine BreaksWithin)

section Wording

/-- The texts in a cause, which its message shows. -/
def Cause.texts : Cause → List String
  | .typeMismatch _ found => kindTexts found
  | .unparsable input target => [input, target]
  | .incomparableItems left right => kindTexts left ++ kindTexts right
  | .malformedTemplate fault => fault.texts
  | .missingConfiguration _ | .emptySource _ | .indexOutOfRange _ _ | .invalidRange _ _
  | .notACondition => []

theorem ExpressionKind.singleLine_name (kind : ExpressionKind) : SingleLine kind.name := by
  cases kind <;> decide

theorem EvalError.shows_message (err : EvalError) : Shows err.message err.cause.texts := by
  obtain ⟨kind, cause⟩ := err
  have hname : Shows kind.name [] := Shows.wording kind.singleLine_name
  cases cause with
  | typeMismatch expected found =>
    have hdemand : SingleLine expected.text := by cases expected <;> decide
    exact (((hname.then_wording (by decide)).then_wording hdemand).then_wording (by decide)).append
      (shows_kindText found)
  | unparsable input target =>
    exact (((hname.then_wording (by decide)).then_text input).then_wording (by decide)).then_text
      target
  | missingConfiguration required =>
    have hrequired : SingleLine required.text := by cases required <;> decide
    exact (hname.then_wording (by decide)).then_wording hrequired
  | emptySource operation =>
    have hoperation : SingleLine operation.name := by cases operation <;> decide
    exact ((hname.then_wording (by decide)).then_wording hoperation).then_wording (by decide)
  | indexOutOfRange index length =>
    exact (((hname.then_wording (by decide)).then_wording (singleLine_toString index)).then_wording
      (by decide)).then_wording (singleLine_toString length)
  | incomparableItems left right =>
    exact (((hname.then_wording (by decide)).append (shows_kindText left)).then_wording
      (by decide)).append (shows_kindText right)
  | invalidRange lower upper =>
    exact (((hname.then_wording (by decide)).then_wording
      (singleLine_integer lower.toInt)).then_wording (by decide)).then_wording
        (singleLine_integer upper.toInt)
  | malformedTemplate fault => exact (hname.then_wording (by decide)).append fault.shows_message
  | notACondition =>
    exact ((Shows.wording (by decide)).then_wording kind.singleLine_name).then_wording (by decide)

end Wording

/-- The line breaks in the texts of the cause stand in the given texts. -/
def Cause.Within (cause : Cause) (given : List String) : Prop :=
  ∀ text ∈ cause.texts, BreaksWithin text given

section Causes

variable {cause : Cause} {given given' : List String} {v : Value}

theorem Cause.Within.mono (h : cause.Within given) (hsubset : given ⊆ given') :
    cause.Within given' := fun text htext => (h text htext).mono hsubset

theorem Cause.within_nothing (h : cause.texts = []) : cause.Within given := by
  intro text htext
  rw [h] at htext
  cases htext

theorem Cause.within_of_subset (h : cause.texts ⊆ given) : cause.Within given :=
  fun _ htext => Text.breaksWithin_of_mem (h htext)

/-- What an expression is given in place of what it demands is named by its type. -/
theorem within_typeMismatch (demand : Demand) (v : Value) :
    (Cause.typeMismatch demand v.type?).Within v.texts :=
  Cause.within_of_subset v.kindTexts_subset

theorem within_requireNumber (h : v.requireNumber = .error cause) : cause.Within v.texts := by
  unfold Value.requireNumber at h
  split at h
  · cases h
    exact within_typeMismatch .number v
  · cases h

theorem within_requireText (h : v.requireText = .error cause) : cause.Within v.texts := by
  unfold Value.requireText at h
  split at h
  · cases h
  · cases h
    exact within_typeMismatch .string v

theorem within_evaluateCount {b : Bounds} (h : b.evaluateCount v = .error cause) :
    cause.Within v.texts := by
  unfold Bounds.evaluateCount at h
  split at h
  · cases h
    exact within_typeMismatch .collection v
  · cases h

theorem within_negate (h : Calculation.negate v = .error cause) : cause.Within v.texts := by
  unfold Calculation.negate at h
  split at h
  · cases h
  split at h
  · cases h
  · cases h
    exact within_typeMismatch .boolOrNumber v

theorem within_unparsable {input target : String} (hinput : BreaksWithin input given)
    (htarget : BreaksWithin target given) : (Cause.unparsable input target).Within given := by
  intro text htext
  rcases List.mem_cons.mp htext with rfl | htext
  · exact hinput
  · rw [List.mem_singleton.mp htext]
    exact htarget

theorem within_double {x : Option Binary64} (h : Calculation.double x v = .error cause) :
    cause.Within v.texts := by
  unfold Calculation.double at h
  split at h
  · cases h
  split at h
  · cases h
  · cases h
    exact within_unparsable v.breaksWithin_display (SingleLine.breaksWithin (by decide) _)

theorem within_extreme {wanted : Ordering} {best : Value} {items : List Value}
    (hitems : ∀ item ∈ best :: items, kindTexts item.type? ⊆ given)
    (h : Lookup.extreme wanted best items = .error cause) : cause.Within given := by
  induction items generalizing best with
  | nil => cases h
  | cons item rest ih =>
    obtain ⟨hbest, hitem, hrest⟩ := List.forall_mem_cons.mp hitems |>.imp_right
      List.forall_mem_cons.mp
    unfold Lookup.extreme at h
    split at h
    · cases h
      exact Cause.within_of_subset (List.append_subset.mpr ⟨hitem, hbest⟩)
    · -- The better one of the two goes on, and either names its type within the texts.
      refine ih (List.forall_mem_cons.mpr ⟨?_, hrest⟩) h
      split
      · exact hitem
      · exact hbest

theorem within_select {operation : LookupOperation} {items : List Value}
    (hitems : ∀ item ∈ items, kindTexts item.type? ⊆ given)
    (h : Lookup.select operation items = .error cause) : cause.Within given := by
  unfold Lookup.select at h
  split at h
  · cases h
  · cases h
    exact Cause.within_nothing rfl
  · cases h
  · cases h
  · exact within_extreme hitems h
  · exact within_extreme hitems h

/-- The items of a list are texts of it; the characters of a text name no enum type. -/
theorem kindTexts_of_elements {items : List Value} (h : v.elements? = some items) :
    ∀ item ∈ items, kindTexts item.type? ⊆ v.texts := by
  intro item hitem
  unfold Value.elements? at h
  split at h
  · cases h
    exact List.Subset.trans item.kindTexts_subset (Value.texts_subset_of_mem hitem)
  · cases h
    obtain ⟨c, _, rfl⟩ := List.mem_map.mp hitem
    exact List.nil_subset _
  · cases h

theorem within_lookup {l : Lookup} (h : l.evaluate v = .error cause) : cause.Within v.texts := by
  unfold Lookup.evaluate at h
  split at h
  · split at h
    · split at h
      · cases h
      · cases h
        exact Cause.within_nothing rfl
    · cases h
      exact within_typeMismatch .indexableList v
  · split at h
    · cases h
      exact within_typeMismatch .collection v
    · rename_i items hitems
      exact within_select (kindTexts_of_elements hitems) h

/-- No stage of a transform shows the text that it gets. -/
theorem texts_of_reshape {t : TextTransform} {cs : List Char} (h : t.reshape cs = .error cause) :
    cause.texts = [] := by
  unfold TextTransform.reshape at h
  split at h
  · rename_i cause' hcut
    cases h
    rcases TextTransform.cutStage_eq_error_iff.mp hcut with ⟨_, rfl⟩ | ⟨_, _, rfl⟩
    · rfl
    · rfl
  · obtain ⟨n, _, rfl⟩ := TextTransform.length_lt_of_insertStage (map_eq_error_iff.mp h)
    rfl

theorem within_transform {t : TextTransform} (h : t.evaluate v = .error cause) :
    cause.Within v.texts := by
  unfold TextTransform.evaluate at h
  split at h
  · rename_i cause' htext
    cases h
    exact within_requireText htext
  · exact Cause.within_nothing (texts_of_reshape (map_eq_error_iff.mp h))

/-- The texts of a value are among those of the arguments that it supplies. -/
theorem texts_of_mem_arguments {w : Value} (h : w ∈ Template.arguments v) : w.texts ⊆ v.texts := by
  unfold Template.arguments at h
  split at h
  · exact Value.texts_subset_of_mem h
  · rw [List.mem_singleton.mp h]
    exact List.Subset.refl _

theorem within_template {template : Option String}
    (h : Template.evaluate template v = .error cause) :
    cause.Within (template.toList ++ v.texts) := by
  unfold Template.evaluate at h
  split at h
  · cases h
    exact Cause.within_nothing rfl
  · rename_i t
    split at h
    · rename_i fault hfault
      cases h
      intro text htext
      rcases Template.quotes_expand hfault text htext with hwritten | ⟨w, hw, hkind⟩
      · intro c hc _
        exact ⟨t, List.mem_append_left _ (List.mem_singleton.mpr rfl), hwritten hc⟩
      · refine Text.breaksWithin_of_mem (List.mem_append_right _ ?_)
        exact texts_of_mem_arguments hw (w.kindTexts_subset hkind)
    · cases h

theorem texts_of_range {r : RandomRange} {s : Scope} (h : (r.evaluate v s).1 = .error cause) :
    cause.texts = [] := by
  unfold RandomRange.evaluate at h
  simp only at h
  split at h
  · cases h
    rfl
  · cases h

end Causes

section EnumTypes

/-- The texts in the parameters of an enum expression. -/
def Enumeration.texts (e : Enumeration) : List String :=
  (e.definition.map EnumType.name).toList ++ kindTexts e.enumType ++ e.typeName.toList ++
    (e.value.map Value.texts).getD []

variable {e : Enumeration} {types : Registry} {cause : Cause} {v : Value}

theorem name_mem_texts {name : String} (h : e.targetName = .ok name) : name ∈ e.texts := by
  unfold Enumeration.targetName at h
  unfold Enumeration.texts
  split at h
  · rename_i henum
    cases h
    simp [henum, kindTexts, ValueType.texts]
  · cases h
  · rename_i hname
    cases h
    simp [hname]
  · cases h

theorem within_targetName (h : e.targetName = .error cause) : cause.Within e.texts := by
  unfold Enumeration.targetName at h
  split at h
  · cases h
  · rename_i henum
    cases h
    refine Cause.within_of_subset fun text htext => ?_
    have hkind : text ∈ kindTexts e.enumType := henum ▸ htext
    simp [Enumeration.texts, hkind]
  · cases h
  · cases h
    exact Cause.within_nothing rfl

theorem within_target (h : e.target types = .error cause) : cause.Within e.texts := by
  unfold Enumeration.target at h
  split at h
  · cases h
  split at h
  · rename_i cause' hname
    cases h
    exact within_targetName hname
  · rename_i name hname
    split at h
    · cases h
    · cases h
      exact within_unparsable (Text.breaksWithin_of_mem (name_mem_texts hname))
        (SingleLine.breaksWithin (by decide) _)

/-- The enum type is called as the parameters say, whether it is found or given. -/
theorem targetName_mem_texts {t : EnumType} (h : e.target types = .ok t) : t.name ∈ e.texts := by
  unfold Enumeration.target at h
  split at h
  · rename_i definition hdefinition
    cases h
    simp [Enumeration.texts, hdefinition]
  · split at h
    · cases h
    · rename_i name hname
      split at h
      · rename_i hfound
        cases h
        rw [Registry.name_of_find? hfound]
        exact name_mem_texts hname
      · cases h

theorem texts_of_source (e : Enumeration) (v : Value) :
    (e.value.getD v).texts ⊆ e.texts ++ v.texts := by
  unfold Enumeration.texts
  cases e.value with
  | none => exact List.subset_append_right _ _
  | some w =>
    exact List.Subset.trans (List.subset_append_right _ w.texts) (List.subset_append_left _ _)

theorem within_enumeration (h : e.evaluate types v = .error cause) :
    cause.Within (e.texts ++ v.texts) := by
  unfold Enumeration.evaluate at h
  split at h
  · rename_i cause' htarget
    cases h
    exact (within_target htarget).mono (List.subset_append_left _ _)
  · rename_i target htarget
    simp only at h
    split at h
    · cases h
    · cases h
      refine within_unparsable ((Value.breaksWithin_display _).mono (texts_of_source e v)) ?_
      exact Text.breaksWithin_of_mem (List.mem_append_left _ (targetName_mem_texts htarget))

theorem within_query {q : TypeQuery} (h : q.evaluate types = .error cause) :
    cause.Within q.name.toList := by
  unfold TypeQuery.evaluate at h
  split at h
  · cases h
  · cases h
    exact Cause.within_nothing rfl
  · rename_i name _ hname
    split at h
    · cases h
    · cases h
      rw [hname]
      exact within_unparsable (Text.breaksWithin_of_mem List.mem_cons_self)
        (SingleLine.breaksWithin (by decide) _)

end EnumTypes

/-- The texts in the parameters that an error can show. -/
def Expression.texts : Expression → List String
  | .enum x => x.texts
  | .format template => template.toList
  | .typeOf q => q.name.toList
  | _ => []

/-- An expression fails for a cause that shows texts of its parameters and its input. -/
theorem within_attempt {e : Expression} {v : Value} {s : Scope} {cause : Cause}
    (h : (e.attempt v s).1 = .error cause) : cause.Within (e.texts ++ v.texts) := by
  cases e with
  | arithmetic a => exact within_requireNumber (map_eq_error_iff.mp h)
  | compare b => exact within_requireNumber (map_eq_error_iff.mp h)
  | count b => exact within_evaluateCount h
  | lookup l => exact within_lookup h
  | double x => exact within_double h
  | enum x => exact within_enumeration h
  | negate => exact within_negate h
  | percentage whole => exact within_requireNumber (map_eq_error_iff.mp h)
  | random r => exact Cause.within_nothing (texts_of_range h)
  | check c => exact within_requireText (map_eq_error_iff.mp h)
  | format template => exact within_template h
  | transform t => exact within_transform h
  | typeOf q => exact (within_query h).mono (List.subset_append_left _ _)

/-- The kinds whose errors show no text of an input or a parameter. -/
def ExpressionKind.textless : List ExpressionKind := [.arithmetic, .compare, .percentage, .random]

/-- A value that is no number is called by the name of a built-in type. -/
theorem texts_of_requireNumber {v : Value} {cause : Cause} (h : v.requireNumber = .error cause) :
    cause.texts = [] := by
  cases v with
  | int n => cases h
  | float x => cases h
  | string s => cases h
  | list items => cases h
  | enum e => cases h
  | _ =>
    cases h
    rfl

theorem texts_of_textless {e : Expression} {v : Value} {s : Scope} {cause : Cause}
    (hkind : e.kind ∈ ExpressionKind.textless) (h : (e.attempt v s).1 = .error cause) :
    cause.texts = [] := by
  cases e with
  | arithmetic a => exact texts_of_requireNumber (map_eq_error_iff.mp h)
  | compare b => exact texts_of_requireNumber (map_eq_error_iff.mp h)
  | percentage whole => exact texts_of_requireNumber (map_eq_error_iff.mp h)
  | random r => exact texts_of_range h
  | _ => simp [Expression.kind, ExpressionKind.textless] at hkind

theorem attempt_of_evaluate {e : Expression} {v : Value} {s s' : Scope} {err : EvalError}
    (h : e.evaluate v s = (.error err, s')) : (e.attempt v s).1 = .error err.cause := by
  rw [Expression.evaluate_eq, Prod.mk.injEq] at h
  cases hattempt : (e.attempt v s).1 with
  | ok x =>
    rw [hattempt] at h
    cases h.1
  | error cause =>
    rw [hattempt] at h
    cases h.1
    rfl

section Routes

/-- A value of an enum type of any name. -/
def Value.ofEnumType (name : String) : Value := .enum ⟨name, none, 0⟩

/-- An expression that fails on an input and shows the text. -/
def Shown (text : String) (e : Expression) : Prop :=
  ∃ v s s' err, e.evaluate v s = (.error err, s') ∧ text.toList <:+: err.message.toList

theorem shown_of_attempt {text : String} {e : Expression} {v : Value} {cause : Cause}
    (h : (e.attempt v (.seeded .empty 0)).1 = .error cause)
    (htext : ∃ shown ∈ cause.texts, text.toList <:+: shown.toList) : Shown text e := by
  obtain ⟨shown, hshown, hinfix⟩ := htext
  refine ⟨v, .seeded .empty 0, (e.attempt v (.seeded .empty 0)).2, ⟨e.kind, cause⟩, ?_, ?_⟩
  · rw [Expression.evaluate_eq, h]
    rfl
  · exact hinfix.trans ((EvalError.shows_message ⟨e.kind, cause⟩).occurs shown hshown)

/-- No built-in type is called by a question mark and more. -/
theorem attempt_question (text : String) (v : Value) {s : Scope} (hs : s.types = .empty) :
    ((Expression.typeOf { name := some ("?" ++ text) }).attempt v s).1 =
      .error (.unparsable ("?" ++ text) "type") := by
  have hbuiltin : ∀ name : String, name.toList.head? = some '?' →
      Registry.builtin? name = none := by
    intro name hname
    unfold Registry.builtin?
    split
    case h_12 => rfl
    all_goals exact absurd hname (by decide)
  have htrim : Text.trim ("?" ++ text).toList = '?' :: Text.trimEnd text.toList := by
    rw [String.toList_append]
    exact Text.trim_append_cons rfl [] text.toList
  have hhead : (String.ofList (Text.trim ("?" ++ text).toList)).toList.head? = some '?' := by
    rw [String.toList_ofList, htrim]
    rfl
  simp only [Expression.attempt, TypeQuery.evaluate, Value.typeIn?, Registry.resolve?,
    hbuiltin _ hhead, hs]
  rfl

/-- A template that asks for a number. -/
def numberFormat : String := "\x7b0:N\x7d"

theorem evaluate_numberFormat (text : String) :
    Template.evaluate (some numberFormat) (.ofEnumType text) =
      .error (.malformedTemplate (.numberRequired "N" (some (.enum text)))) := by
  have hexpand : Template.expand [.ofEnumType text] ['\x7b', '0', ':', 'N', '\x7d'] =
      .error (.numberRequired "N" (some (.enum text))) := by
    rw [Template.expand]
    · rfl
    · intro rest hrest
      cases hrest
  have htemplate : numberFormat.toList = ['\x7b', '0', ':', 'N', '\x7d'] := rfl
  have harguments : Template.arguments (.ofEnumType text) = [.ofEnumType text] := rfl
  simp only [Template.evaluate, htemplate, harguments, hexpand]

theorem exists_shown {kind : ExpressionKind} (hkind : kind ∉ ExpressionKind.textless)
    (text : String) : ∃ e : Expression, e.kind = kind ∧ Shown text e := by
  -- Where another type is demanded, the error names the type of what is given.
  have htyped : ∀ {e : Expression} {demand : Demand},
      (e.attempt (.ofEnumType text) (.seeded .empty 0)).1 =
        .error (.typeMismatch demand (some (.enum text))) → Shown text e := fun h =>
    shown_of_attempt h ⟨text, List.mem_cons_self, List.infix_rfl⟩
  cases kind with
  | arithmetic => exact absurd (by decide) hkind
  | compare => exact absurd (by decide) hkind
  | percentage => exact absurd (by decide) hkind
  | random => exact absurd (by decide) hkind
  | count => exact ⟨.count {}, rfl, htyped rfl⟩
  | lookup => exact ⟨.lookup {}, rfl, htyped rfl⟩
  | negate => exact ⟨.negate, rfl, htyped rfl⟩
  | check => exact ⟨.check {}, rfl, htyped rfl⟩
  | transform => exact ⟨.transform {}, rfl, htyped rfl⟩
  | double =>
    refine ⟨.double none, rfl, shown_of_attempt (v := .type (.enum text)) rfl ?_⟩
    refine ⟨_, List.mem_cons_self, ?_⟩
    rw [String.toList_ofList]
    exact List.infix_rfl
  | enum =>
    refine ⟨.enum { typeName := some text }, rfl, shown_of_attempt (v := .null) rfl ?_⟩
    exact ⟨text, List.mem_cons_self, List.infix_rfl⟩
  | format =>
    refine ⟨.format (some numberFormat), rfl,
      shown_of_attempt (v := .ofEnumType text) (evaluate_numberFormat text) ?_⟩
    exact ⟨text, List.mem_cons_of_mem _ List.mem_cons_self, List.infix_rfl⟩
  | typeOf =>
    refine ⟨.typeOf { name := some ("?" ++ text) }, rfl,
      shown_of_attempt (attempt_question text .null rfl) ?_⟩
    refine ⟨"?" ++ text, List.mem_cons_self, ?_⟩
    rw [String.toList_append]
    exact (List.suffix_append _ _).isInfix

end Routes

/-- The message of an error is of one line exactly if the texts of its cause are,
each of which stands in it as it is. These are texts of the parameters and the
input; only four kinds of expression show none, and every other kind any text. -/
theorem evaluate_error_lines {e : Expression} {v : Value} {s s' : Scope} {err : EvalError}
    (h : e.evaluate v s = (.error err, s')) :
    (SingleLine err.message ↔ ∀ text ∈ err.cause.texts, SingleLine text) ∧
    (∀ text ∈ err.cause.texts, text.toList <:+: err.message.toList) ∧
    BreaksWithin err.message (e.texts ++ v.texts) ∧
    (e.kind ∈ ExpressionKind.textless → SingleLine err.message) ∧
    (e.kind ∉ ExpressionKind.textless →
      ∀ text : String, ∃ other : Expression, other.kind = e.kind ∧ Shown text other) := by
  have hattempt := attempt_of_evaluate h
  have hshows := err.shows_message
  refine ⟨hshows.singleLine_iff, hshows.occurs, hshows.breaks.trans (within_attempt hattempt),
    fun hkind => ?_, exists_shown⟩
  rw [hshows.singleLine_iff, texts_of_textless hkind hattempt]
  exact List.forall_mem_nil _

/-- An enum type with one member, to which a text of two lines is converted. -/
def paint : Enumeration :=
  { definition := some { name := "Color", members := [("Red", 0)], flags := false } }

/-- The message continues on a second line with the rest of the input. -/
theorem evaluate_paint_twoLines :
    (Expression.enum paint).evaluate (.string "Red\nGreen") (.seeded .empty 0) =
      (.error ⟨.enum, .unparsable "Red\nGreen" "Color"⟩, .seeded .empty 0) ∧
    EvalError.message ⟨.enum, .unparsable "Red\nGreen" "Color"⟩ =
      "enum: cannot parse 'Red\nGreen' as Color" ∧
    ¬ ∀ e v s err s', Expression.evaluate e v s = (.error err, s') → SingleLine err.message := by
  have hfails : (Expression.enum paint).evaluate (.string "Red\nGreen") (.seeded .empty 0) =
      (.error ⟨.enum, .unparsable "Red\nGreen" "Color"⟩, .seeded .empty 0) := rfl
  refine ⟨hfails, by simp [EvalError.message, ExpressionKind.name], fun h => ?_⟩
  exact absurd (h _ _ _ _ _ hfails) (by decide)

/-- The same input with a blank in place of the line break. -/
theorem evaluate_paint_oneLine :
    (Expression.enum paint).evaluate (.string "Red Green") (.seeded .empty 0) =
      (.error ⟨.enum, .unparsable "Red Green" "Color"⟩, .seeded .empty 0) ∧
    SingleLine (EvalError.message ⟨.enum, .unparsable "Red Green" "Color"⟩) := by
  have hfails : (Expression.enum paint).evaluate (.string "Red Green") (.seeded .empty 0) =
      (.error ⟨.enum, .unparsable "Red Green" "Color"⟩, .seeded .empty 0) := rfl
  refine ⟨hfails, (evaluate_error_lines hfails).1.mpr ?_⟩
  intro text htext
  rcases List.mem_cons.mp htext with rfl | htext
  · decide
  · obtain rfl := List.mem_singleton.mp htext
    decide

end ConversionRules
