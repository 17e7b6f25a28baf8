import ConversionRules.Expression.Evaluation

/-!
The causes of errors of expressions. Whatever an expression is evaluated on, it
fails for its input or its parameters, never for the place in which it stands,
and every cause comes only from the kinds of expression whose business it is.
Each kind names itself at every place in which it fails. `Expression.evaluate`
adds this name to all causes at once, and what is left to prove here is that
none of them belongs to another kind.
-/
namespace ConversionRules

section Outcomes

variable {ε α β : Type} {x : Except ε α} {f : α → β}

theorem map_eq_ok_iff {b : β} : x.map f = .ok b ↔ ∃ a, x = .ok a ∧ f a = b := by
  cases x with
  | error e => simp [Except.map]
  | ok a => simp [Except.map]

theorem map_eq_error_iff {e : ε} : x.map f = .error e ↔ x = .error e := by
  cases x with
  | error e => simp [Except.map]
  | ok a => simp [Except.map]

end Outcomes

/-- The kinds of expression whose evaluation can fail for the cause. What may not
stand in a condition is refused there before it is evaluated. -/
def Cause.kinds : Cause → List ExpressionKind
  | .typeMismatch .number _ => [.arithmetic, .compare, .percentage]
  | .typeMismatch .boolOrNumber _ => [.negate]
  | .typeMismatch .collection _ => [.count, .lookup]
  | .typeMismatch .indexableList _ => [.lookup]
  | .typeMismatch .string _ => [.check, .transform]
  | .typeMismatch .enumType _ => [.enum]
  | .unparsable _ _ => [.double, .enum, .typeOf]
  | .missingConfiguration .enumType => [.enum]
  | .missingConfiguration .typeValue => [.typeOf]
  | .missingConfiguration .template => [.format]
  | .emptySource _ => [.lookup]
  | .indexOutOfRange _ _ => [.lookup, .transform]
  | .incomparableItems _ _ => [.lookup]
  | .invalidRange _ _ => [.random]
  | .malformedTemplate _ => [.format]
  | .notACondition => []

/-- An outcome that is a value, or an error for a cause that expressions of the kind can have. -/
def FailsAs {α : Type} (kind : ExpressionKind) (x : Except Cause α) : Prop :=
  ∀ cause, x = .error cause → kind ∈ cause.kinds

/-- An outcome that does not blame an expression for standing in a condition. -/
def Blameless {α : Type} (x : Except Cause α) : Prop := x ≠ .error .notACondition

namespace FailsAs

variable {α β : Type} {kind : ExpressionKind}

theorem ok (a : α) : FailsAs kind (.ok a) := fun _ h => nomatch h

theorem error {cause : Cause} (hcause : kind ∈ cause.kinds) :
    FailsAs kind (.error cause : Except Cause α) := by
  intro other h
  cases h
  exact hcause

theorem map {x : Except Cause α} (f : α → β) (hx : FailsAs kind x) :
    FailsAs kind (x.map f) := by
  cases x with
  | ok a => exact ok (f a)
  | error cause => exact error (hx cause rfl)

/-- An error that is passed on from a part. -/
theorem passed {x : Except Cause α} {cause : Cause} (hx : FailsAs kind x)
    (h : x = .error cause) : FailsAs kind (.error cause : Except Cause β) :=
  error (hx cause h)

theorem ite {p : Prop} [Decidable p] {x y : Except Cause α} (hx : FailsAs kind x)
    (hy : FailsAs kind y) : FailsAs kind (if p then x else y) := by
  split
  · exact hx
  · exact hy

theorem blameless {x : Except Cause α} (hx : FailsAs kind x) : Blameless x := by
  intro h
  cases hx _ h

end FailsAs

section Inputs

variable {kind : ExpressionKind} (v : Value)

theorem failsAs_requireNumber (hkind : kind ∈ (Cause.typeMismatch .number none).kinds) :
    FailsAs kind v.requireNumber := by
  unfold Value.requireNumber
  split
  · exact FailsAs.error hkind
  · exact FailsAs.ok _

theorem failsAs_requireText (hkind : kind ∈ (Cause.typeMismatch .string none).kinds) :
    FailsAs kind v.requireText := by
  unfold Value.requireText
  split
  · exact FailsAs.ok _
  · exact FailsAs.error hkind

end Inputs

theorem failsAs_evaluateCount (b : Bounds) (v : Value) : FailsAs .count (b.evaluateCount v) := by
  unfold Bounds.evaluateCount
  split
  · exact FailsAs.error (by simp [Cause.kinds])
  · exact FailsAs.ok _

theorem failsAs_double (x : Option Binary64) (v : Value) :
    FailsAs .double (Calculation.double x v) := by
  unfold Calculation.double
  split
  · exact FailsAs.ok _
  split
  · exact FailsAs.ok _
  · exact FailsAs.error (by simp [Cause.kinds])

theorem failsAs_negate (v : Value) : FailsAs .negate (Calculation.negate v) := by
  unfold Calculation.negate
  split
  · exact FailsAs.ok _
  split
  · exact FailsAs.ok _
  · exact FailsAs.error (by simp [Cause.kinds])

theorem failsAs_extreme (wanted : Ordering) (best : Value) (items : List Value) :
    FailsAs .lookup (Lookup.extreme wanted best items) := by
  induction items generalizing best with
  | nil => exact FailsAs.ok best
  | cons item rest ih =>
    unfold Lookup.extreme
    split
    · exact FailsAs.error (by simp [Cause.kinds])
    · exact ih _

theorem failsAs_select (operation : LookupOperation) (items : List Value) :
    FailsAs .lookup (Lookup.select operation items) := by
  unfold Lookup.select
  split
  · exact FailsAs.ok _
  · exact FailsAs.error (by simp [Cause.kinds])
  · exact FailsAs.ok _
  · exact FailsAs.ok _
  · exact failsAs_extreme _ _ _
  · exact failsAs_extreme _ _ _

theorem failsAs_lookup (l : Lookup) (v : Value) : FailsAs .lookup (l.evaluate v) := by
  unfold Lookup.evaluate
  split
  · split
    · split
      · exact FailsAs.ok _
      · exact FailsAs.error (by simp [Cause.kinds])
    · exact FailsAs.error (by simp [Cause.kinds])
  · split
    · exact FailsAs.error (by simp [Cause.kinds])
    · exact failsAs_select _ _

theorem failsAs_targetName (e : Enumeration) : FailsAs .enum e.targetName := by
  unfold Enumeration.targetName
  split
  · exact FailsAs.ok _
  · exact FailsAs.error (by simp [Cause.kinds])
  · exact FailsAs.ok _
  · exact FailsAs.error (by simp [Cause.kinds])

theorem failsAs_target (e : Enumeration) (types : Registry) : FailsAs .enum (e.target types) := by
  unfold Enumeration.target
  split
  · exact FailsAs.ok _
  split
  · rename_i cause hname
    exact (failsAs_targetName e).passed hname
  split
  · exact FailsAs.ok _
  · exact FailsAs.error (by simp [Cause.kinds])

theorem failsAs_enumeration (e : Enumeration) (types : Registry) (v : Value) :
    FailsAs .enum (e.evaluate types v) := by
  unfold Enumeration.evaluate
  split
  · rename_i cause htarget
    exact (failsAs_target e types).passed htarget
  · simp only
    split
    · exact FailsAs.ok _
    · exact FailsAs.error (by simp [Cause.kinds])

theorem failsAs_query (q : TypeQuery) (types : Registry) : FailsAs .typeOf (q.evaluate types) := by
  unfold TypeQuery.evaluate
  split
  · exact FailsAs.ok _
  · exact FailsAs.error (by simp [Cause.kinds])
  split
  · exact FailsAs.ok _
  · exact FailsAs.error (by simp [Cause.kinds])

theorem failsAs_cutStage (start stop : Option UInt64) (cs : List Char) :
    FailsAs .transform (TextTransform.cutStage start stop cs) := by
  have hcut : ∀ first last : Nat, FailsAs .transform
      (if cs.length < last then .error (.indexOutOfRange last cs.length)
      else if last < first then .error (.indexOutOfRange first cs.length)
      else .ok ((cs.take last).drop first)) := by
    intro first last
    exact FailsAs.ite (FailsAs.error (by simp [Cause.kinds]))
      (FailsAs.ite (FailsAs.error (by simp [Cause.kinds])) (FailsAs.ok _))
  exact FailsAs.ite (FailsAs.ok cs) (hcut _ _)

theorem failsAs_insertStage (text : Option String) (index : Option UInt64) (cs : List Char) :
    FailsAs .transform (TextTransform.insertStage text index cs) := by
  cases text with
  | none => exact FailsAs.ok cs
  | some t => exact FailsAs.ite (FailsAs.error (by simp [Cause.kinds])) (FailsAs.ok _)

theorem failsAs_reshape (t : TextTransform) (cs : List Char) :
    FailsAs .transform (t.reshape cs) := by
  unfold TextTransform.reshape
  split
  · rename_i cause hcut
    exact (failsAs_cutStage _ _ _).passed hcut
  · exact (failsAs_insertStage _ _ _).map _

theorem failsAs_transform (t : TextTransform) (v : Value) :
    FailsAs .transform (t.evaluate v) := by
  unfold TextTransform.evaluate
  split
  · rename_i cause htext
    exact (failsAs_requireText v (by decide)).passed htext
  · exact (failsAs_reshape t _).map _

theorem failsAs_template (template : Option String) (v : Value) :
    FailsAs .format (Template.evaluate template v) := by
  unfold Template.evaluate
  split
  · exact FailsAs.error (by simp [Cause.kinds])
  split
  · exact FailsAs.error (by simp [Cause.kinds])
  · exact FailsAs.ok _

theorem failsAs_range (r : RandomRange) (v : Value) (s : Scope) :
    FailsAs .random (r.evaluate v s).1 := by
  unfold RandomRange.evaluate
  simp only
  split
  · exact FailsAs.error (by simp [Cause.kinds])
  · exact FailsAs.ok _

/-- An expression fails only for causes of its own kind. -/
theorem failsAs_attempt (e : Expression) (v : Value) (s : Scope) :
    FailsAs e.kind (e.attempt v s).1 := by
  cases e with
  | arithmetic a => exact (failsAs_requireNumber v (by simp [Cause.kinds, Expression.kind])).map _
  | compare b => exact (failsAs_requireNumber v (by simp [Cause.kinds, Expression.kind])).map _
  | count b => exact failsAs_evaluateCount b v
  | lookup l => exact failsAs_lookup l v
  | double x => exact failsAs_double x v
  | enum x => exact failsAs_enumeration x s.types v
  | negate => exact failsAs_negate v
  | percentage whole =>
    exact (failsAs_requireNumber v (by simp [Cause.kinds, Expression.kind])).map _
  | random r => exact failsAs_range r v s
  | check c => exact (failsAs_requireText v (by simp [Cause.kinds, Expression.kind])).map _
  | format template => exact failsAs_template template v
  | transform t => exact failsAs_transform t v
  | typeOf q => exact failsAs_query q s.types

/-- Only the check of a condition blames an expression, not its evaluation. -/
theorem blameless_attempt (e : Expression) (v : Value) (s : Scope) :
    Blameless (e.attempt v s).1 :=
  (failsAs_attempt e v s).blameless

end ConversionRules
