import ConversionRules.Proofs.Converter.FirstMatch

/-!
What a conversion takes from its scope and what it leaves there. The choice of
a rule looks at nothing in the scope and changes nothing. The outputs of the
chosen rule keep the types, and they move the generator exactly if they come to
a random number whose bounds are in order.
-/
namespace ConversionRules

namespace Generator

/-- An attempt takes words until one is accepted, at least the first. -/
theorem position_attempt_lt (range n : Nat) (g : Generator) :
    g.position < (attempt range (n + 1) g).2.position := by
  have hnext : g.position < g.next.2.position := Nat.lt_succ_self g.position
  induction n generalizing g with
  | zero =>
    unfold attempt
    simp only [attempt]
    split <;> exact hnext
  | succ n ih =>
    unfold attempt
    simp only
    split
    · exact hnext
    · exact Nat.lt_trans hnext (ih g.next.2 (Nat.lt_succ_self _))

/-- Every draw takes a word, also one between equal bounds. -/
theorem position_draw_lt (lower upper : Int64) (g : Generator) :
    g.position < (draw lower upper g).2.position := by
  obtain ⟨n, hn⟩ : ∃ n, period = n + 1 := ⟨period - 1, by decide⟩
  unfold draw
  simp only
  split
  · exact Nat.lt_succ_self g.position
  · rw [hn]
    exact position_attempt_lt _ n g

end Generator

section Choice

variable (v : Value) (s s' : Scope)

/-- An expression that answers yes or no takes its answer from the value alone. -/
theorem Expression.attempt_outcome {e : Expression} (he : e.isCondition = true) :
    (e.attempt v s).1 = (e.attempt v s').1 := by
  cases e with
  | compare b => rfl
  | count b => rfl
  | check c => rfl
  | _ => cases he

theorem Condition.check_expression {e : Expression} (he : e.isCondition = true) :
    (Condition.expression e).check v s =
      ((e.evaluate v s).1.map (· == .bool true), (e.evaluate v s).2) := by
  cases heval : e.evaluate v s with
  | mk outcome s' =>
    simp only [Condition.check, he, heval, if_true]
    cases outcome with
    | error err => rfl
    | ok x => rfl

theorem Condition.check_outcome (c : Condition) : (c.check v s).1 = (c.check v s').1 := by
  cases c with
  | literal x => rfl
  | type t => rfl
  | expression e =>
    by_cases he : e.isCondition = true
    · rw [Condition.check_expression v s he, Condition.check_expression v s' he,
        Expression.evaluate_eq, Expression.evaluate_eq, Expression.attempt_outcome v s s' he]
    · simp only [Condition.check, he, Bool.false_eq_true, if_false]

theorem Condition.checkAll_outcome (conditions : List Condition) :
    (Condition.checkAll conditions v s).1 = (Condition.checkAll conditions v s').1 := by
  induction conditions with
  | nil => rfl
  | cons c rest ih =>
    have hs : c.check v s = ((c.check v s).1, s) := Prod.ext rfl (c.check_scope v s)
    have hs' : c.check v s' = ((c.check v s).1, s') :=
      Prod.ext (c.check_outcome v s' s) (c.check_scope v s')
    rw [Condition.checkAll, Condition.checkAll, hs, hs']
    cases (c.check v s).1 with
    | error err => rfl
    | ok holds =>
      cases holds with
      | false => rfl
      | true => exact ih

theorem Rule.check_outcome (r : Rule) : (r.check v s).1 = (r.check v s').1 :=
  Condition.checkAll_outcome v s s' r.activeConditions

theorem Converter.searchFrom_scope (index : Nat) (rules : List Rule) :
    (searchFrom index rules v s).2 = s := by
  induction rules generalizing index with
  | nil => rfl
  | cons r rest ih =>
    have hs : r.check v s = ((r.check v s).1, s) := Rule.check_eq rfl
    rw [searchFrom, hs]
    cases (r.check v s).1 with
    | error err => rfl
    | ok applies =>
      cases applies with
      | true => rfl
      | false => exact ih (index + 1)

theorem Converter.searchFrom_outcome (index : Nat) (rules : List Rule) :
    (searchFrom index rules v s).1 = (searchFrom index rules v s').1 := by
  induction rules generalizing index with
  | nil => rfl
  | cons r rest ih =>
    have hs : r.check v s = ((r.check v s).1, s) := Rule.check_eq rfl
    have hs' : r.check v s' = ((r.check v s).1, s') := Rule.check_eq (r.check_outcome v s' s)
    rw [searchFrom, searchFrom, hs, hs']
    cases (r.check v s).1 with
    | error err => rfl
    | ok applies =>
      cases applies with
      | true => rfl
      | false => exact ih (index + 1)

/-- The search for a rule, in the scope in which it is made. -/
theorem Converter.search_eq (rules : List Rule) :
    search rules v s = ((search rules v s').1, s) :=
  Prod.ext (searchFrom_outcome v s s' 0 rules) (searchFrom_scope v s 0 rules)

end Choice

/-- The output is a random number whose bounds for the value are in order. -/
def Output.Draws (o : Output) (v : Value) : Prop :=
  ∃ range : RandomRange, o = .expression (.random range) ∧
    (range.bounds v).1 ≤ (range.bounds v).2

/-- The outputs come to one that draws: those before it give the value that it
is applied to. -/
def Output.DrawsAmong (outputs : List Output) (v : Value) (s : Scope) : Prop :=
  ∃ before o after x s', outputs = before ++ o :: after ∧
    Output.applyAll before v s = (.ok x, s') ∧ o.Draws x

section Outputs

variable {v : Value} {s : Scope}

theorem RandomRange.evaluate_eq_error {r : RandomRange} (h : ¬ (r.bounds v).1 ≤ (r.bounds v).2) :
    r.evaluate v s = (.error (.invalidRange (r.bounds v).1 (r.bounds v).2), s) :=
  if_pos (Int64.not_le.mp h)

theorem RandomRange.evaluate_eq_ok {r : RandomRange} (h : (r.bounds v).1 ≤ (r.bounds v).2) :
    r.evaluate v s =
      (.ok (.int (s.generator.draw (r.bounds v).1 (r.bounds v).2).1),
        { s with generator := (s.generator.draw (r.bounds v).1 (r.bounds v).2).2 }) :=
  if_neg (Int64.not_lt.mpr h)

theorem Output.apply_of_not_draws {o : Output} (h : ¬ o.Draws v) : (o.apply v s).2 = s := by
  cases o with
  | literal x => rfl
  | expression e =>
    by_cases he : e.kind = .random
    · cases e with
      | random r =>
        have hbounds : ¬ (r.bounds v).1 ≤ (r.bounds v).2 := fun hle => h ⟨r, rfl, hle⟩
        rw [Output.apply, Expression.evaluate_eq, Expression.attempt,
          RandomRange.evaluate_eq_error hbounds]
      | _ => cases he
    · exact Expression.evaluate_scope he v s

theorem Output.apply_of_draws {o : Output} (h : o.Draws v) :
    (o.apply v s).2.types = s.types ∧
      s.generator.position < (o.apply v s).2.generator.position := by
  obtain ⟨r, rfl, hbounds⟩ := h
  rw [Output.apply, Expression.evaluate_eq, Expression.attempt, RandomRange.evaluate_eq_ok hbounds]
  exact ⟨rfl, Generator.position_draw_lt _ _ _⟩

theorem Output.applyAll_append (before after : List Output) (v : Value) (s : Scope) :
    Output.applyAll (before ++ after) v s =
      match Output.applyAll before v s with
      | (.ok x, s') => Output.applyAll after x s'
      | (.error err, s') => (.error err, s') := by
  induction before generalizing v s with
  | nil => rfl
  | cons o rest ih =>
    rw [List.cons_append, Output.applyAll, Output.applyAll]
    cases o.apply v s with
    | mk outcome s' =>
      cases outcome with
      | error err => rfl
      | ok x => exact ih x s'

/-- What one output does to the scope: it keeps the types and never turns the
generator back. -/
theorem Output.apply_types_and_position (o : Output) (v : Value) (s : Scope) :
    (o.apply v s).2.types = s.types ∧
      s.generator.position ≤ (o.apply v s).2.generator.position := by
  by_cases h : o.Draws v
  · obtain ⟨htypes, hposition⟩ := Output.apply_of_draws (s := s) h
    exact ⟨htypes, Nat.le_of_lt hposition⟩
  · rw [Output.apply_of_not_draws h]
    exact ⟨rfl, Nat.le_refl _⟩

theorem Output.applyAll_types_and_position (outputs : List Output) (v : Value) (s : Scope) :
    (Output.applyAll outputs v s).2.types = s.types ∧
      s.generator.position ≤ (Output.applyAll outputs v s).2.generator.position := by
  induction outputs generalizing v s with
  | nil => exact ⟨rfl, Nat.le_refl _⟩
  | cons o rest ih =>
    have hfirst := Output.apply_types_and_position o v s
    rw [Output.applyAll]
    cases happly : o.apply v s with
    | mk outcome s' =>
      rw [happly] at hfirst
      cases outcome with
      | error err => exact hfirst
      | ok x =>
        obtain ⟨htypes, hposition⟩ := ih x s'
        exact ⟨htypes.trans hfirst.1, Nat.le_trans hfirst.2 hposition⟩

theorem Output.applyAll_of_not_drawsAmong {outputs : List Output}
    (h : ¬ Output.DrawsAmong outputs v s) : (Output.applyAll outputs v s).2 = s := by
  induction outputs generalizing v s with
  | nil => rfl
  | cons o rest ih =>
    have hfirst : ¬ o.Draws v := fun ho => h ⟨[], o, rest, v, s, rfl, rfl, ho⟩
    have hscope : (o.apply v s).2 = s := Output.apply_of_not_draws hfirst
    rw [Output.applyAll]
    cases happly : o.apply v s with
    | mk outcome s' =>
      rw [happly] at hscope
      obtain rfl : s' = s := hscope
      cases outcome with
      | error err => rfl
      | ok x =>
        refine ih fun hrest => h ?_
        obtain ⟨before, o', after, y, s'', rfl, hbefore, ho'⟩ := hrest
        refine ⟨o :: before, o', after, y, s'', rfl, ?_, ho'⟩
        rw [Output.applyAll, happly]
        exact hbefore

theorem Output.position_lt_of_drawsAmong {outputs : List Output}
    (h : Output.DrawsAmong outputs v s) :
    s.generator.position < (Output.applyAll outputs v s).2.generator.position := by
  obtain ⟨before, o, after, x, s', rfl, hbefore, ho⟩ := h
  have hreached := (Output.applyAll_types_and_position before v s).2
  have hdraw := (Output.apply_of_draws (s := s') ho).2
  rw [Output.applyAll_append]
  rw [hbefore] at hreached ⊢
  simp only
  rw [Output.applyAll]
  cases happly : o.apply x s' with
  | mk outcome s'' =>
    rw [happly] at hdraw
    cases outcome with
    | error err => exact Nat.lt_of_le_of_lt hreached hdraw
    | ok y =>
      have hrest := (Output.applyAll_types_and_position after y s'').2
      exact Nat.lt_of_lt_of_le (Nat.lt_of_le_of_lt hreached hdraw) hrest

/-- The generator is moved exactly by a draw. -/
theorem Output.generator_applyAll_ne_iff (outputs : List Output) (v : Value) (s : Scope) :
    (Output.applyAll outputs v s).2.generator ≠ s.generator ↔ Output.DrawsAmong outputs v s := by
  constructor
  · intro hmoved
    refine Classical.byContradiction fun h => hmoved ?_
    rw [Output.applyAll_of_not_drawsAmong h]
  · intro h heq
    have hlt := Output.position_lt_of_drawsAmong h
    rw [heq] at hlt
    exact Nat.lt_irrefl _ hlt

end Outputs

namespace Converter

/-- A conversion is decided by the search, after which the scope is as before. -/
theorem convert_eq (rules : List Rule) (v : Value) (s : Scope) :
    convert ⟨rules⟩ v s =
      match (search rules v s).1 with
      | .ok (some (_, r)) => r.convert v s
      | .ok none => (.ok v, s)
      | .error err => (.error err, s) := by
  have hsearch := search_eq v s s rules
  rw [convert, hsearch]
  cases (search rules v s).1 with
  | error err => rfl
  | ok found =>
    cases found with
    | none => rfl
    | some found => rfl

/-- Choosing a rule neither looks at the scope nor changes it. A conversion
keeps the types, and it moves the generator exactly if the outputs of the
chosen rule come to a random number whose bounds are in order. -/
theorem search_and_convert_scope :
    (∀ (r : Rule) v s, (r.check v s).2 = s) ∧
    (∀ rules v s s', (search rules v s).2 = s ∧
      (search rules v s).1 = (search rules v s').1) ∧
    ∀ rules v s, (convert ⟨rules⟩ v s).2.types = s.types ∧
      ((convert ⟨rules⟩ v s).2.generator ≠ s.generator ↔
        ∃ i r, (search rules v s).1 = .ok (some (i, r)) ∧
          Output.DrawsAmong r.activeOutputs v s) := by
  refine ⟨Rule.check_scope, fun rules v s s' => ?_, fun rules v s => ?_⟩
  · rw [search_eq v s s' rules]
    exact ⟨rfl, rfl⟩
  · rw [convert_eq]
    cases hsearch : (search rules v s).1 with
    | error err => simp
    | ok found =>
      cases found with
      | none => simp
      | some found =>
        obtain ⟨i, r⟩ := found
        refine ⟨(Output.applyAll_types_and_position r.activeOutputs v s).1, ?_⟩
        simp only
        rw [Rule.convert, Output.generator_applyAll_ne_iff]
        constructor
        · intro h
          exact ⟨i, r, rfl, h⟩
        · rintro ⟨i', r', heq, h⟩
          cases heq
          exact h

/-- A draw in the place of a condition is refused before it is made. -/
example :
    Rule.check { condition := some (.expression (.random {})) } .null (.seeded .empty 0) =
      (.error ⟨.random, .notACondition⟩, .seeded .empty 0) := by
  rfl

end Converter

end ConversionRules
