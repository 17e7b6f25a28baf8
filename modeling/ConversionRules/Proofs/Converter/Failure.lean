import Mathlib.Logic.ExistsUnique
import ConversionRules.Proofs.Converter.FirstMatch
import ConversionRules.Proofs.Expression.Blame

/-!
Where a conversion fails. An error comes from one expression, a condition or an
output of the first rule that does not decline the value, and everything asked
or applied before it has succeeded. The error tells the kind of this expression
and a cause of this kind. All places in which a kind fails carry its own name,
which evaluation therefore adds in one place; which causes are those of a kind
is proved place by place.
-/
namespace ConversionRules

/-- Neither a literal nor a type fails, and an expression only for its own
kind: because it may not stand in a condition, or in its evaluation. -/
def EvalError.BlamedOn (e : EvalError) (x : Expression) : Prop :=
  e.kind = x.kind ∧
    ((x.isCondition = false ∧ e.cause = .notACondition) ∨ x.kind ∈ e.cause.kinds)

section Steps

variable {v : Value} {s s' : Scope} {e : EvalError}

theorem Expression.blamedOn_of_evaluate {x : Expression} (h : x.evaluate v s = (.error e, s')) :
    e.BlamedOn x := by
  have hcauses := failsAs_attempt x v s
  unfold Expression.evaluate at h
  split at h
  · cases h
  · rename_i cause s'' hattempt
    cases h
    rw [hattempt] at hcauses
    exact ⟨rfl, Or.inr (hcauses cause rfl)⟩

theorem Condition.blamedOn_of_check {c : Condition} (h : c.check v s = (.error e, s')) :
    ∃ x, c = .expression x ∧ e.BlamedOn x := by
  cases c with
  | literal y => cases h
  | type t => cases h
  | expression x =>
    refine ⟨x, rfl, ?_⟩
    simp only [Condition.check] at h
    split at h
    · split at h
      · cases h
      · rename_i err s'' heval
        cases h
        exact Expression.blamedOn_of_evaluate heval
    · rename_i hgate
      cases h
      exact ⟨rfl, Or.inl ⟨Bool.eq_false_iff.mpr hgate, rfl⟩⟩

theorem Output.blamedOn_of_apply {o : Output} (h : o.apply v s = (.error e, s')) :
    ∃ x, o = .expression x ∧ e.BlamedOn x := by
  cases o with
  | literal y => cases h
  | expression x => exact ⟨x, rfl, Expression.blamedOn_of_evaluate h⟩

/-- Conditions fail at the first one that does not hold, if it fails. -/
theorem Condition.checkAll_eq_error_iff (conditions : List Condition) :
    Condition.checkAll conditions v s = (.error e, s') ↔
      ∃ k c, conditions[k]? = some c ∧
        (∀ b ∈ conditions.take k, b.check v s = (.ok true, s)) ∧
        c.check v s = (.error e, s') := by
  induction conditions with
  | nil => simp [Condition.checkAll]
  | cons first rest ih =>
    have hscope : first.check v s = ((first.check v s).1, s) :=
      Prod.ext rfl (Condition.check_scope first v s)
    rw [Condition.checkAll]
    constructor
    · intro h
      split at h
      · rename_i s'' hfirst
        obtain rfl : s = s'' := congrArg Prod.snd (hscope.symm.trans hfirst)
        obtain ⟨k, c, hk, hheld, hc⟩ := ih.mp h
        refine ⟨k + 1, c, hk, ?_, hc⟩
        rw [List.take_succ_cons]
        exact List.forall_mem_cons.mpr ⟨hfirst, hheld⟩
      · cases h
      · rename_i err s'' hfirst
        cases h
        exact ⟨0, first, rfl, fun b hb => absurd hb List.not_mem_nil, hfirst⟩
    · rintro ⟨k, c, hk, hheld, hc⟩
      cases k with
      | zero =>
        obtain rfl : first = c := Option.some.inj hk
        simp only [hc]
      | succ k =>
        rw [List.take_succ_cons] at hheld
        obtain ⟨hfirst, hrest⟩ := List.forall_mem_cons.mp hheld
        simp only [hfirst]
        exact ih.mpr ⟨k, c, hk, hrest, hc⟩

/-- Outputs fail at the first one that does, on what the ones before it gave. -/
theorem Output.applyAll_eq_error_iff (outputs : List Output) :
    Output.applyAll outputs v s = (.error e, s') ↔
      ∃ k o y t, outputs[k]? = some o ∧
        Output.applyAll (outputs.take k) v s = (.ok y, t) ∧ o.apply y t = (.error e, s') := by
  induction outputs generalizing v s with
  | nil => simp [Output.applyAll]
  | cons first rest ih =>
    rw [Output.applyAll]
    constructor
    · intro h
      split at h
      · rename_i y t hfirst
        obtain ⟨k, o, y', t', hk, hbefore, ho⟩ := ih.mp h
        refine ⟨k + 1, o, y', t', hk, ?_, ho⟩
        rw [List.take_succ_cons, Output.applyAll, hfirst]
        exact hbefore
      · rename_i err t hfirst
        cases h
        exact ⟨0, first, v, s, rfl, rfl, hfirst⟩
    · rintro ⟨k, o, y, t, hk, hbefore, ho⟩
      cases k with
      | zero =>
        obtain rfl : first = o := Option.some.inj hk
        cases hbefore
        simp only [ho]
      | succ k =>
        rw [List.take_succ_cons, Output.applyAll] at hbefore
        split at hbefore
        · exact ih.mpr ⟨k, o, y, t, hk, hbefore, ho⟩
        · cases hbefore

end Steps

/-- What counts of a single place and a list: the single one if it is set, else the list. -/
inductive Effective {α : Type} : Option α → List α → List α → Prop
  | single (a : α) (listed : List α) : Effective (some a) listed [a]
  | listed (listed : List α) : Effective none listed listed

theorem Effective.unique {α : Type} {single : Option α} {listed items others : List α}
    (h : Effective single listed items) (h' : Effective single listed others) : items = others := by
  cases h with
  | single a listed =>
    cases h'
    rfl
  | listed listed =>
    cases h'
    rfl

theorem effective_activeConditions (r : Rule) :
    Effective r.condition r.conditions r.activeConditions := by
  unfold Rule.activeConditions
  cases r.condition with
  | none => exact .listed r.conditions
  | some c => exact .single c r.conditions

theorem effective_activeOutputs (r : Rule) : Effective r.output r.outputs r.activeOutputs := by
  unfold Rule.activeOutputs
  cases r.output with
  | none => exact .listed r.outputs
  | some o => exact .single o r.outputs

/-- A conversion comes to an expression of the rule at an index, and there to an
error: it is a condition of the rule and the ones before it have held, or the
rule applies, it is an output, and the ones before it have been applied. A
single condition or output takes the place of the list. -/
inductive FailsAt (rules : List Rule) (v : Value) (s : Scope) (i : Nat) :
    Expression → EvalError → Scope → Prop
  | condition {r : Rule} {conditions : List Condition} {k : Nat} {x : Expression} {e : EvalError}
      {s' : Scope} (hr : rules[i]? = some r) (hearlier : Declined (rules.take i) v s)
      (hconditions : Effective r.condition r.conditions conditions)
      (hx : conditions[k]? = some (.expression x))
      (hheld : ∀ c ∈ conditions.take k, c.check v s = (.ok true, s))
      (hfails : Condition.check (.expression x) v s = (.error e, s')) :
      FailsAt rules v s i x e s'
  | output {r : Rule} {outputs : List Output} {k : Nat} {x : Expression} {e : EvalError}
      {y : Value} {t s' : Scope} (hr : rules[i]? = some r)
      (hearlier : Declined (rules.take i) v s) (happlies : r.check v s = (.ok true, s))
      (houtputs : Effective r.output r.outputs outputs)
      (hx : outputs[k]? = some (.expression x))
      (hbefore : Output.applyAll (outputs.take k) v s = (.ok y, t))
      (hfails : Output.apply (.expression x) y t = (.error e, s')) :
      FailsAt rules v s i x e s'

namespace FailsAt

variable {rules : List Rule} {v : Value} {s s' : Scope} {i : Nat} {x : Expression} {e : EvalError}

theorem blamedOn (h : FailsAt rules v s i x e s') : e.BlamedOn x := by
  cases h with
  | condition hr hearlier hconditions hx hheld hfails =>
    obtain ⟨y, hy, hblame⟩ := Condition.blamedOn_of_check hfails
    cases hy
    exact hblame
  | output hr hearlier happlies houtputs hx hbefore hfails =>
    exact Expression.blamedOn_of_evaluate hfails

/-- The rule is the first that does not decline. -/
theorem stops (h : FailsAt rules v s i x e s') :
    ∃ r, rules[i]? = some r ∧ Declined (rules.take i) v s ∧ r.check v s ≠ (.ok false, s) := by
  cases h with
  | condition hr hearlier hconditions hx hheld hfails =>
    obtain rfl := hconditions.unique (effective_activeConditions _)
    have hcheck := (Condition.checkAll_eq_error_iff _).mpr ⟨_, _, hx, hheld, hfails⟩
    refine ⟨_, hr, hearlier, fun hdeclines => ?_⟩
    cases hdeclines.symm.trans hcheck
  | output hr hearlier happlies houtputs hx hbefore hfails =>
    refine ⟨_, hr, hearlier, fun hdeclines => ?_⟩
    cases hdeclines.symm.trans happlies

/-- A conversion does not fail in two rules. -/
theorem index_le {j : Nat} {x' : Expression} {e' : EvalError} {t : Scope}
    (h : FailsAt rules v s i x e s') (h' : FailsAt rules v s j x' e' t) : i ≤ j := by
  obtain ⟨_, _, hearlier, _⟩ := h.stops
  obtain ⟨r, hr, _, hstops⟩ := h'.stops
  refine Nat.le_of_not_lt fun hlt => hstops (hearlier r ?_)
  exact List.mem_of_getElem? ((List.getElem?_take_of_lt hlt).trans hr)

end FailsAt

/-- How a conversion ends in an error: a check fails or, when a rule applies, its outputs do. -/
theorem FirstMatch.error_cases {rules : List Rule} {v : Value} {s s' : Scope} {e : EvalError}
    (h : FirstMatch v s rules (.error e, s')) :
    ∃ before r after, rules = before ++ r :: after ∧ Declined before v s ∧
      (r.check v s = (.error e, s') ∨
        r.check v s = (.ok true, s) ∧ r.convert v s = (.error e, s')) := by
  generalize hout : ((.error e, s') : Except EvalError Report × Scope) = outcome at h
  cases h with
  | passed hrules => cases hout
  | @failed before after r err hbefore hr =>
    cases hout
    exact ⟨before, r, after, rfl, hbefore, Or.inl hr⟩
  | @applied before after r hbefore hr =>
    cases hconvert : r.convert v s with
    | mk x s'' =>
      rw [hconvert] at hout
      cases x with
      | ok x => cases hout
      | error err =>
        cases hout
        exact ⟨before, r, after, rfl, hbefore, Or.inr ⟨hr, hconvert⟩⟩

namespace Converter

variable {rules : List Rule} {v : Value} {s s' : Scope} {e : EvalError}

theorem exists_failsAt (h : convert ⟨rules⟩ v s = (.error e, s')) :
    ∃ i x, FailsAt rules v s i x e s' := by
  have hmatch : FirstMatch v s rules (report ⟨rules⟩ v s) := firstMatch_report rules v s
  rw [convert_eq_report] at h
  cases hreport : report ⟨rules⟩ v s with
  | mk outcome t =>
    rw [hreport] at h hmatch
    cases outcome with
    | ok result => cases h
    | error err =>
      cases h
      obtain ⟨before, r, after, rfl, hbefore, hends⟩ := hmatch.error_cases
      have hr : (before ++ r :: after)[before.length]? = some r := by simp
      have hearlier : Declined ((before ++ r :: after).take before.length) v s := by
        rw [List.take_left]
        exact hbefore
      rcases hends with hcheck | ⟨happlies, hconvert⟩
      · obtain ⟨k, c, hk, hheld, hc⟩ := (Condition.checkAll_eq_error_iff _).mp hcheck
        obtain ⟨x, rfl, _⟩ := Condition.blamedOn_of_check hc
        have hconditions := effective_activeConditions r
        exact ⟨before.length, x, .condition hr hearlier hconditions hk hheld hc⟩
      · obtain ⟨k, o, y, t, hk, happlied, ho⟩ := (Output.applyAll_eq_error_iff _).mp hconvert
        obtain ⟨x, rfl, _⟩ := Output.blamedOn_of_apply ho
        have houtputs := effective_activeOutputs r
        exact ⟨before.length, x, .output hr hearlier happlies houtputs hk happlied ho⟩

theorem convert_of_failsAt {i : Nat} {x : Expression} (h : FailsAt rules v s i x e s') :
    convert ⟨rules⟩ v s = (.error e, s') := by
  have hsplit : ∀ r, rules[i]? = some r → rules = rules.take i ++ r :: rules.drop (i + 1) := by
    intro r hr
    obtain ⟨hlt, rfl⟩ := List.getElem?_eq_some_iff.mp hr
    rw [← List.drop_eq_getElem_cons hlt, List.take_append_drop]
  rw [convert_eq_report]
  cases h with
  | @condition r conditions k x e s' hr hearlier hconditions hx hheld hfails =>
    obtain rfl := hconditions.unique (effective_activeConditions r)
    have hcheck : r.check v s = (.error e, s') :=
      (Condition.checkAll_eq_error_iff _).mpr ⟨k, _, hx, hheld, hfails⟩
    obtain rfl : s = s' := (Rule.check_scope r v s).symm.trans (congrArg Prod.snd hcheck)
    have hmatch : FirstMatch v s (rules.take i ++ r :: rules.drop (i + 1)) _ :=
      .failed hearlier hcheck
    rw [← hsplit r hr] at hmatch
    rw [report_of_firstMatch hmatch]
    rfl
  | @output r outputs k x e y t s' hr hearlier happlies houtputs hx hbefore hfails =>
    obtain rfl := houtputs.unique (effective_activeOutputs r)
    have hconvert : r.convert v s = (.error e, s') :=
      (Output.applyAll_eq_error_iff _).mpr ⟨k, _, y, t, hx, hbefore, hfails⟩
    have hmatch : FirstMatch v s (rules.take i ++ r :: rules.drop (i + 1)) _ :=
      .applied hearlier happlies
    rw [← hsplit r hr, hconvert] at hmatch
    rw [report_of_firstMatch hmatch]
    rfl

/-- An error of a conversion comes from one rule, from the first of its
conditions that fails after those before it held or, if it applies, from the
first of its outputs that fails on what those before it gave, and carries the
kind of that expression; whatever fails so is the error of the conversion. -/
theorem convert_error_attributed (rules : List Rule) (v : Value) (s : Scope) :
    (∀ e s', convert ⟨rules⟩ v s = (.error e, s') → ∃! i, ∃ x, FailsAt rules v s i x e s') ∧
    ∀ i x e s', FailsAt rules v s i x e s' →
      convert ⟨rules⟩ v s = (.error e, s') ∧ e.BlamedOn x := by
  refine ⟨fun e s' h => ?_, fun i x e s' h => ⟨convert_of_failsAt h, h.blamedOn⟩⟩
  obtain ⟨i, x, hfails⟩ := exists_failsAt h
  refine ⟨i, ⟨x, hfails⟩, ?_⟩
  rintro j ⟨y, hfails'⟩
  exact Nat.le_antisymm (hfails'.index_le hfails) (hfails.index_le hfails')

/-- A rule for whole numbers, a rule for texts that begin with a letter, whose
single condition and output take the place of lists, and a rule for other texts,
which are replaced by the first item of an empty list. -/
def shelfRules : List Rule :=
  [{ conditions := [.type .int] },
   { condition := some (.expression (.check { startsWith := some "a" }))
     conditions := [.type .bool]
     output := some (.expression .negate)
     outputs := [.literal .null] },
   { conditions := [.type .string]
     outputs := [.literal (.list []), .expression (.lookup { operation := .first })] }]

theorem convert_shelfRules :
    convert ⟨shelfRules⟩ (.string "ab") (.seeded .empty 0) =
      (.error ⟨.negate, .typeMismatch .boolOrNumber (some .string)⟩, .seeded .empty 0) ∧
    (∃! i, ∃ x, FailsAt shelfRules (.string "ab") (.seeded .empty 0) i x
      ⟨.negate, .typeMismatch .boolOrNumber (some .string)⟩ (.seeded .empty 0)) ∧
    convert ⟨shelfRules⟩ (.string "b") (.seeded .empty 0) =
      (.error ⟨.lookup, .emptySource .first⟩, .seeded .empty 0) ∧
    (∃! i, ∃ x, FailsAt shelfRules (.string "b") (.seeded .empty 0) i x
      ⟨.lookup, .emptySource .first⟩ (.seeded .empty 0)) ∧
    FailsAt shelfRules (.bool true) (.seeded .empty 0) 1 (.check { startsWith := some "a" })
      ⟨.check, .typeMismatch .string (some .bool)⟩ (.seeded .empty 0) ∧
    convert ⟨shelfRules⟩ (.bool true) (.seeded .empty 0) =
      (.error ⟨.check, .typeMismatch .string (some .bool)⟩, .seeded .empty 0) := by
  have hnegate : convert ⟨shelfRules⟩ (.string "ab") (.seeded .empty 0) =
      (.error ⟨.negate, .typeMismatch .boolOrNumber (some .string)⟩, .seeded .empty 0) := rfl
  have hempty : convert ⟨shelfRules⟩ (.string "b") (.seeded .empty 0) =
      (.error ⟨.lookup, .emptySource .first⟩, .seeded .empty 0) := rfl
  have hearlier : Declined (shelfRules.take 1) (.bool true) (.seeded .empty 0) := by
    intro r hr
    rw [List.mem_singleton.mp hr]
    rfl
  have hcheck : FailsAt shelfRules (.bool true) (.seeded .empty 0) 1
      (.check { startsWith := some "a" }) ⟨.check, .typeMismatch .string (some .bool)⟩
      (.seeded .empty 0) :=
    .condition (k := 0) rfl hearlier (.single _ _) rfl (fun c hc => absurd hc List.not_mem_nil) rfl
  have hab := convert_error_attributed shelfRules (.string "ab") (.seeded .empty 0)
  have hb := convert_error_attributed shelfRules (.string "b") (.seeded .empty 0)
  have hbool := convert_error_attributed shelfRules (.bool true) (.seeded .empty 0)
  exact ⟨hnegate, hab.1 _ _ hnegate, hempty, hb.1 _ _ hempty, hcheck,
    (hbool.2 _ _ _ _ hcheck).1⟩

end Converter

end ConversionRules
