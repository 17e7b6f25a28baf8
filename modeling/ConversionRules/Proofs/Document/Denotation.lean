import Mathlib.Data.List.Forall2
import ConversionRules.Proofs.Call.Expressions
import ConversionRules.Proofs.Converter.Validity

/-!
What a document denotes, said without the labels that messages use: a rule is
denoted by its own clauses alone, so it does not matter where it stands and
what stands before or after it. Every term of a document ends up in a rule, a
condition or an output, and every output comes from a term.
-/
namespace ConversionRules

/-- The expressions that a call denotes. -/
structure Call.IsExpression (types : Registry) (c : Call) (e : Expression) : Prop where
  distinct : Distinct c.args
  name : c.name = callName e.kind
  known : ∀ a ∈ c.args, a.1 ∈ parameters e.kind
  fields : Denotes types c.args e

namespace Term

variable (types : Registry)

inductive IsCondition : Term → Condition → Prop
  | literal (v : Value) : IsCondition (.literal v) (.literal v)
  | type {name : String} {t : ValueType} (h : types.resolve? name = some t) :
      IsCondition (.typeRef name) (.type t)
  | expression {name : String} {args : List (String × Argument)} {e : Expression}
      (h : (Call.mk name args).IsExpression types e) : IsCondition (.call name args) (.expression e)

inductive IsOutput : Term → Output → Prop
  | literal (v : Value) : IsOutput (.literal v) (.literal v)
  | type {name : String} {t : ValueType} (h : types.resolve? name = some t) :
      IsOutput (.typeRef name) (.literal (.type t))
  | expression {name : String} {args : List (String × Argument)} {e : Expression}
      (h : (Call.mk name args).IsExpression types e) : IsOutput (.call name args) (.expression e)

end Term

/-- What a clause makes of a rule. -/
inductive Rule.Takes (types : Registry) (r : Rule) : Clause → Rule → Prop
  | whenClause {t : Term} {x : Condition} (hx : t.IsCondition types x) :
      Takes types r ⟨.whenClause, t⟩ { r with conditions := r.conditions ++ [x] }
  | ifClause {t : Term} {x : Condition} (hfree : r.condition = none)
      (hx : t.IsCondition types x) : Takes types r ⟨.ifClause, t⟩ { r with condition := some x }
  | thenClause {t : Term} {x : Output} (hx : t.IsOutput types x) :
      Takes types r ⟨.thenClause, t⟩ { r with outputs := r.outputs ++ [x] }
  | yieldClause {t : Term} {x : Output} (hfree : r.output = none) (hx : t.IsOutput types x) :
      Takes types r ⟨.yieldClause, t⟩ { r with output := some x }

inductive Rule.TakesAll (types : Registry) : Rule → List Clause → Rule → Prop
  | nil (r : Rule) : TakesAll types r [] r
  | cons {r r' r'' : Rule} {c : Clause} {rest : List Clause} (hc : r.Takes types c r')
      (hrest : TakesAll types r' rest r'') : TakesAll types r (c :: rest) r''

/-- A written rule denotes what its clauses make of the empty rule of its name. -/
def WrittenRule.Denotes (types : Registry) (w : WrittenRule) (r : Rule) : Prop :=
  Rule.TakesAll types { name := w.name } w.clauses r

/-- The rules that a document denotes, one by one. -/
def Document.Denotes (types : Registry) (d : Document) (rules : List Rule) : Prop :=
  List.Forall₂ (WrittenRule.Denotes types) d.rules rules

section Meaning

variable (types : Registry) (label : String)

theorem Call.resolve_eq_ok_iff (name : String) (t : ValueType) :
    resolve types name = .ok t ↔ types.resolve? name = some t := by
  unfold resolve
  cases types.resolve? name with
  | none => simp
  | some t' => simp

theorem Call.isExpression_iff (c : Call) (e : Expression) :
    c.expression types label = .ok e ↔ c.IsExpression types e := by
  rw [expression_eq_ok_iff]
  constructor
  · rintro ⟨hdistinct, hname, hknown, hfields⟩
    exact ⟨hdistinct, hname, hknown, hfields⟩
  · rintro ⟨hdistinct, hname, hknown, hfields⟩
    exact ⟨hdistinct, hname, hknown, hfields⟩

theorem Term.condition_eq_ok_iff (t : Term) (x : Condition) :
    t.condition types label = .ok x ↔ t.IsCondition types x := by
  cases t with
  | literal v =>
    constructor
    · intro h
      cases h
      exact .literal v
    · rintro ⟨⟩
      rfl
  | typeRef name =>
    simp only [condition, map_eq_ok_iff, Call.resolve_eq_ok_iff]
    constructor
    · rintro ⟨t, ht, rfl⟩
      exact .type ht
    · intro h
      cases h with
      | type ht => exact ⟨_, ht, rfl⟩
  | call name args =>
    simp only [condition, map_eq_ok_iff, Call.isExpression_iff]
    constructor
    · rintro ⟨e, he, rfl⟩
      exact .expression he
    · intro h
      cases h with
      | expression he => exact ⟨_, he, rfl⟩

theorem Term.output_eq_ok_iff (t : Term) (x : Output) :
    t.output types label = .ok x ↔ t.IsOutput types x := by
  cases t with
  | literal v =>
    constructor
    · intro h
      cases h
      exact .literal v
    · rintro ⟨⟩
      rfl
  | typeRef name =>
    simp only [output, map_eq_ok_iff, Call.resolve_eq_ok_iff]
    constructor
    · rintro ⟨t, ht, rfl⟩
      exact .type ht
    · intro h
      cases h with
      | type ht => exact ⟨_, ht, rfl⟩
  | call name args =>
    simp only [output, map_eq_ok_iff, Call.isExpression_iff]
    constructor
    · rintro ⟨e, he, rfl⟩
      exact .expression he
    · intro h
      cases h with
      | expression he => exact ⟨_, he, rfl⟩

theorem Rule.addClause_eq_ok_iff (r r' : Rule) (c : Clause) :
    r.addClause types label c = .ok r' ↔ r.Takes types c r' := by
  obtain ⟨kind, t⟩ := c
  cases kind with
  | whenClause =>
    simp only [addClause, map_eq_ok_iff, Term.condition_eq_ok_iff]
    constructor
    · rintro ⟨x, hx, rfl⟩
      exact .whenClause hx
    · intro h
      cases h with
      | whenClause hx => exact ⟨_, hx, rfl⟩
  | ifClause =>
    cases hfree : r.condition with
    | some x =>
      simp only [addClause, hfree, Option.isSome_some, if_true]
      constructor
      · intro h
        cases h
      · intro h
        cases h with
        | ifClause hnone _ => cases hfree.symm.trans hnone
    | none =>
      simp only [addClause, hfree, Option.isSome_none, Bool.false_eq_true, if_false,
        map_eq_ok_iff, Term.condition_eq_ok_iff]
      constructor
      · rintro ⟨x, hx, rfl⟩
        exact .ifClause hfree hx
      · intro h
        cases h with
        | ifClause _ hx => exact ⟨_, hx, rfl⟩
  | thenClause =>
    simp only [addClause, map_eq_ok_iff, Term.output_eq_ok_iff]
    constructor
    · rintro ⟨x, hx, rfl⟩
      exact .thenClause hx
    · intro h
      cases h with
      | thenClause hx => exact ⟨_, hx, rfl⟩
  | yieldClause =>
    cases hfree : r.output with
    | some x =>
      simp only [addClause, hfree, Option.isSome_some, if_true]
      constructor
      · intro h
        cases h
      · intro h
        cases h with
        | yieldClause hnone _ => cases hfree.symm.trans hnone
    | none =>
      simp only [addClause, hfree, Option.isSome_none, Bool.false_eq_true, if_false,
        map_eq_ok_iff, Term.output_eq_ok_iff]
      constructor
      · rintro ⟨x, hx, rfl⟩
        exact .yieldClause hfree hx
      · intro h
        cases h with
        | yieldClause _ hx => exact ⟨_, hx, rfl⟩

theorem Rule.addClauses_eq_ok_iff (r r' : Rule) (clauses : List Clause) :
    Rule.addClauses types label r clauses = .ok r' ↔ r.TakesAll types clauses r' := by
  induction clauses generalizing r with
  | nil =>
    constructor
    · intro h
      cases h
      exact .nil _
    · rintro ⟨⟩
      rfl
  | cons c rest ih =>
    constructor
    · intro h
      rw [addClauses] at h
      cases hc : r.addClause types label c with
      | error err => simp [hc] at h
      | ok r₁ =>
        rw [hc] at h
        exact .cons ((addClause_eq_ok_iff types label r r₁ c).mp hc) ((ih r₁).mp h)
    · intro h
      cases h with
      | @cons _ r₁ _ _ _ hc hrest =>
        rw [addClauses, (addClause_eq_ok_iff types label r r₁ c).mpr hc]
        exact (ih r₁).mpr hrest

end Meaning

section Documents

variable (types : Registry)

theorem WrittenRule.toRule_eq_ok_iff (index : Nat) (w : WrittenRule) (r : Rule) :
    w.toRule types index = .ok r ↔ w.Denotes types r :=
  Rule.addClauses_eq_ok_iff types _ _ r w.clauses

theorem Document.rulesFrom_eq_ok_iff (index : Nat) (written : List WrittenRule)
    (rules : List Rule) :
    rulesFrom types index written = .ok rules ↔
      List.Forall₂ (WrittenRule.Denotes types) written rules := by
  induction written generalizing index rules with
  | nil => simp [rulesFrom, eq_comm]
  | cons w rest ih =>
    rw [rulesFrom, List.forall₂_cons_left_iff]
    cases hw : w.toRule types index with
    | error err =>
      simp only [← WrittenRule.toRule_eq_ok_iff types index, hw]
      simp
    | ok r =>
      simp only [← WrittenRule.toRule_eq_ok_iff types index, hw, map_eq_ok_iff, ih]
      simp only [Except.ok.injEq]
      grind

theorem Converter.ofText_of_denotes {input : String} {d : Document} {rules : List Rule}
    (hparse : Document.parse input = .ok d) (h : d.Denotes types rules) :
    ofText input types = (ofRules rules).mapError .definition := by
  have hrules := (Document.rulesFrom_eq_ok_iff types 0 d.rules rules).mpr h
  simp only [ofText, hparse, Document.toConverter, hrules]
  cases ofRules rules with
  | error err => rfl
  | ok c => rfl

/-- A text denotes a converter exactly if it is a document whose rules are in order. -/
theorem Converter.ofText_eq_ok_iff (input : String) (c : Converter) :
    ofText input types = .ok c ↔
      ∃ d, Document.parse input = .ok d ∧ d.Denotes types c.rules ∧ InOrder c.rules := by
  constructor
  · intro h
    cases hparse : Document.parse input with
    | error f => simp [ofText, hparse] at h
    | ok d =>
      cases hrules : Document.rulesFrom types 0 d.rules with
      | error err => simp [ofText, hparse, Document.toConverter, hrules] at h
      | ok rules =>
        have hdenotes := (Document.rulesFrom_eq_ok_iff types 0 d.rules rules).mp hrules
        rw [ofText_of_denotes types hparse hdenotes] at h
        cases hbuilt : ofRules rules with
        | error err => simp [hbuilt, Except.mapError] at h
        | ok c' =>
          rw [hbuilt] at h
          cases h
          obtain ⟨horder, rfl⟩ := (ofRules_eq_ok_iff rules c).mp hbuilt
          exact ⟨d, rfl, hdenotes, horder⟩
  · rintro ⟨d, hparse, hdenotes, horder⟩
    have hbuilt : ofRules c.rules = .ok c := (ofRules_eq_ok_iff c.rules c).mpr ⟨horder, rfl⟩
    rw [ofText_of_denotes types hparse hdenotes, hbuilt]
    rfl

end Documents

section Parts

variable {types : Registry} {r r' : Rule} {c : Clause}

theorem Rule.Takes.mem_allOutputs (h : r.Takes types c r') {o : Output}
    (ho : o ∈ r'.allOutputs) : o ∈ r.allOutputs ∨ c.term.IsOutput types o := by
  cases h with
  | whenClause hx => exact .inl ho
  | ifClause hfree hx => exact .inl ho
  | thenClause hx =>
    simp only [allOutputs, List.mem_append, List.mem_singleton] at ho ⊢
    rcases ho with ho | ho | rfl
    · exact .inl (.inl ho)
    · exact .inl (.inr ho)
    · exact .inr hx
  | yieldClause hfree hx =>
    simp only [allOutputs, List.mem_append, Option.toList_some, List.mem_singleton] at ho ⊢
    rcases ho with rfl | ho
    · exact .inr hx
    · exact .inl (.inr ho)

theorem Rule.Takes.allOutputs_subset (h : r.Takes types c r') :
    r.allOutputs ⊆ r'.allOutputs := by
  intro o ho
  cases h with
  | whenClause hx => exact ho
  | ifClause hfree hx => exact ho
  | thenClause hx =>
    simp only [allOutputs, List.mem_append] at ho ⊢
    exact ho.imp_right .inl
  | yieldClause hfree hx =>
    simp only [allOutputs, hfree, Option.toList_none, List.nil_append] at ho
    exact List.mem_append_right _ ho

theorem Rule.Takes.allConditions_subset (h : r.Takes types c r') :
    r.allConditions ⊆ r'.allConditions := by
  intro x hx
  cases h with
  | whenClause _ =>
    simp only [allConditions, List.mem_append] at hx ⊢
    exact hx.imp_right .inl
  | ifClause hfree _ =>
    simp only [allConditions, hfree, Option.toList_none, List.nil_append] at hx
    exact List.mem_append_right _ hx
  | thenClause _ => exact hx
  | yieldClause _ _ => exact hx

/-- A part of the rule comes from the term. -/
def Rule.Holds (types : Registry) (r : Rule) (t : Term) : Prop :=
  (∃ x ∈ r.allConditions, t.IsCondition types x) ∨ ∃ o ∈ r.allOutputs, t.IsOutput types o

theorem Rule.Takes.holds (h : r.Takes types c r') : r'.Holds types c.term := by
  cases h with
  | whenClause hx =>
    exact .inl ⟨_, List.mem_append_right _ (List.mem_append_right _ List.mem_cons_self), hx⟩
  | ifClause hfree hx => exact .inl ⟨_, List.mem_append_left _ List.mem_cons_self, hx⟩
  | thenClause hx =>
    exact .inr ⟨_, List.mem_append_right _ (List.mem_append_right _ List.mem_cons_self), hx⟩
  | yieldClause hfree hx => exact .inr ⟨_, List.mem_append_left _ List.mem_cons_self, hx⟩

theorem Rule.Takes.holds_of_holds (h : r.Takes types c r') {t : Term} (ht : r.Holds types t) :
    r'.Holds types t := by
  rcases ht with ⟨x, hmem, hx⟩ | ⟨o, hmem, ho⟩
  · exact .inl ⟨x, h.allConditions_subset hmem, hx⟩
  · exact .inr ⟨o, h.allOutputs_subset hmem, ho⟩

theorem Rule.TakesAll.mem_allOutputs {clauses : List Clause} (h : r.TakesAll types clauses r')
    {o : Output} (ho : o ∈ r'.allOutputs) :
    o ∈ r.allOutputs ∨ ∃ c ∈ clauses, c.term.IsOutput types o := by
  induction h with
  | nil r => exact .inl ho
  | cons hc _ ih =>
    rcases ih ho with hmem | ⟨c', hmem, ho'⟩
    · rcases hc.mem_allOutputs hmem with hmem | ho'
      · exact .inl hmem
      · exact .inr ⟨_, List.mem_cons_self, ho'⟩
    · exact .inr ⟨c', List.mem_cons_of_mem _ hmem, ho'⟩

theorem Rule.TakesAll.holds_of_holds {clauses : List Clause} (h : r.TakesAll types clauses r')
    {t : Term} (ht : r.Holds types t) : r'.Holds types t := by
  induction h with
  | nil r => exact ht
  | cons hc _ ih => exact ih (hc.holds_of_holds ht)

/-- No clause is lost to a later one. -/
theorem Rule.TakesAll.holds {clauses : List Clause} (h : r.TakesAll types clauses r')
    {c : Clause} (hc : c ∈ clauses) : r'.Holds types c.term := by
  induction h with
  | nil r => exact absurd hc List.not_mem_nil
  | cons hfirst hrest ih =>
    rcases List.mem_cons.mp hc with rfl | hc
    · exact hrest.holds_of_holds hfirst.holds
    · exact ih hc

def Term.call? : Term → Option Call
  | .call name args => some ⟨name, args⟩
  | _ => none

/-- The calls of a document, in the order in which they are written. -/
def Document.calls (d : Document) : List Call :=
  d.rules.flatMap fun w => w.clauses.filterMap fun c => c.term.call?

theorem Document.mem_calls {d : Document} {call : Call} :
    call ∈ d.calls ↔ ∃ w ∈ d.rules, ∃ c ∈ w.clauses, c.term = .call call.name call.args := by
  obtain ⟨name, args⟩ := call
  simp only [calls, List.mem_flatMap, List.mem_filterMap]
  have hterm : ∀ t : Term, t.call? = some ⟨name, args⟩ ↔ t = .call name args := by
    intro t
    cases t <;> simp [Term.call?]
  simp only [hterm]

variable {d : Document} {rules : List Rule}

theorem exists_of_forall₂_right {α β : Type} {R : α → β → Prop} {as : List α} {bs : List β}
    (h : List.Forall₂ R as bs) {b : β} (hb : b ∈ bs) : ∃ a ∈ as, R a b := by
  induction h with
  | nil => exact absurd hb List.not_mem_nil
  | cons hab _ ih =>
    rcases List.mem_cons.mp hb with rfl | hb
    · exact ⟨_, List.mem_cons_self, hab⟩
    · obtain ⟨a, ha, hab⟩ := ih hb
      exact ⟨a, List.mem_cons_of_mem _ ha, hab⟩

/-- Every expression among the outputs is what some call denotes. -/
theorem Document.Denotes.exists_call (h : d.Denotes types rules) (hr : r ∈ rules)
    {e : Expression} (he : .expression e ∈ r.allOutputs) :
    ∃ call ∈ d.calls, call.IsExpression types e := by
  obtain ⟨w, hw, hdenotes⟩ := exists_of_forall₂_right h hr
  rcases Rule.TakesAll.mem_allOutputs hdenotes he with hmem | ⟨c, hc, ho⟩
  · exact absurd hmem List.not_mem_nil
  · obtain ⟨kind, t⟩ := c
    cases ho with
    | expression hcall => exact ⟨_, mem_calls.mpr ⟨w, hw, _, hc, rfl⟩, hcall⟩

/-- Every call is kept, in a condition or in an output. -/
theorem Document.Denotes.exists_expression (h : d.Denotes types rules) {call : Call}
    (hcall : call ∈ d.calls) :
    ∃ r ∈ rules, ∃ e, call.IsExpression types e ∧
      (.expression e ∈ r.allConditions ∨ .expression e ∈ r.allOutputs) := by
  obtain ⟨w, hw, c, hc, hterm⟩ := mem_calls.mp hcall
  obtain ⟨r, hr, hdenotes⟩ := exists_of_forall₂_right h.flip hw
  refine ⟨r, hr, ?_⟩
  rcases Rule.TakesAll.holds hdenotes hc with ⟨x, hx, hcondition⟩ | ⟨o, ho, houtput⟩
  · rw [hterm] at hcondition
    cases hcondition with
    | expression he => exact ⟨_, he, .inl hx⟩
  · rw [hterm] at houtput
    cases houtput with
    | expression he => exact ⟨_, he, .inr ho⟩

end Parts

end ConversionRules
