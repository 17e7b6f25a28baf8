import ConversionRules.Cache.Container
import ConversionRules.Document.Meaning
import ConversionRules.Proofs.Expression.Blame

/-!
Every way to a converter leaves its rules in order: names are different and
conditions answer yes or no. In such a converter no condition is at fault when
a conversion fails, and a rule is found by its name where a report puts it.
-/
namespace ConversionRules

/-- Rules with different names, which hold in no place of a condition, not
even in a list that the single condition replaces, an expression that does not
answer yes or no. -/
structure InOrder (rules : List Rule) : Prop where
  nodup_names : (rules.filterMap Rule.name).Nodup
  isCondition : ∀ r ∈ rules, ∀ e : Expression,
    r.condition = some (.expression e) ∨ .expression e ∈ r.conditions → e.isCondition = true

/-- A converter that was built from rules, read from a text or decoded from bytes. -/
inductive Constructed : Converter → Prop
  | built {rules : List Rule} {c : Converter} (h : Converter.ofRules rules = .ok c) :
      Constructed c
  | read {input : String} {types : Registry} {c : Converter}
      (h : Converter.ofText input types = .ok c) : Constructed c
  | decoded {bs : List UInt8} {c : Converter} (h : Cache.decode bs = .ok c) : Constructed c

namespace Converter

theorem mem_allConditions {r : Rule} {c : Condition} :
    c ∈ r.allConditions ↔ r.condition = some c ∨ c ∈ r.conditions := by
  simp [Rule.allConditions]

theorem badCondition?_eq_none_iff (r : Rule) :
    badCondition? r = none ↔ ∀ e : Expression,
      r.condition = some (.expression e) ∨ .expression e ∈ r.conditions →
        e.isCondition = true := by
  rw [badCondition?, List.findSome?_eq_none_iff]
  constructor
  · intro h e he
    have hnone := h (.expression e) (mem_allConditions.mpr he)
    cases hcondition : e.isCondition with
    | true => rfl
    | false => simp [hcondition] at hnone
  · intro h c hc
    cases c with
    | literal v => rfl
    | type t => rfl
    | expression e => simp [h e (mem_allConditions.mp hc)]

/-- One step of the check: the name is new and the conditions are in order. -/
theorem validateFrom_cons (index : Nat) (seen : List String) (r : Rule) (rest : List Rule) :
    validateFrom index seen (r :: rest) = .ok () ↔
      (∀ name, r.name = some name → name ∉ seen) ∧ badCondition? r = none ∧
        validateFrom (index + 1) (r.name.toList ++ seen) rest = .ok () := by
  have hfilter : r.name.filter seen.contains = none ↔
      ∀ name, r.name = some name → name ∉ seen := by
    simp [Option.filter_eq_none_iff]
  rw [validateFrom, ← hfilter]
  split
  · rename_i name kind hname
    simp [hname]
  · rename_i kind hname hbad
    simp [hbad]
  · rename_i hname hbad
    simp [hname, hbad]

theorem inOrder_nil : InOrder [] := ⟨List.nodup_nil, fun _ hr => absurd hr List.not_mem_nil⟩

theorem inOrder_cons_iff (r : Rule) (rest : List Rule) :
    InOrder (r :: rest) ↔
      (∀ name, r.name = some name → name ∉ rest.filterMap Rule.name) ∧
        badCondition? r = none ∧ InOrder rest := by
  rw [badCondition?_eq_none_iff]
  constructor
  · intro hyp
    rcases hyp with ⟨hnames, hconditions⟩
    have hrest : ∀ r ∈ rest, _ := fun r hr => hconditions r (List.mem_cons_of_mem _ hr)
    refine ⟨?_, hconditions r List.mem_cons_self, ?_, hrest⟩
    · intro name hname
      rw [List.filterMap_cons_some hname] at hnames
      exact (List.nodup_cons.mp hnames).1
    · cases hname : r.name with
      | none => rwa [List.filterMap_cons_none hname] at hnames
      | some name =>
        rw [List.filterMap_cons_some hname] at hnames
        exact (List.nodup_cons.mp hnames).2
  · intro hyp
    rcases hyp with ⟨hnew, hfirst, hnames, hrest⟩
    refine ⟨?_, List.forall_mem_cons.mpr ⟨hfirst, hrest⟩⟩
    cases hname : r.name with
    | none => rwa [List.filterMap_cons_none hname]
    | some name =>
      rw [List.filterMap_cons_some hname]
      exact List.nodup_cons.mpr ⟨hnew name hname, hnames⟩

theorem validateFrom_eq_ok_iff (index : Nat) (seen : List String) (rules : List Rule) :
    validateFrom index seen rules = .ok () ↔
      (∀ name ∈ rules.filterMap Rule.name, name ∉ seen) ∧ InOrder rules := by
  induction rules generalizing index seen with
  | nil => simp [validateFrom, inOrder_nil]
  | cons r rest ih =>
    rw [validateFrom_cons, ih, inOrder_cons_iff]
    cases hname : r.name with
    | none =>
      rw [List.filterMap_cons_none hname, Option.toList_none, List.nil_append]
      grind
    | some name =>
      rw [List.filterMap_cons_some hname, Option.toList_some, List.singleton_append]
      grind

theorem validate_eq_ok_iff (rules : List Rule) : validate rules = .ok () ↔ InOrder rules := by
  rw [validate, validateFrom_eq_ok_iff]
  simp

/-- Building succeeds on rules in order, and only on these. -/
theorem ofRules_eq_ok_iff (rules : List Rule) (c : Converter) :
    ofRules rules = .ok c ↔ InOrder rules ∧ c = ⟨rules⟩ := by
  rw [← validate_eq_ok_iff, ofRules]
  cases hvalid : validate rules with
  | error e => simp [Except.map]
  | ok u => simp [Except.map, eq_comm]

theorem inOrder_of_ofRules {rules : List Rule} {c : Converter} (h : ofRules rules = .ok c) :
    InOrder c.rules := by
  obtain ⟨horder, rfl⟩ := (ofRules_eq_ok_iff rules c).mp h
  exact horder

theorem inOrder_of_ofText {input : String} {types : Registry} {c : Converter}
    (h : ofText input types = .ok c) : InOrder c.rules := by
  unfold ofText at h
  split at h
  · cases h
  rename_i d _
  split at h
  · cases h
  rename_i c' hc
  cases h
  unfold Document.toConverter at hc
  split at hc
  · cases hc
  · exact inOrder_of_ofRules hc

theorem inOrder_of_decode {bs : List UInt8} {c : Converter} (h : Cache.decode bs = .ok c) :
    InOrder c.rules := by
  unfold Cache.decode at h
  split at h
  · cases h
  split at h
  · cases h
  split at h
  · rename_i c' hc
    cases h
    exact inOrder_of_ofRules hc
  · cases h

theorem inOrder_of_constructed {c : Converter} (h : Constructed c) : InOrder c.rules := by
  cases h with
  | built h => exact inOrder_of_ofRules h
  | read h => exact inOrder_of_ofText h
  | decoded h => exact inOrder_of_decode h

end Converter

/-- An outcome that is no error blaming an expression for standing in a condition. -/
def Faultless {α : Type} (x : Except EvalError α) : Prop :=
  ∀ e, x = .error e → e.cause ≠ .notACondition

namespace Faultless

variable {α β : Type}

theorem ok (a : α) : Faultless (.ok a) := fun _ h => nomatch h

/-- An error that is passed on from a part. -/
theorem passed {x : Except EvalError α × Scope} {e : EvalError} {s : Scope}
    (hx : Faultless x.1) (h : x = (.error e, s)) : Faultless (.error e : Except EvalError β) := by
  intro e' he
  cases he
  exact hx e (congrArg Prod.fst h)

end Faultless

theorem faultless_evaluate (e : Expression) (v : Value) (s : Scope) :
    Faultless (e.evaluate v s).1 := by
  unfold Expression.evaluate
  split
  · exact Faultless.ok _
  · rename_i cause s' hattempt
    intro err herr hcause
    cases herr
    apply blameless_attempt e v s
    rw [hattempt]
    exact congrArg _ hcause

theorem faultless_apply (o : Output) (v : Value) (s : Scope) : Faultless (o.apply v s).1 := by
  cases o with
  | literal x => exact Faultless.ok x
  | expression e => exact faultless_evaluate e v s

theorem faultless_applyAll (outputs : List Output) (v : Value) (s : Scope) :
    Faultless (Output.applyAll outputs v s).1 := by
  induction outputs generalizing v s with
  | nil => exact Faultless.ok v
  | cons o rest ih =>
    unfold Output.applyAll
    split
    · exact ih _ _
    · rename_i err s' happly
      exact (faultless_apply o v s).passed happly

theorem faultless_check {c : Condition} (v : Value) (s : Scope)
    (hc : ∀ e, c = .expression e → e.isCondition = true) : Faultless (c.check v s).1 := by
  cases c with
  | literal x => exact Faultless.ok _
  | type t => exact Faultless.ok _
  | expression e =>
    simp only [Condition.check, hc e rfl, if_true]
    split
    · exact Faultless.ok _
    · rename_i err s' heval
      exact (faultless_evaluate e v s).passed heval

theorem faultless_checkAll {conditions : List Condition} (v : Value) (s : Scope)
    (hconditions : ∀ e, .expression e ∈ conditions → e.isCondition = true) :
    Faultless (Condition.checkAll conditions v s).1 := by
  induction conditions generalizing s with
  | nil => exact Faultless.ok true
  | cons c rest ih =>
    unfold Condition.checkAll
    split
    · exact ih _ fun e he => hconditions e (List.mem_cons_of_mem c he)
    · exact Faultless.ok false
    · rename_i err s' hcheck
      have hc : ∀ e, c = .expression e → e.isCondition = true := by
        intro e he
        exact hconditions e (he ▸ List.mem_cons_self)
      exact (faultless_check v s hc).passed hcheck

/-- The conditions that decide stand in one of the two places. -/
theorem mem_activeConditions {r : Rule} {c : Condition} (h : c ∈ r.activeConditions) :
    r.condition = some c ∨ c ∈ r.conditions := by
  unfold Rule.activeConditions at h
  split at h
  · rename_i c' hc
    rw [List.mem_singleton] at h
    exact Or.inl (h ▸ hc)
  · exact Or.inr h

namespace Converter

theorem faultless_searchFrom {rules : List Rule} (index : Nat) (v : Value) (s : Scope)
    (h : ∀ r ∈ rules, ∀ e : Expression,
      r.condition = some (.expression e) ∨ .expression e ∈ r.conditions → e.isCondition = true) :
    Faultless (searchFrom index rules v s).1 := by
  induction rules generalizing index s with
  | nil => exact Faultless.ok none
  | cons r rest ih =>
    unfold searchFrom
    split
    · exact Faultless.ok _
    · exact ih _ _ fun r' hr => h r' (List.mem_cons_of_mem r hr)
    · rename_i err s' hcheck
      have hr : Faultless (r.check v s).1 := faultless_checkAll v s fun e he =>
        h r List.mem_cons_self e (mem_activeConditions he)
      exact hr.passed hcheck

/-- The search finds a rule at its index. -/
theorem getElem?_of_searchFrom {index i : Nat} {rules : List Rule} {v : Value} {s s' : Scope}
    {r : Rule} (h : searchFrom index rules v s = (.ok (some (i, r)), s')) :
    ∃ k, i = index + k ∧ rules[k]? = some r := by
  induction rules generalizing index s with
  | nil => cases h
  | cons first rest ih =>
    unfold searchFrom at h
    split at h
    · cases h
      exact ⟨0, rfl, rfl⟩
    · obtain ⟨k, hk, hget⟩ := ih h
      exact ⟨k + 1, by omega, hget⟩
    · cases h

theorem getElem?_of_search {i : Nat} {rules : List Rule} {v : Value} {s s' : Scope} {r : Rule}
    (h : search rules v s = (.ok (some (i, r)), s')) : rules[i]? = some r := by
  obtain ⟨k, hk, hget⟩ := getElem?_of_searchFrom h
  rw [Nat.zero_add] at hk
  exact hk ▸ hget

theorem faultless_convert {c : Converter} (hc : InOrder c.rules) (v : Value) (s : Scope) :
    Faultless (c.convert v s).1 := by
  unfold convert
  split
  · exact faultless_applyAll _ _ _
  · exact Faultless.ok v
  · rename_i err s' hsearch
    exact (faultless_searchFrom 0 v s hc.isCondition).passed hsearch

theorem faultless_report {c : Converter} (hc : InOrder c.rules) (v : Value) (s : Scope) :
    Faultless (c.report v s).1 := by
  unfold report
  split
  · split
    · exact Faultless.ok _
    · rename_i err s' hconvert
      exact (faultless_applyAll _ _ _).passed hconvert
  · exact Faultless.ok _
  · rename_i err s' hsearch
    exact (faultless_searchFrom 0 v s hc.isCondition).passed hsearch

theorem findIdx?_of_nodup {rules : List Rule} {i : Nat} {r : Rule} {name : String}
    (hnames : (rules.filterMap Rule.name).Nodup) (hget : rules[i]? = some r)
    (hname : r.name = some name) :
    rules.findIdx? (fun r => r.name == some name) = some i := by
  induction rules generalizing i with
  | nil => simp at hget
  | cons first rest ih =>
    rw [List.findIdx?_cons]
    cases i with
    | zero =>
      have hfirst : first = r := Option.some.inj hget
      simp [hfirst, hname]
    | succ i =>
      have hmem : name ∈ rest.filterMap Rule.name :=
        List.mem_filterMap.mpr ⟨r, List.mem_of_getElem? hget, hname⟩
      have hother : first.name ≠ some name := by
        intro hfirst
        rw [List.filterMap_cons_some hfirst] at hnames
        exact (List.nodup_cons.mp hnames).1 hmem
      have hrest : (rest.filterMap Rule.name).Nodup := by
        refine hnames.sublist ?_
        exact (List.sublist_cons_self first rest).filterMap Rule.name
      have htail := ih hrest hget
      simp [hother, htail]

/-- The index of a named rule is found by its name. -/
theorem position?_of_getElem? {c : Converter} (hc : InOrder c.rules) {i : Nat} {r : Rule}
    {name : String} (hget : c.rules[i]? = some r) (hname : r.name = some name) :
    c.position? name = some i :=
  findIdx?_of_nodup hc.nodup_names hget hname

theorem position?_of_report {c : Converter} (hc : InOrder c.rules) {v : Value} {s s' : Scope}
    {report : Report} (h : c.report v s = (.ok report, s')) {name : String}
    (hname : report.ruleName = some name) :
    ∃ i, c.position? name = some i ∧ report.matched = some i := by
  unfold Converter.report at h
  split at h
  · rename_i i r s₁ hsearch
    split at h
    · cases h
      exact ⟨i, position?_of_getElem? hc (getElem?_of_search hsearch) hname, rfl⟩
    · cases h
  · cases h
    cases hname
  · cases h

/-- All ways to a converter check the same, and evaluation relies on it: no
conversion fails for an expression that stands in a condition, and a rule is
found by its name where it stands and where a report puts it. -/
theorem constructed_inOrder_and_found :
    (∀ rules c, ofRules rules = .ok c ↔ InOrder rules ∧ c = ⟨rules⟩) ∧
    ∀ c, Constructed c →
      InOrder c.rules ∧
      (∀ v s, Faultless (c.convert v s).1 ∧ Faultless (c.report v s).1) ∧
      (∀ i r name, c.rules[i]? = some r → r.name = some name → c.position? name = some i) ∧
      ∀ v s report s' name, c.report v s = (.ok report, s') → report.ruleName = some name →
        ∃ i, c.position? name = some i ∧ report.matched = some i := by
  refine ⟨ofRules_eq_ok_iff, fun c hconstructed => ?_⟩
  have hc : InOrder c.rules := inOrder_of_constructed hconstructed
  refine ⟨hc, fun v s => ⟨faultless_convert hc v s, faultless_report hc v s⟩, ?_, ?_⟩
  · intro i r name hget hname
    exact position?_of_getElem? hc hget hname
  · intro v s report s' name hreport hname
    exact position?_of_report hc hreport hname

/-- An unnamed rule for null, then a rule for texts that begin with a letter. -/
def initialRules : List Rule :=
  [{ condition := some (.literal .null) },
   { name := some "initial"
     conditions := [.type .string, .expression (.check { startsWith := some "a" })]
     outputs := [.expression (.lookup { operation := .first })] }]

theorem found_initialRules :
    ofRules initialRules = .ok ⟨initialRules⟩ ∧
      ∃ i, position? ⟨initialRules⟩ "initial" = some i ∧ some 1 = some i := by
  have hbuilt : ofRules initialRules = .ok ⟨initialRules⟩ := rfl
  have hreport : report ⟨initialRules⟩ (.string "ab") (.seeded .empty 0) =
      (.ok ⟨some 1, some "initial", 2, .char 'a'⟩, .seeded .empty 0) := rfl
  have h := (constructed_inOrder_and_found.2 ⟨initialRules⟩ (.built hbuilt)).2.2.2
  exact ⟨hbuilt, h (.string "ab") (.seeded .empty 0) _ _ "initial" hreport rfl⟩

end Converter

end ConversionRules
