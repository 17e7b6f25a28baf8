import ConversionRules.Converter

/-!
The first rule that does not decline a value decides its conversion. Rules are
asked one after the other in the same scope, since no condition changes it, and
so lists of rules compose: what stands after the deciding rule is not looked
at, and rules that all decline only move the ones after them.
-/
namespace ConversionRules

theorem Expression.attempt_scope {e : Expression} (he : e.kind ≠ .random) (v : Value)
    (s : Scope) : (e.attempt v s).2 = s := by
  cases e with
  | random r => exact absurd rfl he
  | _ => rfl

/-- Only a random draw changes the scope. -/
theorem Expression.evaluate_scope {e : Expression} (he : e.kind ≠ .random) (v : Value)
    (s : Scope) : (e.evaluate v s).2 = s := by
  have hscope := Expression.attempt_scope he v s
  cases hattempt : e.attempt v s with
  | mk outcome s' =>
    rw [hattempt] at hscope
    cases outcome with
    | error cause => simpa only [Expression.evaluate, hattempt] using hscope
    | ok x => simpa only [Expression.evaluate, hattempt] using hscope

theorem Expression.kind_ne_random {e : Expression} (he : e.isCondition = true) :
    e.kind ≠ .random := by
  intro hkind
  rw [Expression.isCondition, hkind] at he
  cases he

/-- A condition leaves the scope as it is, also when it fails. -/
theorem Condition.check_scope (c : Condition) (v : Value) (s : Scope) :
    (c.check v s).2 = s := by
  cases c with
  | literal x => rfl
  | type t => rfl
  | expression e =>
    by_cases he : e.isCondition = true
    · have hscope := Expression.evaluate_scope (Expression.kind_ne_random he) v s
      cases heval : e.evaluate v s with
      | mk outcome s' =>
        rw [heval] at hscope
        cases outcome with
        | error err => simpa only [Condition.check, he, heval, if_true] using hscope
        | ok x => simpa only [Condition.check, he, heval, if_true] using hscope
    · simp only [Condition.check, he, Bool.false_eq_true, if_false]

theorem Condition.checkAll_scope (conditions : List Condition) (v : Value) (s : Scope) :
    (Condition.checkAll conditions v s).2 = s := by
  induction conditions with
  | nil => rfl
  | cons c rest ih =>
    have hcheck : c.check v s = ((c.check v s).1, s) := Prod.ext rfl (Condition.check_scope c v s)
    rw [Condition.checkAll, hcheck]
    cases (c.check v s).1 with
    | error err => rfl
    | ok holds =>
      cases holds with
      | false => rfl
      | true => exact ih

theorem Rule.check_scope (r : Rule) (v : Value) (s : Scope) : (r.check v s).2 = s :=
  Condition.checkAll_scope r.activeConditions v s

/-- The outcome of a check, the scope being the one it was asked in. -/
theorem Rule.check_eq {r : Rule} {v : Value} {s : Scope} {x : Except EvalError Bool}
    (h : (r.check v s).1 = x) : r.check v s = (x, s) :=
  Prod.ext h (Rule.check_scope r v s)

/-- Rules of which none applies to the value. -/
def Declined (rules : List Rule) (v : Value) (s : Scope) : Prop :=
  ∀ r ∈ rules, r.check v s = (.ok false, s)

/-- How a conversion ends, in a report or an error: no rule applies and the
value passes, or a check fails, or a rule applies and its outputs decide. In
each case the rules before have declined. -/
inductive FirstMatch (v : Value) (s : Scope) :
    List Rule → Except EvalError Report × Scope → Prop
  | passed {rules : List Rule} (hrules : Declined rules v s) :
      FirstMatch v s rules (.ok ⟨none, none, rules.length, v⟩, s)
  | failed {before after : List Rule} {r : Rule} {e : EvalError}
      (hbefore : Declined before v s) (hr : r.check v s = (.error e, s)) :
      FirstMatch v s (before ++ r :: after) (.error e, s)
  | applied {before after : List Rule} {r : Rule}
      (hbefore : Declined before v s) (hr : r.check v s = (.ok true, s)) :
      FirstMatch v s (before ++ r :: after)
        ((r.convert v s).1.map fun x => ⟨some before.length, r.name, before.length + 1, x⟩,
          (r.convert v s).2)

/-- The report of a list of rules that stands after `count` others. -/
def Report.shift (count : Nat) (r : Report) : Report :=
  { r with matched := r.matched.map (count + ·), checked := count + r.checked }

variable {v : Value} {s : Scope}

theorem Declined.append {rs ts : List Rule} (hrs : Declined rs v s) (hts : Declined ts v s) :
    Declined (rs ++ ts) v s :=
  List.forall_mem_append.mpr ⟨hrs, hts⟩

namespace FirstMatch

/-- What stands after the rule that decides is not looked at. -/
theorem append_right {rs : List Rule} {outcome : Except EvalError Report × Scope}
    (h : FirstMatch v s rs outcome)
    (hdecided : ∀ result, outcome.1 = .ok result → result.matched ≠ none)
    (ts : List Rule) : FirstMatch v s (rs ++ ts) outcome := by
  cases h with
  | passed hrules => exact absurd rfl (hdecided _ rfl)
  | failed hbefore hr =>
    rw [List.append_assoc, List.cons_append]
    exact failed hbefore hr
  | applied hbefore hr =>
    rw [List.append_assoc, List.cons_append]
    exact applied hbefore hr

/-- Rules that decline are passed over; the ones after them are counted on. -/
theorem append_left {rs ts : List Rule} {outcome : Except EvalError Report × Scope}
    (hrs : Declined rs v s) (h : FirstMatch v s ts outcome) :
    FirstMatch v s (rs ++ ts) (outcome.1.map (Report.shift rs.length), outcome.2) := by
  cases h with
  | passed hts =>
    have hall := passed (hrs.append hts)
    rw [List.length_append] at hall
    exact hall
  | failed hbefore hr =>
    rw [← List.append_assoc]
    exact failed (hrs.append hbefore) hr
  | @applied before after r hbefore hr =>
    have hall : FirstMatch v s (rs ++ before ++ r :: after) _ := applied (hrs.append hbefore) hr
    rw [List.append_assoc, List.length_append, Nat.add_assoc] at hall
    cases hconvert : r.convert v s with
    | mk x s' =>
      rw [hconvert] at hall
      cases x with
      | error e => exact hall
      | ok x => exact hall

/-- What a report tells of the rules: either all have declined, or one applies
and converts the value after the ones before it have declined. -/
theorem ok_cases {rules : List Rule} {result : Report} {s' : Scope}
    (h : FirstMatch v s rules (.ok result, s')) :
    (Declined rules v s ∧ result = ⟨none, none, rules.length, v⟩ ∧ s' = s) ∨
      ∃ before r after x, rules = before ++ r :: after ∧ Declined before v s ∧
        r.check v s = (.ok true, s) ∧ r.convert v s = (.ok x, s') ∧
        result = ⟨some before.length, r.name, before.length + 1, x⟩ := by
  generalize hout : ((.ok result, s') : Except EvalError Report × Scope) = outcome at h
  cases h with
  | passed hrules =>
    cases hout
    exact Or.inl ⟨hrules, rfl, rfl⟩
  | failed hbefore hr => cases hout
  | @applied before after r hbefore hr =>
    cases hconvert : r.convert v s with
    | mk x s'' =>
      rw [hconvert] at hout
      cases x with
      | error e => cases hout
      | ok x =>
        cases hout
        exact Or.inr ⟨before, r, after, x, rfl, hbefore, hr, hconvert, rfl⟩

theorem of_matched {rules : List Rule} {result : Report} {s' : Scope} {i : Nat}
    (h : FirstMatch v s rules (.ok result, s')) (hi : result.matched = some i) :
    ∃ r, rules[i]? = some r ∧ Declined (rules.take i) v s ∧ r.check v s = (.ok true, s) ∧
      result.checked = i + 1 ∧ result.ruleName = r.name ∧
      r.convert v s = (.ok result.output, s') := by
  rcases h.ok_cases with ⟨_, rfl, _⟩ | ⟨before, r, after, x, rfl, hbefore, hr, hconvert, rfl⟩
  · cases hi
  · cases hi
    have hget : (before ++ r :: after)[before.length]? = some r := by simp
    have htake : (before ++ r :: after).take before.length = before := List.take_left
    exact ⟨r, hget, htake.symm ▸ hbefore, hr, rfl, rfl, hconvert⟩

theorem of_unmatched {rules : List Rule} {result : Report} {s' : Scope}
    (h : FirstMatch v s rules (.ok result, s')) (hnone : result.matched = none) :
    Declined rules v s ∧ result.checked = rules.length ∧ result.output = v ∧ s' = s := by
  rcases h.ok_cases with ⟨hrules, rfl, hs⟩ | ⟨before, r, after, x, _, _, _, _, rfl⟩
  · exact ⟨hrules, rfl, rfl, hs⟩
  · cases hnone

end FirstMatch

namespace Converter

theorem searchFrom_of_declined {before : List Rule} (rest : List Rule)
    (hbefore : Declined before v s) (index : Nat) :
    searchFrom index (before ++ rest) v s = searchFrom (index + before.length) rest v s := by
  induction before generalizing index with
  | nil => rfl
  | cons r before ih =>
    have hr : r.check v s = (.ok false, s) := hbefore r List.mem_cons_self
    have htail : Declined before v s := fun q hq => hbefore q (List.mem_cons_of_mem r hq)
    have hindex : index + (r :: before).length = index + 1 + before.length := by
      rw [List.length_cons]
      omega
    rw [List.cons_append, searchFrom, hr, hindex]
    exact ih htail (index + 1)

theorem search_of_declined {rules : List Rule} (hrules : Declined rules v s) :
    search rules v s = (.ok none, s) := by
  have h := searchFrom_of_declined [] hrules 0
  rw [List.append_nil] at h
  exact h

/-- Nothing after the rule at which the search ends is looked at. -/
theorem search_split {before after : List Rule} {r : Rule} (hbefore : Declined before v s) :
    search (before ++ r :: after) v s = searchFrom before.length (r :: after) v s := by
  have h := searchFrom_of_declined (r :: after) hbefore 0
  rw [Nat.zero_add] at h
  exact h

theorem report_of_firstMatch {rules : List Rule} {outcome : Except EvalError Report × Scope}
    (h : FirstMatch v s rules outcome) : report ⟨rules⟩ v s = outcome := by
  cases h with
  | passed hrules =>
    simp only [report, search_of_declined hrules]
    rfl
  | failed hbefore hr => simp only [report, search_split hbefore, searchFrom, hr]
  | @applied before after r hbefore hr =>
    simp only [report, search_split hbefore, searchFrom, hr]
    split
    · rename_i x s' hconvert
      rw [hconvert]
      rfl
    · rename_i e s' hconvert
      rw [hconvert]
      rfl

/-- Either all rules decline a value, or there is a first one that does not. -/
theorem declined_or_split (rules : List Rule) (v : Value) (s : Scope) :
    Declined rules v s ∨ ∃ before r after, rules = before ++ r :: after ∧
      Declined before v s ∧ (r.check v s).1 ≠ .ok false := by
  induction rules with
  | nil => exact Or.inl fun r hr => absurd hr List.not_mem_nil
  | cons first rest ih =>
    by_cases hfirst : (first.check v s).1 = .ok false
    · have hdeclines : first.check v s = (.ok false, s) := Rule.check_eq hfirst
      rcases ih with hrest | ⟨before, r, after, rfl, hbefore, hr⟩
      · exact Or.inl (List.forall_mem_cons.mpr ⟨hdeclines, hrest⟩)
      · refine Or.inr ⟨first :: before, r, after, rfl, ?_, hr⟩
        exact List.forall_mem_cons.mpr ⟨hdeclines, hbefore⟩
    · exact Or.inr ⟨[], first, rest, rfl, fun r hr => absurd hr List.not_mem_nil, hfirst⟩

theorem exists_firstMatch (rules : List Rule) (v : Value) (s : Scope) :
    ∃ outcome, FirstMatch v s rules outcome := by
  rcases declined_or_split rules v s with hrules | ⟨before, r, after, rfl, hbefore, hr⟩
  · exact ⟨_, FirstMatch.passed hrules⟩
  · cases hcheck : (r.check v s).1 with
    | error e => exact ⟨_, FirstMatch.failed hbefore (Rule.check_eq hcheck)⟩
    | ok applies =>
      cases applies with
      | false => exact absurd hcheck hr
      | true => exact ⟨_, FirstMatch.applied hbefore (Rule.check_eq hcheck)⟩

theorem firstMatch_report (rules : List Rule) (v : Value) (s : Scope) :
    FirstMatch v s rules (report ⟨rules⟩ v s) := by
  obtain ⟨outcome, h⟩ := exists_firstMatch rules v s
  rw [report_of_firstMatch h]
  exact h

/-- A conversion is its report without the diagnostics. -/
theorem convert_eq_report (c : Converter) (v : Value) (s : Scope) :
    c.convert v s = ((c.report v s).1.map Report.output, (c.report v s).2) := by
  unfold convert report
  split
  · split
    · rename_i hconvert
      exact hconvert
    · rename_i hconvert
      exact hconvert
  · rfl
  · rfl

/-- The conversion of a value is decided by the first rule that does not
decline it. -/
theorem report_firstMatch (rs ts : List Rule) (v : Value) (s : Scope) :
    convert ⟨rs⟩ v s = ((report ⟨rs⟩ v s).1.map Report.output, (report ⟨rs⟩ v s).2) ∧
    FirstMatch v s rs (report ⟨rs⟩ v s) ∧
    (∀ result s' i, report ⟨rs⟩ v s = (.ok result, s') → result.matched = some i →
      (∃ r, rs[i]? = some r ∧ Declined (rs.take i) v s ∧ r.check v s = (.ok true, s) ∧
        result.checked = i + 1 ∧ result.ruleName = r.name ∧
        r.convert v s = (.ok result.output, s')) ∧
      report ⟨rs ++ ts⟩ v s = (.ok result, s')) ∧
    (∀ e s', report ⟨rs⟩ v s = (.error e, s') → report ⟨rs ++ ts⟩ v s = (.error e, s')) ∧
    ∀ result s', report ⟨rs⟩ v s = (.ok result, s') → result.matched = none →
      (Declined rs v s ∧ result.checked = rs.length ∧ result.output = v ∧ s' = s) ∧
      report ⟨rs ++ ts⟩ v s =
        ((report ⟨ts⟩ v s).1.map (Report.shift rs.length), (report ⟨ts⟩ v s).2) := by
  have hrs : FirstMatch v s rs (report ⟨rs⟩ v s) := firstMatch_report rs v s
  have hts : FirstMatch v s ts (report ⟨ts⟩ v s) := firstMatch_report ts v s
  refine ⟨convert_eq_report ⟨rs⟩ v s, hrs, ?_, ?_, ?_⟩
  · intro result s' i hreport hi
    rw [hreport] at hrs
    have hdecided : ∀ other, (.ok result : Except EvalError Report) = .ok other →
        other.matched ≠ none := by
      intro other heq
      cases heq
      rw [hi]
      exact Option.some_ne_none i
    exact ⟨hrs.of_matched hi, report_of_firstMatch (hrs.append_right hdecided ts)⟩
  · intro e s' hreport
    rw [hreport] at hrs
    exact report_of_firstMatch (hrs.append_right (fun _ heq => nomatch heq) ts)
  · intro result s' hreport hnone
    rw [hreport] at hrs
    have hdeclined := hrs.of_unmatched hnone
    exact ⟨hdeclined, report_of_firstMatch (hts.append_left hdeclined.1)⟩

/-- A rule for texts, which are replaced by their first character. -/
def letterRules : List Rule :=
  [{ condition := some (.type .string)
     output := some (.expression (.lookup { operation := .first })) }]

/-- A named rule for whole numbers. -/
def wholeRules : List Rule :=
  [{ name := some "whole", conditions := [.type .int], outputs := [.literal (.bool true)] }]

theorem report_letterRules :
    report ⟨letterRules ++ wholeRules⟩ (.string "ab") (.seeded .empty 0) =
      (.ok ⟨some 0, none, 1, .char 'a'⟩, .seeded .empty 0) ∧
    report ⟨letterRules ++ wholeRules⟩ (.string "") (.seeded .empty 0) =
      (.error ⟨.lookup, .emptySource .first⟩, .seeded .empty 0) ∧
    report ⟨letterRules ++ wholeRules⟩ (.int 5) (.seeded .empty 0) =
      (.ok ⟨some 1, some "whole", 2, .bool true⟩, .seeded .empty 0) := by
  have hmatched : report ⟨letterRules⟩ (.string "ab") (.seeded .empty 0) =
      (.ok ⟨some 0, none, 1, .char 'a'⟩, .seeded .empty 0) := rfl
  have herror : report ⟨letterRules⟩ (.string "") (.seeded .empty 0) =
      (.error ⟨.lookup, .emptySource .first⟩, .seeded .empty 0) := rfl
  have hpassed : report ⟨letterRules⟩ (.int 5) (.seeded .empty 0) =
      (.ok ⟨none, none, 1, .int 5⟩, .seeded .empty 0) := rfl
  have hletter := report_firstMatch letterRules wholeRules (.string "ab") (.seeded .empty 0)
  have hempty := report_firstMatch letterRules wholeRules (.string "") (.seeded .empty 0)
  have hwhole := report_firstMatch letterRules wholeRules (.int 5) (.seeded .empty 0)
  exact ⟨(hletter.2.2.1 _ _ 0 hmatched rfl).2, hempty.2.2.2.1 _ _ herror,
    (hwhole.2.2.2.2 _ _ hpassed rfl).2⟩

end Converter

end ConversionRules
