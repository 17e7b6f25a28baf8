import ConversionRules.Proofs.Converter.Failure
import ConversionRules.Proofs.Converter.Scopes

/-!
The conditions of a rule, which are asked in order up to the first that does not
hold. Another order has the same verdict where all of them hold, and otherwise
one that some condition gives. An expression behind a type that it accepts is
not asked about other values, so that rules with such conditions always decide.
-/
namespace ConversionRules

section Order

variable {v : Value} {s : Scope} {c : Condition} {conditions : List Condition}

namespace Condition

theorem checkAll_cons_of_holds (h : (c.check v s).1 = .ok true) (rest : List Condition) :
    checkAll (c :: rest) v s = checkAll rest v s := by
  have hc : c.check v s = (.ok true, s) := Prod.ext h (check_scope c v s)
  rw [checkAll, hc]

theorem checkAll_cons_of_not_holds (h : (c.check v s).1 ≠ .ok true) (rest : List Condition) :
    checkAll (c :: rest) v s = c.check v s := by
  rw [checkAll]
  split
  · rename_i s' hc
    rw [hc] at h
    exact absurd rfl h
  · rename_i s' hc
    exact hc.symm
  · rename_i e s' hc
    exact hc.symm

theorem checkAll_eq_true_iff (conditions : List Condition) :
    (checkAll conditions v s).1 = .ok true ↔ ∀ c ∈ conditions, (c.check v s).1 = .ok true := by
  induction conditions with
  | nil => simp [checkAll]
  | cons c rest ih =>
    rw [List.forall_mem_cons]
    by_cases hc : (c.check v s).1 = .ok true
    · rw [checkAll_cons_of_holds hc, ih]
      exact ⟨fun hrest => ⟨hc, hrest⟩, And.right⟩
    · rw [checkAll_cons_of_not_holds hc]
      exact ⟨fun h => absurd h hc, fun h => absurd h.1 hc⟩

/-- Conditions that do not all hold have the outcome of one of them. -/
theorem exists_checkAll_eq (h : (checkAll conditions v s).1 ≠ .ok true) :
    ∃ c ∈ conditions, (c.check v s).1 = (checkAll conditions v s).1 := by
  induction conditions with
  | nil => exact absurd rfl h
  | cons c rest ih =>
    by_cases hc : (c.check v s).1 = .ok true
    · rw [checkAll_cons_of_holds hc] at h ⊢
      obtain ⟨c', hmem, hc'⟩ := ih h
      exact ⟨c', List.mem_cons_of_mem c hmem, hc'⟩
    · rw [checkAll_cons_of_not_holds hc]
      exact ⟨c, List.mem_cons_self, rfl⟩

/-- Any condition that does not hold decides if it is asked first. -/
theorem exists_perm_checkAll_eq (hc : c ∈ conditions) (h : (c.check v s).1 ≠ .ok true) :
    ∃ order : List Condition, order.Perm conditions ∧
      (checkAll order v s).1 = (c.check v s).1 := by
  obtain ⟨before, after, rfl⟩ := List.append_of_mem hc
  refine ⟨c :: (before ++ after), List.perm_middle.symm, ?_⟩
  rw [checkAll_cons_of_not_holds h]

end Condition

/-- The outcome of a check that does not find that a rule applies. -/
def Refused (x : Except EvalError Bool) : Prop := x = .ok false ∨ ∃ e, x = .error e

theorem refused_of_ne {x : Except EvalError Bool} (h : x ≠ .ok true) : Refused x := by
  cases x with
  | error e => exact Or.inr ⟨e, rfl⟩
  | ok holds =>
    cases holds with
    | false => exact Or.inl rfl
    | true => exact absurd rfl h

/-- The rule with its list of conditions in another order. -/
def Rule.reordered (r : Rule) (order : List Condition) : Rule := { r with conditions := order }

theorem Rule.check_of_free {r : Rule} (hfree : r.condition = none) (v : Value) (s : Scope) :
    r.check v s = Condition.checkAll r.conditions v s := by
  rw [check, activeConditions, hfree]

/-- A rule without a single condition applies in every order of its conditions if
all of them hold. Otherwise it is refused in every order, and two orders that
differ in the outcome have it from two conditions that differ in theirs; the
outcome of each condition that does not hold is that of some order. -/
theorem Rule.check_reordered {r : Rule} (hfree : r.condition = none) (v : Value) (s : Scope) :
    ((r.check v s).1 = .ok true ↔ ∀ c ∈ r.conditions, (c.check v s).1 = .ok true) ∧
    (∀ order : List Condition, order.Perm r.conditions →
      ((r.reordered order).check v s).2 = (r.check v s).2 ∧
      (((r.reordered order).check v s).1 = .ok true ↔ (r.check v s).1 = .ok true) ∧
      ((r.check v s).1 ≠ .ok true →
        Refused (r.check v s).1 ∧ Refused ((r.reordered order).check v s).1 ∧
        ((r.check v s).1 ≠ ((r.reordered order).check v s).1 →
          ∃ c ∈ r.conditions, ∃ c' ∈ r.conditions, c ≠ c' ∧
            (c.check v s).1 = (r.check v s).1 ∧
            (c'.check v s).1 = ((r.reordered order).check v s).1))) ∧
    ∀ c ∈ r.conditions, (c.check v s).1 ≠ .ok true →
      ∃ order : List Condition, order.Perm r.conditions ∧
        ((r.reordered order).check v s).1 = (c.check v s).1 := by
  have hreordered : ∀ order, (r.reordered order).check v s = Condition.checkAll order v s :=
    fun order => check_of_free (r := r.reordered order) hfree v s
  simp only [check_of_free hfree, hreordered]
  refine ⟨Condition.checkAll_eq_true_iff r.conditions, fun order hperm => ?_, fun c hc h => ?_⟩
  · have hverdict : (Condition.checkAll order v s).1 = .ok true ↔
        (Condition.checkAll r.conditions v s).1 = .ok true := by
      simp only [Condition.checkAll_eq_true_iff, hperm.mem_iff]
    refine ⟨?_, hverdict, fun h => ?_⟩
    · rw [Condition.checkAll_scope, Condition.checkAll_scope]
    · have h' : (Condition.checkAll order v s).1 ≠ .ok true := fun htrue => h (hverdict.mp htrue)
      refine ⟨refused_of_ne h, refused_of_ne h', fun hne => ?_⟩
      obtain ⟨c, hc, houtcome⟩ := Condition.exists_checkAll_eq h
      obtain ⟨c', hc', houtcome'⟩ := Condition.exists_checkAll_eq h'
      refine ⟨c, hc, c', hperm.mem_iff.mp hc', ?_, houtcome, houtcome'⟩
      rintro rfl
      exact hne (houtcome.symm.trans houtcome')
  · exact Condition.exists_perm_checkAll_eq hc h

/-- A rule for texts that pass a check, which the other way round fails on the
values that are no texts. -/
def wordRule : Rule := { conditions := [.type .string, .expression (.check {})] }

theorem check_wordRule :
    wordRule.check (.int 5) (.seeded .empty 0) = (.ok false, .seeded .empty 0) ∧
    (wordRule.reordered [.expression (.check {}), .type .string]).check (.int 5)
      (.seeded .empty 0) =
        (.error ⟨.check, .typeMismatch .string (some .int)⟩, .seeded .empty 0) ∧
    (wordRule.reordered [.expression (.check {}), .type .string]).check (.string "ab")
      (.seeded .empty 0) = (.ok true, .seeded .empty 0) ∧
    ∃ c ∈ wordRule.conditions, ∃ c' ∈ wordRule.conditions, c ≠ c' ∧
      (c.check (.int 5) (.seeded .empty 0)).1 = .ok false ∧
      (c'.check (.int 5) (.seeded .empty 0)).1 =
        .error ⟨.check, .typeMismatch .string (some .int)⟩ := by
  have hswap : [Condition.expression (.check {}), .type .string].Perm wordRule.conditions :=
    .swap _ _ _
  obtain ⟨_, hrefused, _⟩ := Rule.check_reordered (r := wordRule) rfl (.int 5) (.seeded .empty 0)
  obtain ⟨_, happlies, _⟩ :=
    Rule.check_reordered (r := wordRule) rfl (.string "ab") (.seeded .empty 0)
  have hdiffers := ((hrefused _ hswap).2.2 (fun h => nomatch h)).2.2 (fun h => nomatch h)
  exact ⟨rfl, rfl, Prod.ext ((happlies _ hswap).2.1.mpr rfl) rfl, hdiffers⟩

end Order

section Gates

variable {v : Value} {s : Scope}

/-- The types of the values for which expressions of a kind answer yes or no. -/
def ExpressionKind.accepts : ExpressionKind → ValueType → Bool
  | .compare, .int | .compare, .float | .compare, .string | .compare, .list
  | .compare, .enum _ => true
  | .count, .string | .count, .list => true
  | .check, .string => true
  | _, _ => false

theorem ExpressionKind.isCondition_of_accepts {kind : ExpressionKind} {t : ValueType}
    (h : kind.accepts t = true) : kind.isCondition = true := by
  cases kind with
  | compare => rfl
  | count => rfl
  | check => rfl
  | _ => simp [accepts] at h

/-- A condition is decided by an expression that has a value. -/
theorem Condition.exists_check_iff {e : Expression} (he : e.isCondition = true) :
    (∃ holds, (Condition.expression e).check v s = (.ok holds, s)) ↔
      ∃ x, (e.attempt v s).1 = .ok x := by
  rw [check_expression v s he, Expression.evaluate_scope (Expression.kind_ne_random he),
    Expression.evaluate_eq]
  cases (e.attempt v s).1 with
  | error cause =>
    constructor
    · rintro ⟨_, h⟩
      cases h
    · rintro ⟨_, h⟩
      cases h
  | ok x => exact ⟨fun _ => ⟨x, rfl⟩, fun _ => ⟨x == .bool true, rfl⟩⟩

/-- An expression in a condition answers for the values of the types that it
accepts, and fails on all others. -/
theorem Expression.answers_iff (e : Expression) :
    (∃ holds, (Condition.expression e).check v s = (.ok holds, s)) ↔
      ∃ t, v.type? = some t ∧ e.kind.accepts t = true := by
  by_cases he : e.isCondition = true
  · rw [Condition.exists_check_iff he]
    cases e with
    | compare b =>
      cases v <;> simp [attempt, Bounds.evaluate, Value.requireNumber, Value.number?,
        Except.map, Value.type?, kind, ExpressionKind.accepts]
    | count b =>
      cases v <;> simp [attempt, Bounds.evaluateCount, Value.count?, Value.type?, kind,
        ExpressionKind.accepts]
    | check c =>
      cases v <;> simp [attempt, TextCheck.evaluate, Value.requireText, Except.map,
        Value.type?, kind, ExpressionKind.accepts]
    | _ => cases he
  · constructor
    · rintro ⟨holds, h⟩
      simp [Condition.check, he] at h
    · rintro ⟨t, _, haccepts⟩
      exact absurd (ExpressionKind.isCondition_of_accepts haccepts) he

/-- No expression is the single condition, and each one in the list comes after a
type that it accepts. -/
structure Rule.Gated (r : Rule) : Prop where
  single : ∀ e, r.condition ≠ some (.expression e)
  listed : ∀ k e, r.conditions[k]? = some (.expression e) →
    ∃ t, .type t ∈ r.conditions.take k ∧ e.kind.accepts t = true

theorem Condition.type?_of_check {t : ValueType}
    (h : (Condition.type t).check v s = (.ok true, s)) : v.type? = some t := by
  have htype : (v.type? == some t) = true := Except.ok.inj (congrArg Prod.fst h)
  exact eq_of_beq htype

/-- What is asked before an expression fails has let the value through. -/
theorem Rule.Gated.exists_check {r : Rule} (h : r.Gated) (v : Value) (s : Scope) :
    ∃ applies, r.check v s = (.ok applies, s) := by
  cases hcheck : (r.check v s).1 with
  | ok applies => exact ⟨applies, Rule.check_eq hcheck⟩
  | error err =>
    exfalso
    obtain ⟨k, c, hk, hheld, hc⟩ :=
      (Condition.checkAll_eq_error_iff r.activeConditions).mp (Rule.check_eq hcheck)
    obtain ⟨e, rfl, _⟩ := Condition.blamedOn_of_check hc
    cases hsingle : r.condition with
    | some c =>
      rw [Rule.activeConditions, hsingle] at hk
      obtain rfl := List.mem_singleton.mp (List.mem_of_getElem? hk)
      exact h.single e hsingle
    | none =>
      rw [Rule.activeConditions, hsingle] at hk hheld
      obtain ⟨t, ht, haccepts⟩ := h.listed k e hk
      have htype := Condition.type?_of_check (hheld _ ht)
      obtain ⟨holds, hanswers⟩ := (e.answers_iff (s := s)).mpr ⟨t, htype, haccepts⟩
      cases hanswers.symm.trans hc

namespace Converter

/-- A list of rules that all decide is searched to an end. -/
theorem exists_search {rules : List Rule}
    (h : ∀ r ∈ rules, ∃ applies, r.check v s = (.ok applies, s)) :
    ∃ found, search rules v s = (.ok found, s) := by
  rcases declined_or_split rules v s with hrules | ⟨before, r, after, rfl, hbefore, hr⟩
  · exact ⟨none, search_of_declined hrules⟩
  · obtain ⟨applies, hcheck⟩ := h r (List.mem_append_right _ List.mem_cons_self)
    rw [hcheck] at hr
    cases applies with
    | false => exact absurd rfl hr
    | true =>
      refine ⟨some (before.length, r), ?_⟩
      rw [search_split hbefore, searchFrom, hcheck]

/-- Rules whose expressions stand behind types that they accept find out for every
value whether one of them applies. A conversion fails only in the outputs of the
rule that does. -/
theorem search_of_gated {rules : List Rule} (hgated : ∀ r ∈ rules, r.Gated) (v : Value)
    (s : Scope) :
    (∃ found, search rules v s = (.ok found, s)) ∧
    ∀ e s', convert ⟨rules⟩ v s = (.error e, s') ↔
      ∃ i r, search rules v s = (.ok (some (i, r)), s) ∧ r.convert v s = (.error e, s') := by
  obtain ⟨found, hfound⟩ := exists_search fun r hr => (hgated r hr).exists_check v s
  refine ⟨⟨found, hfound⟩, fun e s' => ?_⟩
  rw [convert_eq, hfound]
  cases found with
  | none => simp
  | some found =>
    obtain ⟨i, r⟩ := found
    simp only [Prod.mk.injEq, Except.ok.injEq, Option.some.injEq, and_true]
    constructor
    · intro h
      exact ⟨i, r, ⟨rfl, rfl⟩, h⟩
    · rintro ⟨_, _, ⟨rfl, rfl⟩, h⟩
      exact h

/-- Large numbers change their sign, and words with a given initial letter are
replaced by the first item of the list that they are not. -/
def signRules : List Rule :=
  [{ conditions := [.type .int, .expression (.compare { greaterThan := some (.ofNat 3) })]
     outputs := [.expression .negate] },
   { condition := some (.type .char) },
   { conditions := [.type .string, .expression (.check { startsWith := some "a" })]
     outputs := [.expression (.lookup { index := some 0 })] }]

theorem gated_pair {t : ValueType} {e : Expression} (h : e.kind.accepts t = true)
    (outputs : List Output) :
    Rule.Gated { conditions := [.type t, .expression e], outputs := outputs } := by
  refine ⟨fun _ h => (nomatch h), fun k e' hk => ?_⟩
  match k with
  | 0 => cases hk
  | 1 =>
    cases hk
    exact ⟨t, List.mem_cons_self, h⟩
  | k + 2 => cases hk

theorem search_signRules :
    (∀ r ∈ signRules, r.Gated) ∧
    (∃ found, search signRules (.list []) (.seeded .empty 0) =
      (.ok found, .seeded .empty 0)) ∧
    ∃ i r, search signRules (.string "ab") (.seeded .empty 0) =
        (.ok (some (i, r)), .seeded .empty 0) ∧
      r.convert (.string "ab") (.seeded .empty 0) =
        (.error ⟨.lookup, .typeMismatch .indexableList (some .string)⟩, .seeded .empty 0) := by
  have hgated : ∀ r ∈ signRules, r.Gated := by
    simp only [signRules, List.forall_mem_cons]
    refine ⟨gated_pair rfl _, ⟨fun _ h => (nomatch h), fun _ _ hk => (nomatch hk)⟩,
      gated_pair rfl _, fun r hr => absurd hr List.not_mem_nil⟩
  have hlist := search_of_gated hgated (.list []) (.seeded .empty 0)
  have hword := search_of_gated hgated (.string "ab") (.seeded .empty 0)
  exact ⟨hgated, hlist.1, (hword.2 _ _).mp rfl⟩

end Converter

end Gates

end ConversionRules
