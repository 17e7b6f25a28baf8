import Mathlib.Tactic.MkIffOfInductiveProp
import ConversionRules.Proofs.Document.Denotation

/-!
The clauses of a written rule. The terms of each kind of clause fill a part of the
rule of their own, in the order in which they are written, whatever clauses of the
other kinds stand between them. A rule has at most one term for each single part.
-/
namespace ConversionRules

/-- The terms of the clauses of a kind, in the order in which they are written. -/
def Clause.terms (kind : ClauseKind) (clauses : List Clause) : List Term :=
  (clauses.filter fun c => c.kind == kind).map Clause.term

theorem Clause.mem_terms {kind : ClauseKind} {clauses : List Clause} {t : Term} :
    t ∈ terms kind clauses ↔ (⟨kind, t⟩ : Clause) ∈ clauses := by
  simp only [terms, List.mem_map, List.mem_filter, beq_iff_eq]
  constructor
  · rintro ⟨⟨_, _⟩, ⟨hc, rfl⟩, rfl⟩
    exact hc
  · intro hc
    exact ⟨_, ⟨hc, rfl⟩, rfl⟩

section Outcomes

variable {ε α β : Type} {f : α → Except ε β} {as : List α}

theorem exists_map_ok_iff :
    (∃ bs : List β, bs.map Except.ok = as.map f) ↔ ∀ a ∈ as, ∃ b, f a = .ok b := by
  induction as with
  | nil => exact ⟨fun _ a ha => absurd ha List.not_mem_nil, fun _ => ⟨[], rfl⟩⟩
  | cons a as ih =>
    rw [List.forall_mem_cons, ← ih]
    constructor
    · rintro ⟨bs, hbs⟩
      cases bs with
      | nil => cases hbs
      | cons b bs =>
        obtain ⟨hb, hrest⟩ := List.cons.inj hbs
        exact ⟨⟨b, hb.symm⟩, bs, hrest⟩
    · rintro ⟨⟨b, hb⟩, bs, hbs⟩
      exact ⟨b :: bs, by rw [List.map_cons, List.map_cons, hb, hbs]⟩

theorem exists_toList_map_ok_iff :
    (∃ o : Option β, o.toList.map Except.ok = as.map f) ↔
      (∀ a ∈ as, ∃ b, f a = .ok b) ∧ as.length ≤ 1 := by
  rw [← exists_map_ok_iff]
  constructor
  · rintro ⟨o, ho⟩
    refine ⟨⟨o.toList, ho⟩, ?_⟩
    have hlength := congrArg List.length ho
    simp only [List.length_map] at hlength
    rw [← hlength]
    exact Option.length_toList_le
  · rintro ⟨⟨bs, hbs⟩, hlength⟩
    have hsame := congrArg List.length hbs
    simp only [List.length_map] at hsame
    match bs with
    | [] => exact ⟨none, hbs⟩
    | [b] => exact ⟨some b, hbs⟩
    | _ :: _ :: _ => simp only [List.length_cons] at hsame; omega

variable {x : Except ε β} {rest : List (Except ε β)}

theorem map_ok_inj {bs bs' : List β} :
    (bs.map Except.ok : List (Except ε β)) = bs'.map Except.ok ↔ bs = bs' :=
  List.map_inj_right fun _ _ h => Except.ok.inj h

theorem toList_inj {o o' : Option β} : o.toList = o'.toList ↔ o = o' := by
  constructor
  · intro h
    have hhead := congrArg List.head? h
    rwa [Option.head?_toList, Option.head?_toList] at hhead
  · rintro rfl
    rfl

/-- An outcome among others that are all in order. -/
theorem exists_ok_of_map_ok_eq {bs bs' : List β}
    (h : bs'.map Except.ok = bs.map Except.ok ++ x :: rest) : ∃ b, x = .ok b := by
  have hx : x ∈ bs'.map Except.ok := by
    rw [h]
    exact List.mem_append_right _ List.mem_cons_self
  obtain ⟨b, _, rfl⟩ := List.mem_map.mp hx
  exact ⟨b, rfl⟩

theorem eq_none_of_map_ok_eq {o o' : Option β}
    (h : o'.toList.map Except.ok = o.toList.map Except.ok ++ x :: rest) : o = none := by
  cases o with
  | none => rfl
  | some b =>
    have hlength := congrArg List.length h
    have hle : o'.toList.length ≤ 1 := Option.length_toList_le
    simp only [List.length_map, List.length_append, List.length_cons, Option.toList_some,
      List.length_nil] at hlength
    omega

end Outcomes

section Parts

variable (types : Registry) (label : String)

/-- What clauses add to the parts of a rule. -/
@[mk_iff]
structure Rule.Gains (r : Rule) (clauses : List Clause) (r' : Rule) : Prop where
  name : r'.name = r.name
  conditions : r'.conditions.map Except.ok = r.conditions.map Except.ok ++
    (Clause.terms .whenClause clauses).map fun t => t.condition types label
  condition : r'.condition.toList.map Except.ok = r.condition.toList.map Except.ok ++
    (Clause.terms .ifClause clauses).map fun t => t.condition types label
  outputs : r'.outputs.map Except.ok = r.outputs.map Except.ok ++
    (Clause.terms .thenClause clauses).map fun t => t.output types label
  output : r'.output.toList.map Except.ok = r.output.toList.map Except.ok ++
    (Clause.terms .yieldClause clauses).map fun t => t.output types label

theorem Rule.gains_nil_iff (r r' : Rule) : r.Gains types label [] r' ↔ r' = r := by
  obtain ⟨name, condition, conditions, output, outputs⟩ := r
  obtain ⟨name', condition', conditions', output', outputs'⟩ := r'
  simp only [gains_iff, Clause.terms, List.filter_nil, List.map_nil, List.append_nil,
    map_ok_inj, toList_inj, mk.injEq]
  grind

theorem Rule.gains_cons_iff_of_takes {r r₁ r' : Rule} {c : Clause} {rest : List Clause}
    (h : r.Takes types c r₁) :
    r.Gains types label (c :: rest) r' ↔ r₁.Gains types label rest r' := by
  rw [gains_iff, gains_iff]
  cases h with
  | whenClause hx =>
    have hterm := (Term.condition_eq_ok_iff types label _ _).mpr hx
    simp [Clause.terms, hterm]
  | ifClause hfree hx =>
    have hterm := (Term.condition_eq_ok_iff types label _ _).mpr hx
    simp [Clause.terms, hterm, hfree]
  | thenClause hx =>
    have hterm := (Term.output_eq_ok_iff types label _ _).mpr hx
    simp [Clause.terms, hterm]
  | yieldClause hfree hx =>
    have hterm := (Term.output_eq_ok_iff types label _ _).mpr hx
    simp [Clause.terms, hterm, hfree]

theorem Rule.exists_takes_of_gains {r r' : Rule} {c : Clause} {rest : List Clause}
    (h : r.Gains types label (c :: rest) r') : ∃ r₁, r.Takes types c r₁ := by
  obtain ⟨kind, t⟩ := c
  cases kind with
  | whenClause =>
    obtain ⟨x, hx⟩ := exists_ok_of_map_ok_eq h.conditions
    exact ⟨_, .whenClause ((Term.condition_eq_ok_iff types label t x).mp hx)⟩
  | ifClause =>
    obtain ⟨x, hx⟩ := exists_ok_of_map_ok_eq h.condition
    have hfree := eq_none_of_map_ok_eq h.condition
    exact ⟨_, .ifClause hfree ((Term.condition_eq_ok_iff types label t x).mp hx)⟩
  | thenClause =>
    obtain ⟨x, hx⟩ := exists_ok_of_map_ok_eq h.outputs
    exact ⟨_, .thenClause ((Term.output_eq_ok_iff types label t x).mp hx)⟩
  | yieldClause =>
    obtain ⟨x, hx⟩ := exists_ok_of_map_ok_eq h.output
    have hfree := eq_none_of_map_ok_eq h.output
    exact ⟨_, .yieldClause hfree ((Term.output_eq_ok_iff types label t x).mp hx)⟩

theorem Rule.gains_cons_iff (r r' : Rule) (c : Clause) (rest : List Clause) :
    r.Gains types label (c :: rest) r' ↔
      ∃ r₁, r.Takes types c r₁ ∧ r₁.Gains types label rest r' := by
  constructor
  · intro h
    obtain ⟨r₁, hc⟩ := exists_takes_of_gains types label h
    exact ⟨r₁, hc, (gains_cons_iff_of_takes types label hc).mp h⟩
  · rintro ⟨r₁, hc, hrest⟩
    exact (gains_cons_iff_of_takes types label hc).mpr hrest

theorem Rule.takesAll_iff_gains (r r' : Rule) (clauses : List Clause) :
    r.TakesAll types clauses r' ↔ r.Gains types label clauses r' := by
  induction clauses generalizing r with
  | nil =>
    rw [gains_nil_iff]
    constructor
    · rintro ⟨⟩
      rfl
    · rintro rfl
      exact .nil _
  | cons c rest ih =>
    rw [gains_cons_iff]
    constructor
    · intro h
      cases h with
      | cons hc hrest => exact ⟨_, hc, (ih _).mp hrest⟩
    · rintro ⟨r₁, hc, hrest⟩
      exact .cons hc ((ih r₁).mpr hrest)

end Parts

/-- How messages refer to the written rule at an index. -/
def WrittenRule.label (w : WrittenRule) (index : Nat) : String :=
  Rule.label { name := w.name } index

/-- The term of a clause is what its place asks for. -/
def Clause.Fits (types : Registry) (label : String) (c : Clause) : Prop :=
  match c.kind with
  | .whenClause | .ifClause => ∃ x, c.term.condition types label = .ok x
  | .thenClause | .yieldClause => ∃ o, c.term.output types label = .ok o

/-- Each part of the rule is what the terms of its kind of clause denote. -/
structure WrittenRule.Fills (types : Registry) (label : String) (w : WrittenRule) (r : Rule) :
    Prop where
  name : r.name = w.name
  conditions : r.conditions.map Except.ok =
    (Clause.terms .whenClause w.clauses).map fun t => t.condition types label
  condition : r.condition.toList.map Except.ok =
    (Clause.terms .ifClause w.clauses).map fun t => t.condition types label
  outputs : r.outputs.map Except.ok =
    (Clause.terms .thenClause w.clauses).map fun t => t.output types label
  output : r.output.toList.map Except.ok =
    (Clause.terms .yieldClause w.clauses).map fun t => t.output types label

section Rules

variable (types : Registry) (label : String)

theorem forall_fits_iff (clauses : List Clause) :
    (∀ c ∈ clauses, c.Fits types label) ↔
      (∀ t ∈ Clause.terms .whenClause clauses, ∃ x, t.condition types label = .ok x) ∧
      (∀ t ∈ Clause.terms .ifClause clauses, ∃ x, t.condition types label = .ok x) ∧
      (∀ t ∈ Clause.terms .thenClause clauses, ∃ o, t.output types label = .ok o) ∧
      ∀ t ∈ Clause.terms .yieldClause clauses, ∃ o, t.output types label = .ok o := by
  simp only [Clause.mem_terms]
  constructor
  · intro h
    exact ⟨fun t ht => h _ ht, fun t ht => h _ ht, fun t ht => h _ ht, fun t ht => h _ ht⟩
  · rintro ⟨hwhen, hif, hthen, hyield⟩ ⟨kind, t⟩ hc
    cases kind with
    | whenClause => exact hwhen t hc
    | ifClause => exact hif t hc
    | thenClause => exact hthen t hc
    | yieldClause => exact hyield t hc

theorem WrittenRule.exists_fills_iff (w : WrittenRule) :
    (∃ r, w.Fills types label r) ↔
      (∀ c ∈ w.clauses, c.Fits types label) ∧
        (Clause.terms .ifClause w.clauses).length ≤ 1 ∧
        (Clause.terms .yieldClause w.clauses).length ≤ 1 := by
  rw [forall_fits_iff]
  constructor
  · rintro ⟨r, hname, hconditions, hcondition, houtputs, houtput⟩
    obtain ⟨hif, hifs⟩ := exists_toList_map_ok_iff.mp ⟨_, hcondition⟩
    obtain ⟨hyield, hyields⟩ := exists_toList_map_ok_iff.mp ⟨_, houtput⟩
    exact ⟨⟨exists_map_ok_iff.mp ⟨_, hconditions⟩, hif, exists_map_ok_iff.mp ⟨_, houtputs⟩,
      hyield⟩, hifs, hyields⟩
  · rintro ⟨⟨hwhen, hif, hthen, hyield⟩, hifs, hyields⟩
    obtain ⟨conditions, hconditions⟩ := exists_map_ok_iff.mpr hwhen
    obtain ⟨condition, hcondition⟩ := exists_toList_map_ok_iff.mpr ⟨hif, hifs⟩
    obtain ⟨outputs, houtputs⟩ := exists_map_ok_iff.mpr hthen
    obtain ⟨output, houtput⟩ := exists_toList_map_ok_iff.mpr ⟨hyield, hyields⟩
    exact ⟨⟨w.name, condition, conditions, output, outputs⟩, rfl, hconditions, hcondition,
      houtputs, houtput⟩

theorem WrittenRule.toRule_eq_ok_iff_fills (w : WrittenRule) (index : Nat) (r : Rule) :
    w.toRule types index = .ok r ↔ w.Fills types (w.label index) r := by
  rw [toRule_eq_ok_iff, Denotes, Rule.takesAll_iff_gains types (w.label index)]
  constructor
  · rintro ⟨hname, hconditions, hcondition, houtputs, houtput⟩
    exact ⟨hname, hconditions, hcondition, houtputs, houtput⟩
  · rintro ⟨hname, hconditions, hcondition, houtputs, houtput⟩
    exact ⟨hname, hconditions, hcondition, houtputs, houtput⟩

/-- Terms of which there is at most one are not put out of order. -/
theorem Clause.terms_eq_of_perm {clauses clauses' : List Clause} {kind : ClauseKind}
    (hperm : clauses'.Perm clauses) (hsingle : (terms kind clauses).length ≤ 1) :
    terms kind clauses' = terms kind clauses := by
  have hterms : (terms kind clauses').Perm (terms kind clauses) :=
    (hperm.filter fun c : Clause => c.kind == kind).map Clause.term
  match hts : terms kind clauses with
  | [] => exact List.perm_nil.mp (hts ▸ hterms)
  | [t] => exact List.perm_singleton.mp (hts ▸ hterms)
  | _ :: _ :: _ => simp [hts] at hsingle

variable {types label}

/-- A rule is filled in the same way by its clauses in another order. -/
theorem WrittenRule.Fills.of_perm {w w' : WrittenRule} {r : Rule} (h : w.Fills types label r)
    (hname : w'.name = w.name) (hperm : w'.clauses.Perm w.clauses)
    (hwhen : Clause.terms .whenClause w'.clauses = Clause.terms .whenClause w.clauses)
    (hthen : Clause.terms .thenClause w'.clauses = Clause.terms .thenClause w.clauses) :
    w'.Fills types label r := by
  obtain ⟨_, hifs, hyields⟩ := (w.exists_fills_iff types label).mp ⟨r, h⟩
  have hif := Clause.terms_eq_of_perm hperm hifs
  have hyield := Clause.terms_eq_of_perm hperm hyields
  constructor
  · rw [h.name, hname]
  · rw [h.conditions, hwhen]
  · rw [h.condition, hif]
  · rw [h.outputs, hthen]
  · rw [h.output, hyield]

end Rules

/-- A written rule denotes a rule exactly if every term fits its place and no
single part is given twice. Its parts are then those that the terms of each kind
of clause denote, in their order, so that clauses of different kinds can be
interleaved in any way. -/
theorem WrittenRule.toRule_filled (types : Registry) (index : Nat) (w : WrittenRule) :
    ((∃ r, w.toRule types index = .ok r) ↔
      (∀ c ∈ w.clauses, c.Fits types (w.label index)) ∧
        (Clause.terms .ifClause w.clauses).length ≤ 1 ∧
        (Clause.terms .yieldClause w.clauses).length ≤ 1) ∧
    (∀ r, w.toRule types index = .ok r ↔ w.Fills types (w.label index) r) ∧
    ∀ w' : WrittenRule, w'.name = w.name → w'.clauses.Perm w.clauses →
      Clause.terms .whenClause w'.clauses = Clause.terms .whenClause w.clauses →
      Clause.terms .thenClause w'.clauses = Clause.terms .thenClause w.clauses →
      ∀ r, w'.toRule types index = .ok r ↔ w.toRule types index = .ok r := by
  refine ⟨?_, w.toRule_eq_ok_iff_fills types index, fun w' hname hperm hwhen hthen r => ?_⟩
  · simp only [toRule_eq_ok_iff_fills]
    exact w.exists_fills_iff types _
  · have hlabel : w'.label index = w.label index := by rw [label, label, hname]
    rw [toRule_eq_ok_iff_fills, toRule_eq_ok_iff_fills, hlabel]
    exact ⟨fun h => h.of_perm hname.symm hperm.symm hwhen.symm hthen.symm,
      fun h => h.of_perm hname hperm hwhen hthen⟩

/-- A rule with every kind of clause, two of them for its list of conditions. -/
def mixedRule : WrittenRule :=
  ⟨some "mixed", [⟨.whenClause, .typeRef "int"⟩, ⟨.ifClause, .literal (.int 3)⟩,
    ⟨.thenClause, .call "negate" []⟩, ⟨.whenClause, .literal .null⟩,
    ⟨.yieldClause, .literal (.string "done")⟩]⟩

/-- The same rule with its last clause first. -/
def turnedRule : WrittenRule :=
  ⟨some "mixed", ⟨.yieldClause, .literal (.string "done")⟩ :: mixedRule.clauses.dropLast⟩

theorem toRule_turnedRule :
    turnedRule.clauses.Perm mixedRule.clauses ∧
    turnedRule.toRule .empty 0 =
      .ok
        { name := some "mixed"
          condition := some (.literal (.int 3))
          conditions := [.type .int, .literal .null]
          output := some (.literal (.string "done"))
          outputs := [.expression .negate] } := by
  have hperm : turnedRule.clauses.Perm mixedRule.clauses :=
    (List.perm_append_singleton _ mixedRule.clauses.dropLast).symm
  obtain ⟨_, _, hreordered⟩ := WrittenRule.toRule_filled .empty 0 mixedRule
  exact ⟨hperm, (hreordered turnedRule rfl hperm rfl rfl _).mpr rfl⟩

end ConversionRules
