import ConversionRules.Proofs.Call.Names
import ConversionRules.Proofs.Document.Parsing
import ConversionRules.Proofs.Expression.MemberNames

/-!
Calls that convert to an enum type. The definition that is kept with such a call
is the one that its names lead to, so nothing changes if it is left out and the
names are looked up again. A call that gives the type as a word converts to this
type, and what it converts to is not changed by converting it again.
-/
namespace ConversionRules

namespace Enumeration

variable {types : Registry}

/-- The same conversion, with the definition of its type left out. -/
def withoutDefinition (x : Enumeration) : Enumeration := { x with definition := none }

theorem target_eq_ok_iff {x : Enumeration} {t : EnumType} (h : x.definition = none) :
    x.target types = .ok t ↔ ∃ name, x.targetName = .ok name ∧ types.find? name = some t := by
  unfold target
  rw [h]
  cases x.targetName with
  | error cause => simp
  | ok name => cases hfind : types.find? name <;> simp [hfind]

theorem evaluate_congr {x x' : Enumeration} (htarget : x.target types = x'.target types)
    (hvalue : x.value = x'.value) (v : Value) : x.evaluate types v = x'.evaluate types v := by
  rw [evaluate, evaluate, htarget, hvalue]

end Enumeration

theorem Expression.evaluate_enum_congr {x x' : Enumeration} {s : Scope}
    (htarget : x.target s.types = x'.target s.types) (hvalue : x.value = x'.value) (v : Value) :
    (Expression.enum x).evaluate v s = (Expression.enum x').evaluate v s := by
  rw [evaluate_eq, evaluate_eq, attempt, attempt, Enumeration.evaluate_congr htarget hvalue]
  rfl

namespace Call

variable {types : Registry} {c : Call} {x : Enumeration}

/-- A call names the enum type that is looked up for its expression. -/
theorem namesEnumType_iff {name : String} :
    NamesEnumType x.enumType x.typeName name ↔ x.targetName = .ok name := by
  obtain ⟨_, enumType, typeName, _⟩ := x
  constructor
  · intro h
    cases h with
    | type => rfl
    | text => rfl
  · intro h
    simp only [Enumeration.targetName] at h
    split at h
    · cases h
      exact .type _ _
    · cases h
    · cases h
      exact .text _
    · cases h

/-- The definition of a call is the one that is found without it. -/
theorem definition_eq_some_iff (h : c.IsExpression types (.enum x)) (t : EnumType) :
    x.definition = some t ↔ x.withoutDefinition.target types = .ok t := by
  obtain ⟨-, -, -, hdefines⟩ := h.fields
  rw [hdefines t, Enumeration.target_eq_ok_iff rfl]
  simp only [namesEnumType_iff]
  rfl

theorem target_withoutDefinition (h : c.IsExpression types (.enum x)) :
    x.target types = x.withoutDefinition.target types := by
  cases hdefinition : x.definition with
  | none => rw [Enumeration.withoutDefinition, ← hdefinition]
  | some t =>
    rw [(definition_eq_some_iff h t).mp hdefinition, Enumeration.target, hdefinition]

theorem evaluate_withoutDefinition (h : c.IsExpression types (.enum x)) (v : Value) {s : Scope}
    (hs : s.types = types) :
    (Expression.enum x).evaluate v s = (Expression.enum x.withoutDefinition).evaluate v s := by
  subst hs
  exact Expression.evaluate_enum_congr (target_withoutDefinition h) rfl v

/-- The definition that is kept with a call is the one that its names lead to.
Leaving it out changes neither a result nor an error, whichever parameters the
call gives and wherever it stands in a document. -/
theorem evaluate_enum_without_definition (types : Registry) :
    (∀ (c : Call) rule x, c.expression types rule = .ok (.enum x) →
      (∀ t, x.definition = some t ↔ x.withoutDefinition.target types = .ok t) ∧
      ∀ v s, s.types = types →
        (Expression.enum x).evaluate v s = (Expression.enum x.withoutDefinition).evaluate v s) ∧
    ∀ input c, Converter.ofText input types = .ok c → ∀ r ∈ c.rules, ∀ x,
      (.expression (.enum x) ∈ r.allConditions ∨ .expression (.enum x) ∈ r.allOutputs) →
      ∀ v s, s.types = types →
        (Expression.enum x).evaluate v s = (Expression.enum x.withoutDefinition).evaluate v s := by
  constructor
  · intro c rule x hc
    have hexpression := (isExpression_iff types rule c _).mp hc
    exact ⟨definition_eq_some_iff hexpression,
      fun v s hs => evaluate_withoutDefinition hexpression v hs⟩
  · intro input c hc r hr x hplace v s hs
    obtain ⟨d, _, hdenotes, horder⟩ := (Converter.ofText_eq_ok_iff types input c).mp hc
    rcases hplace with hcondition | houtput
    · have hgate := horder.isCondition r hr _ (Converter.mem_allConditions.mp hcondition)
      cases hgate
    · obtain ⟨call, _, hexpression⟩ := hdenotes.exists_call hr houtput
      exact evaluate_withoutDefinition hexpression v hs

/-- The second type of the name replaces the first one. -/
def gradeTypes : List EnumType :=
  [⟨"Grade", [("low", 0)], false⟩, ⟨"int", [("one", 1)], false⟩,
    ⟨"Grade", [("fail", 0), ("pass", 1)], false⟩]

/-- The type is given both as a word and, unknown, as a text. -/
def gradeText : String :=
  "rule grade:\n  then enum(type_name = \"Mark\", type = Grade, value = pass)"

def gradeDocument : Document :=
  ⟨[⟨some "grade", [⟨.thenClause, .call "enum" [("type_name", .literal (.string "Mark")),
    ("type", .word "Grade"), ("value", .word "pass")]⟩]⟩]⟩

def passGrade : Enumeration :=
  { definition := some ⟨"Grade", [("fail", 0), ("pass", 1)], false⟩
    enumType := some (.enum "Grade")
    typeName := some "Mark"
    value := some (.string "pass") }

def nullGrade : Enumeration := { passGrade with typeName := none, value := some .null }

def anyGrade : Enumeration := { passGrade with typeName := some "int", value := none }

def gradeRules : List Rule :=
  [{ name := some "grade", outputs := [.expression (.enum passGrade)] }]

theorem ofText_gradeText :
    Converter.ofText gradeText (.ofList gradeTypes) = .ok ⟨gradeRules⟩ := by
  have hspells : gradeDocument.Spells Spelling.Escaped _ :=
    .cons (.mk (.cons (.mk (.call (by decide) (by decide)
      (.cons (.mk (.literal (.string rfl))) (.cons (.mk (.word (by decide)))
        (.cons (.mk (.word (by decide))) .nil))))) .nil)) .nil
  have hparse : Document.parse gradeText = .ok gradeDocument := by
    refine Spelling.document_of_rendering (fun _ _ => Spelling.standsFor_of_escaped) hspells ?_
    exact ⟨[], by decide +kernel, .nothing []⟩
  simp only [Converter.ofText, hparse]
  rfl

/-- A value and an error that are the same without the definition. -/
theorem evaluate_gradeRules :
    Converter.ofText gradeText (.ofList gradeTypes) = .ok ⟨gradeRules⟩ ∧
    (Expression.enum passGrade.withoutDefinition).evaluate .null
      (.seeded (.ofList gradeTypes) 0) =
        (.ok (.enum ⟨"Grade", some "pass", 1⟩), .seeded (.ofList gradeTypes) 0) ∧
    (Call.mk "enum" [("value", .literal .null), ("type", .word "Grade")]).expression
      (.ofList gradeTypes) "grade" = .ok (.enum nullGrade) ∧
    (Expression.enum nullGrade.withoutDefinition).evaluate (.int 1)
      (.seeded (.ofList gradeTypes) 0) =
        (.error ⟨.enum, .unparsable "" "Grade"⟩, .seeded (.ofList gradeTypes) 0) := by
  have hcall : (Call.mk "enum" [("value", .literal .null), ("type", .word "Grade")]).expression
      (.ofList gradeTypes) "grade" = .ok (.enum nullGrade) := rfl
  have hplace : .expression (.enum passGrade) ∈
      (gradeRules.head (List.cons_ne_nil _ _)).allOutputs := List.mem_cons_self
  obtain ⟨hcalls, hrules⟩ := evaluate_enum_without_definition (.ofList gradeTypes)
  have hpass := hrules _ _ ofText_gradeText _ List.mem_cons_self _ (Or.inr hplace) .null
    (.seeded (.ofList gradeTypes) 0) rfl
  have hnull := (hcalls _ _ _ hcall).2 (.int 1) (.seeded (.ofList gradeTypes) 0) rfl
  exact ⟨ofText_gradeText, hpass.symm.trans rfl, hcall, hnull.symm.trans rfl⟩

section Registered

variable {name : String}

theorem enumType_of_mem (h : c.IsExpression types (.enum x)) (harg : ("type", .word name) ∈ c.args)
    (hname : types.resolve? name = some (.enum name)) : x.enumType = some (.enum name) := by
  obtain ⟨htype, -⟩ := h.fields
  have hlookup := (lookup_eq_some_iff h.distinct "type" _).mpr harg
  obtain ⟨_, ⟨hword⟩, htype⟩ := (Given.of_lookup h.distinct hlookup _).mp htype
  cases hname.symm.trans hword
  exact htype

theorem target_of_mem (h : c.IsExpression types (.enum x)) (harg : ("type", .word name) ∈ c.args)
    (hname : types.resolve? name = some (.enum name)) {t : EnumType}
    (ht : types.find? name = some t) (types' : Registry) : x.target types' = .ok t := by
  obtain ⟨-, -, -, hdefines⟩ := h.fields
  rw [enumType_of_mem h harg hname] at hdefines
  have hdefinition : x.definition = some t := (hdefines t).mpr ⟨name, .type _ _, ht⟩
  rw [Enumeration.target, hdefinition]

theorem expression_typed (hname : types.resolve? name = some (.enum name)) {t : EnumType}
    (ht : types.find? name = some t) (rule : String) :
    (Call.mk "enum" [("type", .word name)]).expression types rule =
      .ok (.enum { definition := some t, enumType := some (.enum name) }) := by
  refine (isExpression_iff types rule _ _).mpr ⟨List.nodup_singleton _, rfl, ?_, ?_⟩
  · exact List.forall_mem_singleton.mpr List.mem_cons_self
  · refine ⟨⟨_, List.mem_cons_self, .word hname⟩, ?_, ?_, (isDefinition_iff _ _ _ _).mpr ht.symm⟩
    · simp [Given]
    · simp [Given]

end Registered

/-- A name that resolves to an enum type, after any registrations, is that of the
type registered last under it. A call that gives the name as its type converts
to values of this type, which the condition of the type finds and which the call
itself does not change any more. -/
theorem evaluate_registered_enum {es : List EnumType} {name type : String}
    (hname : (Registry.ofList es).resolve? name = some (.enum type)) (rule : String) :
    (∃ t, (es.reverse.find? fun e => e.name == name) = some t ∧
      (Call.mk "enum" [("type", .word name)]).expression (.ofList es) rule =
        .ok (.enum { definition := some t, enumType := some (.enum name) })) ∧
    (Term.typeRef name).condition (.ofList es) rule = .ok (.type (.enum name)) ∧
    ∀ (c : Call) e, c.name = "enum" → ("type", .word name) ∈ c.args →
      c.expression (.ofList es) rule = .ok e → ∀ v s x s', e.evaluate v s = (.ok x, s') →
        (∃ y, x = .enum y) ∧ x.type? = some (.enum name) ∧
        (∀ u, (Condition.type (.enum name)).check x u = (.ok true, u)) ∧
        ∀ u, e.evaluate x u = (.ok x, u) := by
  obtain ⟨rfl, t, ht⟩ := Registry.find?_of_resolve? hname
  refine ⟨⟨t, ?_, expression_typed hname ht rule⟩, ?_, ?_⟩
  · rw [← Registry.find?_ofList, ht]
  · exact (Term.condition_eq_ok_iff _ rule _ _).mpr (.type hname)
  · intro c e hcall harg hc v s x s' hx
    have hexpression := (isExpression_iff _ rule c e).mp hc
    have hkind : e.kind = .enum := callName_injective (hexpression.name.symm.trans hcall)
    cases e with
    | enum x =>
      have htarget := target_of_mem hexpression harg hname ht
      obtain ⟨_, y, hy, rfl⟩ := (Expression.evaluate_enum_eq_ok_iff (htarget _)).mp hx
      have htype : (Value.enum y).type? = some (.enum name) := by
        rw [Value.type?, (EnumType.parse?_eq_some_iff.mp hy).typeName_eq, Registry.name_of_find? ht]
      refine ⟨⟨y, rfl⟩, htype, fun u => ?_, fun u => ?_⟩
      · rw [Condition.check, htype, beq_self_eq_true]
      · exact (Expression.evaluate_enum_eq_ok_iff (htarget _)).mpr
          ⟨rfl, y, EnumType.parse?_again hy, rfl⟩
    | _ => cases hkind

/-- The call names another type as well, and the declaration that was replaced
had another member with the ordinal. -/
theorem evaluate_anyGrade :
    (Registry.ofList gradeTypes).resolve? "Grade" = some (.enum "Grade") ∧
    (Call.mk "enum" [("type_name", .literal (.string "int")), ("type", .word "Grade")]).expression
      (.ofList gradeTypes) "grade" = .ok (.enum anyGrade) ∧
    (Expression.enum anyGrade).evaluate (.int 0) (.seeded .empty 0) =
      (.ok (.enum ⟨"Grade", some "fail", 0⟩), .seeded .empty 0) ∧
    (Condition.type (.enum "Grade")).check (.enum ⟨"Grade", some "fail", 0⟩) (.seeded .empty 0) =
      (.ok true, .seeded .empty 0) ∧
    (Expression.enum anyGrade).evaluate (.enum ⟨"Grade", some "fail", 0⟩) (.seeded .empty 7) =
      (.ok (.enum ⟨"Grade", some "fail", 0⟩), .seeded .empty 7) := by
  have hname : (Registry.ofList gradeTypes).resolve? "Grade" = some (.enum "Grade") := rfl
  have hcall : (Call.mk "enum" [("type_name", .literal (.string "int")),
      ("type", .word "Grade")]).expression (.ofList gradeTypes) "grade" =
        .ok (.enum anyGrade) := rfl
  have hfail : (Expression.enum anyGrade).evaluate (.int 0) (.seeded .empty 0) =
      (.ok (.enum ⟨"Grade", some "fail", 0⟩), .seeded .empty 0) := rfl
  obtain ⟨_, _, hvalues⟩ := evaluate_registered_enum hname "grade"
  obtain ⟨_, _, hcheck, hagain⟩ := hvalues _ _ rfl (List.mem_cons_of_mem _ List.mem_cons_self)
    hcall _ _ _ _ hfail
  exact ⟨hname, hcall, hfail, hcheck _, hagain _⟩

end Call

end ConversionRules
