import ConversionRules.Proofs.Cache.Acceptance
import ConversionRules.Proofs.Call.Names
import ConversionRules.Proofs.Converter.Scopes
import ConversionRules.Proofs.Document.Parsing

/-!
What the types of a scope mean to a converter that was read from a text. Words
that name types have been resolved when the text was read, so conversions come
to an unknown name, and depend on the types at all, only through calls that
give the name as a text.
-/
namespace ConversionRules

/-- The output looks no name up. -/
def Output.Resolved (o : Output) : Prop := ∀ e, o = .expression e → ∀ name, ¬ e.LooksUp name

section Outputs

variable {v : Value} {s : Scope}

theorem Output.apply_withTypes {o : Output} (h : o.Resolved) (types : Registry) :
    o.apply v (s.withTypes types) = ((o.apply v s).1, (o.apply v s).2.withTypes types) := by
  cases o with
  | literal x => rfl
  | expression e => exact Expression.evaluate_withTypes (h e rfl) v s types

theorem Output.applyAll_withTypes {outputs : List Output} (h : ∀ o ∈ outputs, o.Resolved)
    (types : Registry) :
    Output.applyAll outputs v (s.withTypes types) =
      ((Output.applyAll outputs v s).1, (Output.applyAll outputs v s).2.withTypes types) := by
  induction outputs generalizing v s with
  | nil => rfl
  | cons o rest ih =>
    obtain ⟨hfirst, hrest⟩ := List.forall_mem_cons.mp h
    rw [Output.applyAll, Output.applyAll, Output.apply_withTypes hfirst]
    cases o.apply v s with
    | mk outcome s' =>
      cases outcome with
      | error err => rfl
      | ok x => exact ih hrest

theorem Rule.activeOutputs_subset (r : Rule) : r.activeOutputs ⊆ r.allOutputs := by
  intro o ho
  unfold activeOutputs at ho
  unfold allOutputs
  cases houtput : r.output with
  | none =>
    rw [houtput] at ho
    exact ho
  | some o' =>
    rw [houtput] at ho
    exact List.mem_append_left _ ho

end Outputs

namespace Converter

theorem mem_of_search {rules : List Rule} {v : Value} {s : Scope} {i : Nat} {r : Rule}
    (h : (search rules v s).1 = .ok (some (i, r))) : r ∈ rules :=
  List.mem_of_getElem? (getElem?_of_search (Prod.ext h rfl : _ = (_, (search rules v s).2)))

theorem convert_withTypes {c : Converter} (h : ∀ r ∈ c.rules, ∀ o ∈ r.allOutputs, o.Resolved)
    (v : Value) (s : Scope) (types : Registry) :
    c.convert v (s.withTypes types) = ((c.convert v s).1, (c.convert v s).2.withTypes types) := by
  rw [convert_eq c.rules, convert_eq c.rules, search_eq v (s.withTypes types) s]
  cases hsearch : (search c.rules v s).1 with
  | error err => rfl
  | ok found =>
    cases found with
    | none => rfl
    | some found =>
      obtain ⟨i, r⟩ := found
      have houtputs : ∀ o ∈ r.activeOutputs, o.Resolved :=
        fun o ho => h r (mem_of_search hsearch) o (r.activeOutputs_subset ho)
      exact Output.applyAll_withTypes houtputs types

/-- Conversions with generators alike end alike, whatever the types. -/
def IgnoresTypes (c : Converter) : Prop :=
  ∀ v s s', s.generator = s'.generator →
    (c.convert v s).1 = (c.convert v s').1 ∧
      (c.convert v s).2.generator = (c.convert v s').2.generator

theorem ignoresTypes_of_resolved {c : Converter}
    (h : ∀ r ∈ c.rules, ∀ o ∈ r.allOutputs, o.Resolved) : c.IgnoresTypes := by
  intro v s s' hgenerator
  have hs : s' = s.withTypes s'.types := by
    rw [Scope.withTypes, hgenerator]
  rw [hs, convert_withTypes h]
  exact ⟨rfl, rfl⟩

theorem decode_of_inOrder {c : Converter} (hc : InOrder c.rules) {source : Option String}
    {bs : List UInt8} (h : Cache.encode? c source = some bs) : Cache.decode bs = .ok c := by
  obtain ⟨payload, rfl, hshort, rfl⟩ := Cache.encode?_eq_some h
  refine (Cache.decode_eq_ok_iff (Cache.checkedPayload_header _ hshort) c).mpr ?_
  exact ⟨_, [], (List.append_nil _).symm, Cache.payloadOf_encodePayload hc hshort⟩

/-- A converter whose calls are settled does not depend on the types it runs
with, nor does the one that is read back from its bytes. -/
theorem ignoresTypes_of_settled {input : String} {types : Registry} {d : Document}
    {c : Converter} (hparse : Document.parse input = .ok d)
    (hsettled : ∀ call ∈ d.calls, call.Settled types) (hc : ofText input types = .ok c) :
    c.IgnoresTypes ∧ ∀ source bs, Cache.encode? c source = some bs →
      ∃ c', Cache.decode bs = .ok c' ∧ c'.IgnoresTypes := by
  obtain ⟨d', hparse', hdenotes, horder⟩ := (ofText_eq_ok_iff types input c).mp hc
  cases hparse.symm.trans hparse'
  have hignores : c.IgnoresTypes := by
    refine ignoresTypes_of_resolved fun r hr o ho e he name => ?_
    obtain ⟨call, hcall, hexpression⟩ := hdenotes.exists_call hr (he ▸ ho)
    exact (hsettled call hcall).not_looksUp hexpression
  exact ⟨hignores, fun source bs hbs => ⟨c, decode_of_inOrder horder hbs, hignores⟩⟩

/-- The type is given as a word in one rule and as a text in the other. -/
def levelText : String :=
  "rule by_number:\n  when type(int)\n  then enum(type = Level)\n\n" ++
    "rule by_name:\n  then enum(type_name = \"Level\")"

def levelDocument : Document :=
  ⟨[⟨some "by_number", [⟨.whenClause, .typeRef "int"⟩,
      ⟨.thenClause, .call "enum" [("type", .word "Level")]⟩]⟩,
    ⟨some "by_name", [⟨.thenClause, .call "enum" [("type_name", .literal (.string "Level"))]⟩]⟩]⟩

def levelType : EnumType := ⟨"Level", [("low", 0), ("high", 1)], false⟩

def levelRules : List Rule :=
  [{ name := some "by_number"
     conditions := [.type .int]
     outputs := [.expression (.enum { definition := some levelType
                                      enumType := some (.enum "Level") })] },
   { name := some "by_name"
     outputs := [.expression (.enum { definition := some levelType
                                      typeName := some "Level" })] }]

theorem parse_levelText : Document.parse levelText = .ok levelDocument := by
  have hspells : levelDocument.Spells Spelling.Escaped _ :=
    .cons (.mk (.cons (.mk (.typeRef "int")) (.cons (.mk (.call (by decide) (by decide)
        (.cons (.mk (.word (by decide))) .nil))) .nil)))
      (.cons (.mk (.cons (.mk (.call (by decide) (by decide)
        (.cons (.mk (.literal (.string rfl))) .nil))) .nil)) .nil)
  refine Spelling.document_of_rendering (fun _ _ => Spelling.standsFor_of_escaped) hspells ?_
  exact ⟨[], by decide +kernel, .nothing []⟩

theorem convert_levelRules :
    Document.parse levelText = .ok levelDocument ∧
      ofText levelText (.ofList [levelType]) = .ok ⟨levelRules⟩ ∧ IgnoresTypes ⟨levelRules⟩ ∧
      (convert ⟨levelRules⟩ (.string "high") (.seeded .empty 0)).1 =
        .ok (.enum ⟨"Level", some "high", 1⟩) := by
  have hsettled : ∀ call ∈ levelDocument.calls, call.Settled (.ofList [levelType]) := by
    have hcalls : levelDocument.calls = [⟨"enum", [("type", .word "Level")]⟩,
        ⟨"enum", [("type_name", .literal (.string "Level"))]⟩] := rfl
    rw [hcalls, List.forall_mem_cons, List.forall_mem_singleton]
    refine ⟨⟨fun _ name h => ?_, fun h => absurd h (by decide)⟩,
      ⟨fun _ name h => ?_, fun h => absurd h (by decide)⟩⟩
    · exact absurd List.mem_cons_self (h.1 (.word "Level"))
    · cases List.mem_singleton.mp h.2
      decide
  have hread : ofText levelText (.ofList [levelType]) = .ok ⟨levelRules⟩ := by
    simp only [ofText, parse_levelText]
    rfl
  exact ⟨parse_levelText, hread, (ignoresTypes_of_settled parse_levelText hsettled hread).1, rfl⟩

/-- The conversion comes to an output that looks up a name its types do not
know; those before it give the value that it is applied to. -/
def MissesName (c : Converter) (v : Value) (s : Scope) (name : String) (err : EvalError) : Prop :=
  ∃ i r before e after x s', (search c.rules v s).1 = .ok (some (i, r)) ∧
    r.activeOutputs = before ++ .expression e :: after ∧
    Output.applyAll before v s = (.ok x, s') ∧ e.Misses s'.types name err

theorem convert_of_missesName {c : Converter} {v : Value} {s : Scope} {name : String}
    {err : EvalError} (h : c.MissesName v s name err) : (c.convert v s).1 = .error err := by
  obtain ⟨i, r, before, e, after, x, s', hsearch, houtputs, hbefore, hmisses⟩ := h
  rw [convert_eq c.rules, hsearch]
  simp only
  rw [Rule.convert, houtputs, Output.applyAll_append, hbefore]
  simp only
  rw [Output.applyAll, Output.apply, Expression.evaluate_of_misses hmisses]

/-- An expression that looks a name up gates no rule. -/
theorem isCondition_of_misses {types : Registry} {e : Expression} {name : String}
    {err : EvalError} (h : e.Misses types name err) : e.isCondition = false := by
  cases h with
  | enumType _ _ => rfl
  | type _ _ => rfl

section Reading

variable {types : Registry} {d : Document} {c : Converter} {name : String} {err : EvalError}
  (hdenotes : d.Denotes types c.rules)

include hdenotes

theorem exists_unresolved_of_missesName {v : Value} {s : Scope} (htypes : s.types = types)
    (h : c.MissesName v s name err) : ∃ call ∈ d.calls, call.Unresolved types name err := by
  obtain ⟨i, r, before, e, after, x, s', hsearch, houtputs, hbefore, hmisses⟩ := h
  have hkept := (Output.applyAll_types_and_position before v s).1
  rw [hbefore, htypes] at hkept
  have he : .expression e ∈ r.allOutputs := by
    apply r.activeOutputs_subset
    rw [houtputs]
    exact List.mem_append_right _ List.mem_cons_self
  obtain ⟨call, hcall, hexpression⟩ := hdenotes.exists_call (mem_of_search hsearch) he
  exact ⟨call, hcall, (Call.misses_iff_unresolved hexpression).mp (hkept ▸ hmisses)⟩

theorem exists_misses_of_unresolved (horder : InOrder c.rules) {call : Call}
    (hcall : call ∈ d.calls) (h : call.Unresolved types name err) :
    ∃ r ∈ c.rules, ∃ e, .expression e ∈ r.allOutputs ∧ e.Misses types name err := by
  obtain ⟨r, hr, e, hexpression, hplace⟩ := hdenotes.exists_expression hcall
  have hmisses := (Call.misses_iff_unresolved hexpression).mpr h
  rcases hplace with hcondition | houtput
  · have hgate := horder.isCondition r hr e (mem_allConditions.mp hcondition)
    rw [isCondition_of_misses hmisses] at hgate
    cases hgate
  · exact ⟨r, hr, e, houtput, hmisses⟩

end Reading

/-- With the types that a text was read with, a conversion comes to an unknown
name only through a call that gives the name as a text. Every such call is
read without complaint, into an output that fails whenever it is come to. -/
theorem missing_names_of_text {input : String} {types : Registry} {d : Document}
    {c : Converter} (hparse : Document.parse input = .ok d) (hc : ofText input types = .ok c) :
    (∀ v s name err, s.types = types → c.MissesName v s name err →
      (c.convert v s).1 = .error err ∧ ∃ call ∈ d.calls, call.Unresolved types name err) ∧
    ∀ call ∈ d.calls, ∀ name err, call.Unresolved types name err →
      ∃ r ∈ c.rules, ∃ e, .expression e ∈ r.allOutputs ∧
        ∀ v s, s.types = types → e.evaluate v s = (.error err, s) := by
  obtain ⟨d', hparse', hdenotes, horder⟩ := (ofText_eq_ok_iff types input c).mp hc
  cases hparse.symm.trans hparse'
  constructor
  · intro v s name err htypes hmissed
    exact ⟨convert_of_missesName hmissed, exists_unresolved_of_missesName hdenotes htypes hmissed⟩
  · intro call hcall name err hunresolved
    obtain ⟨r, hr, e, houtput, hmisses⟩ :=
      exists_misses_of_unresolved hdenotes horder hcall hunresolved
    refine ⟨r, hr, e, houtput, fun v s htypes => ?_⟩
    exact Expression.evaluate_of_misses (htypes ▸ hmisses)

def shapeText : String := "rule shape:\n  then enum(type_name = \"Shape\")"

def shapeCall : Call := ⟨"enum", [("type_name", .literal (.string "Shape"))]⟩

def shapeDocument : Document :=
  ⟨[⟨some "shape", [⟨.thenClause, .call shapeCall.name shapeCall.args⟩]⟩]⟩

def shapeRules : List Rule :=
  [{ name := some "shape"
     outputs := [.expression (.enum { typeName := some "Shape" })] }]

def shapeError : EvalError := ⟨.enum, .unparsable "Shape" "enum type"⟩

theorem parse_shapeText : Document.parse shapeText = .ok shapeDocument := by
  have hspells : shapeDocument.Spells Spelling.Escaped _ :=
    .cons (.mk (.cons (.mk (.call (by decide) (by decide)
      (.cons (.mk (.literal (.string rfl))) .nil))) .nil)) .nil
  refine Spelling.document_of_rendering (fun _ _ => Spelling.standsFor_of_escaped) hspells ?_
  exact ⟨[], by decide +kernel, .nothing []⟩

theorem ofText_shapeText : ofText shapeText .empty = .ok ⟨shapeRules⟩ := by
  simp only [ofText, parse_shapeText]
  rfl

theorem missesName_shapeRules :
    MissesName ⟨shapeRules⟩ .null (.seeded .empty 0) "Shape" shapeError :=
  ⟨0, _, [], _, [], .null, .seeded .empty 0, rfl, rfl, rfl, .enumType (.enumType rfl rfl) rfl⟩

theorem unresolved_shapeCall : shapeCall.Unresolved .empty "Shape" shapeError := by
  refine .enumType rfl ⟨fun a ha => ?_, List.mem_singleton.mpr rfl⟩ rfl
  simp [shapeCall] at ha

theorem convert_shapeRules :
    Document.parse shapeText = .ok shapeDocument ∧
      ofText shapeText .empty = .ok ⟨shapeRules⟩ ∧
      (convert ⟨shapeRules⟩ .null (.seeded .empty 0)).1 = .error shapeError ∧
      ∃ r ∈ shapeRules, ∃ e, .expression e ∈ r.allOutputs ∧
        ∀ v s, s.types = .empty → e.evaluate v s = (.error shapeError, s) := by
  obtain ⟨hmissed, hunresolved⟩ := missing_names_of_text parse_shapeText ofText_shapeText
  have hcall : shapeCall ∈ shapeDocument.calls := List.mem_singleton.mpr rfl
  exact ⟨parse_shapeText, ofText_shapeText, (hmissed _ _ _ _ rfl missesName_shapeRules).1,
    hunresolved shapeCall hcall _ _ unresolved_shapeCall⟩

/-- Reading a text does not find all the names that its types do not know. -/
theorem names_unknown_after_reading :
    ¬ ∀ input types c, ofText input types = .ok c →
      ∀ v s name err, s.types = types → ¬ c.MissesName v s name err :=
  fun h => h shapeText .empty _ ofText_shapeText .null (.seeded .empty 0) _ _ rfl
    missesName_shapeRules

end Converter

end ConversionRules
