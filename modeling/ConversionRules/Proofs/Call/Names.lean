import ConversionRules.Proofs.Document.Denotation
import ConversionRules.Proofs.Expression.Names
import ConversionRules.Proofs.Registry.Registration

/-!
Which calls leave a name to be looked up when they are evaluated. A name that
is given as a word has been resolved; one that is given as a text is resolved
only for an enum type, and only if the types know it.
-/
namespace ConversionRules

namespace Call

theorem callName_injective {kind kind' : ExpressionKind} (h : callName kind = callName kind') :
    kind = kind' := by
  have hkind := (kind?_eq_some_iff (callName kind) kind).mpr rfl
  rw [(kind?_eq_some_iff (callName kind) kind').mpr h] at hkind
  exact (Option.some.inj hkind).symm

variable {types : Registry} {c : Call} {e : Expression} {name : String}

/-- The call gives no type, but the text of a name in its place. -/
def NamesByText (c : Call) (parameter name : String) : Prop :=
  (∀ a, ("type", a) ∉ c.args) ∧ (parameter, .literal (.string name)) ∈ c.args

/-- The call needs no types any more: what it names by a text is a registered
enum type, and it asks for no type by a text. -/
structure Settled (types : Registry) (c : Call) : Prop where
  enumType : c.name = callName .enum → ∀ name, c.NamesByText "type_name" name →
    types.find? name ≠ none
  type : c.name = callName .typeOf → (∃ a, ("type", a) ∈ c.args) ∨ ∀ a, ("name", a) ∉ c.args

/-- The call names by a text what the types do not know, and is bound to fail
with the error. -/
inductive Unresolved (types : Registry) (c : Call) : String → EvalError → Prop
  | enumType {name : String} (hkind : c.name = callName .enum)
      (hname : c.NamesByText "type_name" name) (hunknown : types.find? name = none) :
      Unresolved types c name ⟨.enum, .unparsable name "enum type"⟩
  | type {name : String} (hkind : c.name = callName .typeOf)
      (hname : c.NamesByText "name" name)
      (hunknown : (Value.string name).typeIn? types = none) :
      Unresolved types c name ⟨.typeOf, .unparsable name "type"⟩

theorem namesByText_iff {α : Type} {stands : Argument → α → Prop} {o : Option α}
    {parameter : String} {text : Option String} (hdistinct : Distinct c.args)
    (ho : Given c.args "type" stands o) (htext : Given c.args parameter IsText text) :
    c.NamesByText parameter name ↔ o = none ∧ text = some name := by
  have htype : (∀ a, ("type", a) ∉ c.args) ↔ o = none := by
    cases o with
    | none => exact ⟨fun _ => rfl, fun _ => ho⟩
    | some t =>
      obtain ⟨a, ha, _⟩ := ho
      exact ⟨fun h => absurd ha (h a), fun h => nomatch h⟩
  have hname : (parameter, .literal (.string name)) ∈ c.args ↔ text = some name := by
    constructor
    · intro hmem
      have hlookup := (lookup_eq_some_iff hdistinct parameter _).mpr hmem
      obtain ⟨x, ⟨s⟩, hx⟩ := (Given.of_lookup hdistinct hlookup text).mp htext
      exact hx
    · rintro rfl
      obtain ⟨a, ha, ⟨s⟩⟩ := htext
      exact ha
  rw [NamesByText, htype, hname]

/-- An enum call leaves a name exactly if it gives an unknown one as a text. -/
theorem looksUp_enum_iff {x : Enumeration} (h : c.IsExpression types (.enum x)) :
    (Expression.enum x).LooksUp name ↔
      c.NamesByText "type_name" name ∧ types.find? name = none := by
  obtain ⟨htype, htext, -, hdefines⟩ := h.fields
  have hdefinition := (isDefinition_iff _ _ _ _).mp hdefines
  rw [namesByText_iff h.distinct htype htext]
  constructor
  · rintro ⟨hnone, htarget⟩
    rw [hdefinition] at hnone
    cases henum : x.enumType with
    | none =>
      cases hname : x.typeName with
      | none => simp [Enumeration.targetName, henum, hname] at htarget
      | some name' =>
        simp only [Enumeration.targetName, henum, hname, Except.ok.injEq] at htarget
        subst htarget
        simp only [definition?, henum, hname] at hnone
        exact ⟨⟨rfl, rfl⟩, hnone⟩
    | some t =>
      -- a type was resolved, and its definition is embedded
      rw [henum] at htype
      obtain ⟨a, -, ⟨hw⟩⟩ := htype
      obtain ⟨-, t', ht'⟩ := Registry.find?_of_resolve? hw
      simp [definition?, henum, ht'] at hnone
  · rintro ⟨⟨henum, hname⟩, hunknown⟩
    refine .enumType ?_ ?_
    · rw [hdefinition, henum, hname]
      exact hunknown
    · simp [Enumeration.targetName, henum, hname]

theorem looksUp_typeOf_iff {q : TypeQuery} (h : c.IsExpression types (.typeOf q)) :
    (Expression.typeOf q).LooksUp name ↔ c.NamesByText "name" name := by
  obtain ⟨htype, htext⟩ := h.fields
  rw [namesByText_iff h.distinct htype htext]
  constructor
  · rintro ⟨⟩
    exact ⟨‹_›, ‹_›⟩
  · rintro ⟨hnone, hname⟩
    exact .type hnone hname

theorem Settled.not_looksUp (hsettled : c.Settled types) (h : c.IsExpression types e) :
    ¬ e.LooksUp name := by
  intro hlooks
  have hkind := h.name
  cases e with
  | enum x =>
    obtain ⟨hname, hunknown⟩ := (looksUp_enum_iff h).mp hlooks
    exact hsettled.enumType hkind name hname hunknown
  | typeOf q =>
    obtain ⟨hnone, hname⟩ := (looksUp_typeOf_iff h).mp hlooks
    rcases hsettled.type hkind with ⟨a, ha⟩ | habsent
    · exact hnone a ha
    · exact habsent _ hname
  | _ => cases hlooks

/-- A call compiles to an expression that misses a name exactly if it is unresolved. -/
theorem misses_iff_unresolved {err : EvalError} (h : c.IsExpression types e) :
    e.Misses types name err ↔ c.Unresolved types name err := by
  have hkind := h.name
  constructor
  · intro hmisses
    cases hmisses with
    | enumType hname hunknown =>
      exact .enumType hkind ((looksUp_enum_iff h).mp hname).1 hunknown
    | type hname hunknown => exact .type hkind ((looksUp_typeOf_iff h).mp hname) hunknown
  · intro hunresolved
    cases hunresolved with
    | enumType hcalled hname hunknown =>
      have hexpression : e.kind = .enum := callName_injective (hkind.symm.trans hcalled)
      cases e with
      | enum x => exact .enumType ((looksUp_enum_iff h).mpr ⟨hname, hunknown⟩) hunknown
      | _ => cases hexpression
    | type hcalled hname hunknown =>
      have hexpression : e.kind = .typeOf := callName_injective (hkind.symm.trans hcalled)
      cases e with
      | typeOf q => exact .type ((looksUp_typeOf_iff h).mpr hname) hunknown
      | _ => cases hexpression

end Call

end ConversionRules
