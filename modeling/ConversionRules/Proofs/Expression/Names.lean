import ConversionRules.Expression.Evaluation

/-!
The names that expressions look up in the types of their scope. Only an enum
type that is given without its definition and a type that is given by its name
are looked up; an expression that looks nothing up is evaluated alike under any
types, and one that looks up an unknown name fails whatever it is applied to.
-/
namespace ConversionRules

/-- The scope with other types. -/
def Scope.withTypes (s : Scope) (types : Registry) : Scope := { s with types := types }

namespace Expression

inductive LooksUp : Expression → String → Prop
  | enumType {x : Enumeration} {name : String} (hdefinition : x.definition = none)
      (hname : x.targetName = .ok name) : LooksUp (.enum x) name
  | type {q : TypeQuery} {name : String} (htype : q.type = none) (hname : q.name = some name) :
      LooksUp (.typeOf q) name

/-- The expression looks up a name that the types do not know, which is the error. -/
inductive Misses (types : Registry) : Expression → String → EvalError → Prop
  | enumType {x : Enumeration} {name : String} (hname : LooksUp (.enum x) name)
      (hunknown : types.find? name = none) :
      Misses types (.enum x) name ⟨.enum, .unparsable name "enum type"⟩
  | type {q : TypeQuery} {name : String} (hname : LooksUp (.typeOf q) name)
      (hunknown : (Value.string name).typeIn? types = none) :
      Misses types (.typeOf q) name ⟨.typeOf, .unparsable name "type"⟩

end Expression

theorem Enumeration.target_eq_of_not_looksUp {x : Enumeration}
    (h : ∀ name, ¬ (Expression.enum x).LooksUp name) (types types' : Registry) :
    x.target types = x.target types' := by
  unfold Enumeration.target
  cases hdefinition : x.definition with
  | some t => rfl
  | none =>
    cases hname : x.targetName with
    | error cause => rfl
    | ok name => exact absurd (.enumType hdefinition hname) (h name)

theorem TypeQuery.evaluate_eq_of_not_looksUp {q : TypeQuery}
    (h : ∀ name, ¬ (Expression.typeOf q).LooksUp name) (types types' : Registry) :
    q.evaluate types = q.evaluate types' := by
  unfold TypeQuery.evaluate
  cases htype : q.type with
  | some t => rfl
  | none =>
    cases hname : q.name with
    | none => rfl
    | some name => exact absurd (.type htype hname) (h name)

theorem RandomRange.evaluate_withTypes (r : RandomRange) (v : Value) (s : Scope)
    (types : Registry) :
    r.evaluate v (s.withTypes types) = ((r.evaluate v s).1, (r.evaluate v s).2.withTypes types) := by
  unfold RandomRange.evaluate
  simp only
  split
  · rfl
  · rfl

namespace Expression

theorem attempt_withTypes {e : Expression} (h : ∀ name, ¬ e.LooksUp name) (v : Value) (s : Scope)
    (types : Registry) :
    e.attempt v (s.withTypes types) = ((e.attempt v s).1, (e.attempt v s).2.withTypes types) := by
  cases e with
  | enum x =>
    have htarget := Enumeration.target_eq_of_not_looksUp h types s.types
    simp only [attempt, Scope.withTypes, Enumeration.evaluate, htarget]
  | typeOf q =>
    have hquery := TypeQuery.evaluate_eq_of_not_looksUp h types s.types
    simp only [attempt, Scope.withTypes, hquery]
  | random r => exact r.evaluate_withTypes v s types
  | _ => rfl

/-- Other types make no difference to an expression that looks nothing up. -/
theorem evaluate_withTypes {e : Expression} (h : ∀ name, ¬ e.LooksUp name) (v : Value) (s : Scope)
    (types : Registry) :
    e.evaluate v (s.withTypes types) =
      ((e.evaluate v s).1, (e.evaluate v s).2.withTypes types) := by
  rw [evaluate_eq, evaluate_eq, attempt_withTypes h]

theorem evaluate_of_misses {e : Expression} {v : Value} {s : Scope} {name : String}
    {err : EvalError} (h : Misses s.types e name err) : e.evaluate v s = (.error err, s) := by
  cases h with
  | enumType hname hunknown =>
    cases hname with
    | enumType hdefinition htarget =>
      simp only [evaluate, attempt, Enumeration.evaluate, Enumeration.target, hdefinition, htarget,
        hunknown, kind]
  | type hname hunknown =>
    cases hname with
    | type htype hquery =>
      simp only [evaluate, attempt, TypeQuery.evaluate, htype, hquery, hunknown, kind]

end Expression

end ConversionRules
