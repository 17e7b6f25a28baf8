import ConversionRules.Expression.Calculation
import ConversionRules.Expression.Selection
import ConversionRules.Expression.Membership
import ConversionRules.Expression.Editing
import ConversionRules.Expression.Template
import ConversionRules.Scope

/-!
The value of an expression on an input. Only a random draw changes the scope,
and only when its bounds are in order. Wherever an evaluation fails, in a part
that several kinds share too, the error carries the name of the kind that is
evaluated and no other, so a cause holds no kind and it is added in one place.
-/
namespace ConversionRules

namespace RandomRange

/-- The bounds of a draw. Configured bounds come first; an input that is a
whole number takes the place of a missing one, of the upper one if both are. -/
def bounds (r : RandomRange) (v : Value) : Int64 × Int64 :=
  match r.lower, r.upper, v.integer? with
  | some lower, some upper, _ => (lower, upper)
  | some lower, none, some n => (lower, n)
  | none, some upper, some n => (n, upper)
  | none, none, some n => (0, n)
  | lower, upper, none => (lower.getD 0, upper.getD 1)

def evaluate (r : RandomRange) (v : Value) (s : Scope) : Except Cause Value × Scope :=
  let (lower, upper) := r.bounds v
  if upper < lower then (.error (.invalidRange lower upper), s)
  else
    let (n, generator) := s.generator.draw lower upper
    (.ok (.int n), { s with generator := generator })

end RandomRange

namespace Expression

def attempt (e : Expression) (v : Value) (s : Scope) : Except Cause Value × Scope :=
  match e with
  | .arithmetic a => (a.evaluate v, s)
  | .compare b => (b.evaluate v, s)
  | .count b => (b.evaluateCount v, s)
  | .lookup l => (l.evaluate v, s)
  | .double x => (Calculation.double x v, s)
  | .enum x => (x.evaluate s.types v, s)
  | .negate => (Calculation.negate v, s)
  | .percentage whole => (Calculation.percentage whole v, s)
  | .random r => r.evaluate v s
  | .check c => (c.evaluate v, s)
  | .format template => (Template.evaluate template v, s)
  | .transform t => (t.evaluate v, s)
  | .typeOf q => (q.evaluate s.types, s)

/-- An error carries the kind of the expression. -/
def evaluate (e : Expression) (v : Value) (s : Scope) : Except EvalError Value × Scope :=
  match e.attempt v s with
  | (.ok x, s') => (.ok x, s')
  | (.error cause, s') => (.error ⟨e.kind, cause⟩, s')

theorem evaluate_eq (e : Expression) (v : Value) (s : Scope) :
    e.evaluate v s = ((e.attempt v s).1.mapError (EvalError.mk e.kind), (e.attempt v s).2) := by
  cases hattempt : e.attempt v s with
  | mk outcome s' =>
    rw [evaluate, hattempt]
    cases outcome with
    | error cause => rfl
    | ok x => rfl

end Expression

end ConversionRules
