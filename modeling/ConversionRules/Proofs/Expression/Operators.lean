import ConversionRules.Proofs.Expression.Blame
import ConversionRules.Rule

/-!
An arithmetic expression as the chain of its operators. Every configured
operator alone is an expression too, and the rule that applies these one after
another, in the fixed order, gives what the whole expression gives: only the
first of them reads its input as a number, and what it passes on is a binary
number, which the next one takes as it is, be it finite or not.
-/
namespace ConversionRules

inductive Operator where
  | multiply
  | divide
  | modulo
  | add
  | subtract
  deriving DecidableEq

namespace Operator

/-- The operators in the order in which they are applied. -/
def all : List Operator := [.multiply, .divide, .modulo, .add, .subtract]

def combine : Operator → Binary64 → Binary64 → Binary64
  | .multiply => .mul
  | .divide => .div
  | .modulo => .rem
  | .add => .add
  | .subtract => .sub

/-- The expression that has this operator and no other one. -/
def alone (x : Binary64) : Operator → Arithmetic
  | .multiply => { multiply := some x }
  | .divide => { divide := some x }
  | .modulo => { modulo := some x }
  | .add => { add := some x }
  | .subtract => { subtract := some x }

theorem apply_alone (op : Operator) (x n : Binary64) : (op.alone x).apply n = op.combine n x := by
  cases op with
  | multiply => rfl
  | divide => rfl
  | modulo => rfl
  | add => rfl
  | subtract => rfl

end Operator

namespace Arithmetic

def operand? (a : Arithmetic) : Operator → Option Binary64
  | .multiply => a.multiply
  | .divide => a.divide
  | .modulo => a.modulo
  | .add => a.add
  | .subtract => a.subtract

/-- The configured operators and their operands, in the order in which they are applied. -/
def configured (a : Arithmetic) : List (Operator × Binary64) :=
  Operator.all.filterMap fun op => (a.operand? op).map (op, ·)

/-- A number passed through operators from the first to the last. -/
def run (ops : List (Operator × Binary64)) (n : Binary64) : Binary64 :=
  ops.foldl (fun n p => p.1.combine n p.2) n

/-- The outputs that apply one operator each. -/
def outputs (ops : List (Operator × Binary64)) : List Output :=
  ops.map fun p => .expression (.arithmetic (p.1.alone p.2))

theorem run_filterMap (a : Arithmetic) (ops : List Operator) (n : Binary64) :
    run (ops.filterMap fun op => (a.operand? op).map (op, ·)) n =
      ops.foldl (fun n op => step op.combine (a.operand? op) n) n := by
  induction ops generalizing n with
  | nil => rfl
  | cons op ops ih =>
    cases hoperand : a.operand? op with
    | none =>
      rw [List.filterMap_cons_none (by rw [hoperand]; rfl), ih, List.foldl_cons, hoperand, step]
    | some x =>
      rw [List.filterMap_cons_some (by rw [hoperand]; rfl), List.foldl_cons, hoperand, step, ← ih]
      rfl

theorem apply_eq_run (a : Arithmetic) (n : Binary64) : a.apply n = run a.configured n :=
  (run_filterMap a Operator.all n).symm

theorem configured_ne_nil_iff (a : Arithmetic) :
    a.configured ≠ [] ↔ ∃ op x, a.operand? op = some x := by
  have hall : ∀ op, op ∈ Operator.all := by
    intro op
    cases op <;> simp [Operator.all]
  constructor
  · intro h
    obtain ⟨p, hp⟩ := List.exists_mem_of_ne_nil _ h
    obtain ⟨op, _, hop⟩ := List.mem_filterMap.mp hp
    obtain ⟨x, hx, _⟩ := Option.map_eq_some_iff.mp hop
    exact ⟨op, x, hx⟩
  · intro h
    obtain ⟨op, x, hx⟩ := h
    have hmem : (op, x) ∈ a.configured :=
      List.mem_filterMap.mpr ⟨op, hall op, by rw [hx]; rfl⟩
    exact List.ne_nil_of_mem hmem

end Arithmetic

section Chains

variable (s : Scope)

/-- One operator asks its input for a number and leaves the scope alone. -/
theorem Output.apply_alone (op : Operator) (x : Binary64) (v : Value) :
    (Output.expression (.arithmetic (op.alone x))).apply v s =
      ((v.requireNumber.map fun n => .float (op.combine n x)).mapError (EvalError.mk .arithmetic),
        s) := by
  rw [Output.apply, Expression.evaluate_eq, Expression.attempt, Arithmetic.evaluate]
  simp only [Operator.apply_alone]
  rfl

/-- Once there is a binary number, no operator fails and none reads it anew. -/
theorem Output.applyAll_operators (ops : List (Operator × Binary64)) (n : Binary64) :
    Output.applyAll (Arithmetic.outputs ops) (.float n) s =
      (.ok (.float (Arithmetic.run ops n)), s) := by
  induction ops generalizing n with
  | nil => rfl
  | cons p ops ih =>
    have hnumber : (Value.float n).requireNumber = .ok n := rfl
    rw [Arithmetic.outputs, List.map_cons, Output.applyAll, Output.apply_alone, hnumber]
    exact ih (p.1.combine n p.2)

/-- Whether a chain fails is decided by its first operator. -/
theorem Output.applyAll_operators_of_ne_nil {ops : List (Operator × Binary64)} (hops : ops ≠ [])
    (v : Value) :
    Output.applyAll (Arithmetic.outputs ops) v s =
      ((v.requireNumber.map fun n => .float (Arithmetic.run ops n)).mapError
        (EvalError.mk .arithmetic), s) := by
  obtain ⟨p, rest, rfl⟩ := List.exists_cons_of_ne_nil hops
  rw [Arithmetic.outputs, List.map_cons, Output.applyAll, Output.apply_alone]
  cases v.requireNumber with
  | error cause => rfl
  | ok n => exact Output.applyAll_operators s rest (p.1.combine n p.2)

end Chains

namespace Arithmetic

/-- An expression with at least one operator is evaluated as the outputs that
carry one of its operators each, in any rule: the numbers, bit for bit, the
errors and the scopes are the same. -/
theorem convert_operators {a : Arithmetic} (h : ∃ op x, a.operand? op = some x) (r : Rule)
    (v : Value) (s : Scope) :
    ({ r with output := none, outputs := outputs a.configured } : Rule).convert v s =
      (Expression.arithmetic a).evaluate v s := by
  have hops : a.configured ≠ [] := a.configured_ne_nil_iff.mpr h
  have hchain := Output.applyAll_operators_of_ne_nil s hops v
  rw [Rule.convert, Rule.activeOutputs]
  simp only [hchain, ← apply_eq_run]
  rw [Expression.evaluate_eq, Expression.attempt, evaluate]
  rfl

/-- A division by zero, after which infinity is taken from infinity. -/
def unbounded : Arithmetic :=
  { divide := some (.zero false), add := some (.ofNat 1), subtract := some (.infinity false) }

theorem convert_unbounded :
    (∃ op x, unbounded.operand? op = some x) ∧
    unbounded.configured =
      [(.divide, .zero false), (.add, .ofNat 1), (.subtract, .infinity false)] ∧
    ({ outputs := outputs unbounded.configured } : Rule).convert (.string "7")
        (.seeded .empty 0) = (.ok (.float .nan), .seeded .empty 0) ∧
    ({ outputs := outputs unbounded.configured } : Rule).convert (.bool true)
        (.seeded .empty 0) =
      (.error ⟨.arithmetic, .typeMismatch .number (some .bool)⟩, .seeded .empty 0) := by
  have h : ∃ op x, unbounded.operand? op = some x := ⟨.divide, _, rfl⟩
  have htext := convert_operators h {} (.string "7") (.seeded .empty 0)
  have hbool := convert_operators h {} (.bool true) (.seeded .empty 0)
  have hnumber : Value.number? (.string "7") = some (.ofNat 7) := by decide +kernel
  have hnan : unbounded.apply (.ofNat 7) = .nan := by decide +kernel
  refine ⟨h, rfl, htext.trans ?_, hbool.trans rfl⟩
  rw [Expression.evaluate_eq, Expression.attempt, evaluate, Value.requireNumber, hnumber]
  simp only [Except.map, hnan]
  rfl

end Arithmetic

end ConversionRules
