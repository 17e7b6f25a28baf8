import ConversionRules.Proofs.Random.Drawing

/-!
The bounds of a random number and what is drawn between them. Configured bounds
come first, the whole number that the input is read as comes next, and last the
bounds of a coin. Bounds in the wrong order are refused before a word is drawn.
-/
namespace ConversionRules

namespace RandomRange

/-- The lower bound: the configured one or else, beside a configured upper one,
the whole number that the input is read as, or else zero. -/
def lowerBound (r : RandomRange) (v : Value) : Int64 :=
  (r.lower.or (if r.upper.isSome then v.integer? else none)).getD 0

/-- The upper bound: the configured one or else the whole number that the input
is read as, or else one. -/
def upperBound (r : RandomRange) (v : Value) : Int64 := (r.upper.or v.integer?).getD 1

theorem bounds_eq (r : RandomRange) (v : Value) :
    r.bounds v = (r.lowerBound v, r.upperBound v) := by
  obtain ⟨lower, upper⟩ := r
  unfold bounds lowerBound upperBound
  cases lower with
  | none => cases upper <;> cases v.integer? <;> rfl
  | some lower => cases upper <;> cases v.integer? <;> rfl

variable {r : RandomRange} {v : Value}

theorem evaluate_of_crossed (h : r.upperBound v < r.lowerBound v) (s : Scope) :
    (Expression.random r).evaluate v s =
      (.error ⟨.random, .invalidRange (r.lowerBound v) (r.upperBound v)⟩, s) := by
  have hbounds : ¬ (r.bounds v).1 ≤ (r.bounds v).2 := by
    rw [bounds_eq]
    exact Int64.not_le.mpr h
  rw [Expression.evaluate_eq, Expression.attempt, evaluate_eq_error hbounds, bounds_eq]
  rfl

theorem evaluate_of_le (h : r.lowerBound v ≤ r.upperBound v) (s : Scope) :
    (Expression.random r).evaluate v s =
      (.ok (.int (s.generator.draw (r.lowerBound v) (r.upperBound v)).1),
        { s with generator := (s.generator.draw (r.lowerBound v) (r.upperBound v)).2 }) := by
  have hbounds : (r.bounds v).1 ≤ (r.bounds v).2 := by
    rw [bounds_eq]
    exact h
  rw [Expression.evaluate_eq, Expression.attempt, evaluate_eq_ok hbounds, bounds_eq]
  rfl

end RandomRange

open Generator (Sampled)

/-- A random number whose bounds are in the wrong order fails and leaves the
scope. Otherwise it takes one or more words from the generator and lies between
the bounds, and where sampling ends with a number, it is this number. -/
theorem evaluate_random_between (r : RandomRange) (v : Value) (s : Scope) :
    (r.upperBound v < r.lowerBound v →
      (Expression.random r).evaluate v s =
        (.error ⟨.random, .invalidRange (r.lowerBound v) (r.upperBound v)⟩, s)) ∧
    (r.lowerBound v ≤ r.upperBound v →
      ∃ n count, (Expression.random r).evaluate v s =
          (.ok (.int n), { s with generator := s.generator.ahead count }) ∧
        0 < count ∧ r.lowerBound v ≤ n ∧ n ≤ r.upperBound v ∧
        ∀ n' g, Sampled (r.lowerBound v) (r.upperBound v) s.generator n' g →
          n' = n ∧ g = s.generator.ahead count) := by
  refine ⟨fun h => RandomRange.evaluate_of_crossed h s, fun h => ?_⟩
  obtain ⟨count, hpos, hcount⟩ :=
    Generator.exists_ahead_draw (r.lowerBound v) (r.upperBound v) s.generator
  obtain ⟨hlower, hupper⟩ := Generator.draw_within h s.generator
  have heval := RandomRange.evaluate_of_le h s
  rw [hcount] at heval
  refine ⟨_, count, heval, hpos, hlower, hupper, fun n' g hsampled => ?_⟩
  have hdraw := Generator.draw_of_sampled h hsampled
  rw [hdraw] at hcount ⊢
  exact ⟨rfl, hcount⟩

/-- A draw among all numbers. -/
def widest : RandomRange := { lower := some Int64.minValue, upper := some Int64.maxValue }

theorem evaluate_widest_and_crossed :
    (Expression.random widest).evaluate .null (.seeded .empty 0) =
      (.ok (.int (Generator.ofSeed 0).next.1.toInt64), ⟨.empty, (Generator.ofSeed 0).ahead 1⟩) ∧
    (Expression.random { lower := some 10 }).evaluate (.int 2) (.seeded .empty 0) =
      (.error ⟨.random, .invalidRange 10 2⟩, .seeded .empty 0) := by
  have hwhole : Sampled Int64.minValue Int64.maxValue (Generator.ofSeed 0)
      (Generator.ofSeed 0).next.1.toInt64 ((Generator.ofSeed 0).ahead 1) := .whole rfl
  refine ⟨?_, (evaluate_random_between { lower := some 10 } (.int 2) _).1 (by decide)⟩
  obtain ⟨n, count, heval, _, _, _, hsampled⟩ :=
    (evaluate_random_between widest .null (.seeded .empty 0)).2 (by decide)
  obtain ⟨rfl, hcount⟩ := hsampled _ _ hwhole
  rw [heval, ← hcount]
  rfl

end ConversionRules
