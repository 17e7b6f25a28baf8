import ConversionRules.Proofs.Expression.Membership
import ConversionRules.Proofs.Value.Reading

/-!
Binary numbers where an expression asks for a whole one, as an ordinal of an
enum type or as a bound of a random draw. A number that is not read as a whole
one is refused as an ordinal, and leaves the bounds as they are configured.
-/
namespace ConversionRules

open Value (ReadsAs)

theorem wholeNumber?_eq_none {x : Binary64}
    (h : ∀ i : Int, x.IsWhole i → i < -2 ^ 63 ∨ 2 ^ 63 < i) : Value.wholeNumber? x = none := by
  cases hread : Value.wholeNumber? x with
  | none => rfl
  | some n =>
    obtain ⟨i, hi, hleast, hgreatest⟩ :=
      Value.exists_readsAs_iff.mp ⟨n, Value.wholeNumber?_eq_some_iff.mp hread⟩
    have hout := h i hi
    omega

theorem EnumType.parse?_float (t : EnumType) (x : Binary64) :
    t.parse? (.float x) = (Value.wholeNumber? x).map t.enumValue := rfl

/-- The bounds of a draw depend on the whole number that the input is read as. -/
theorem RandomRange.bounds_congr (r : RandomRange) {v w : Value} (h : v.integer? = w.integer?) :
    r.bounds v = r.bounds w := by
  unfold bounds
  rw [h]

theorem RandomRange.bounds_of_integer?_eq_none (r : RandomRange) {v : Value}
    (h : v.integer? = none) : r.bounds v = (r.lower.getD 0, r.upper.getD 1) := by
  unfold bounds
  rw [h]
  cases r.lower with
  | none => cases r.upper <;> rfl
  | some lower => cases r.upper <;> rfl

theorem RandomRange.evaluate_congr (r : RandomRange) {v w : Value} (h : r.bounds v = r.bounds w)
    (s : Scope) : r.evaluate v s = r.evaluate w s := by
  unfold evaluate
  rw [h]

/-- A draw depends on its input by the bounds alone. -/
theorem Expression.evaluate_random_congr {r : RandomRange} {v w : Value}
    (h : r.bounds v = r.bounds w) (s : Scope) :
    (Expression.random r).evaluate v s = (Expression.random r).evaluate w s := by
  rw [evaluate_eq, evaluate_eq, attempt, attempt, r.evaluate_congr h]

/-- A binary number is read as the whole number that it is, if this has 64 bits,
and 2^63 as the greatest one of 64 bits. What it is read as is its ordinal in an
enum type and a missing bound of a random draw. Any other number is refused as an
ordinal, and a draw goes as if the input were no number. -/
theorem evaluate_float_as_integer (x : Binary64) :
    (∀ n, (Value.float x).integer? = some n ↔
      x.IsWhole n.toInt ∨ x.IsWhole (2 ^ 63) ∧ n = Int64.maxValue) ∧
    (∀ (e : Enumeration) (t : EnumType) (v : Value) (s : Scope),
      e.target s.types = .ok t → e.value.getD v = .float x →
      (∀ n, ReadsAs x n → (Expression.enum e).evaluate v s = (.ok (.enum (t.enumValue n)), s)) ∧
      ((∀ i : Int, x.IsWhole i → i < -2 ^ 63 ∨ 2 ^ 63 < i) →
        (Expression.enum e).evaluate v s =
          (.error ⟨.enum, .unparsable (String.ofList (Value.float x).display) t.name⟩, s))) ∧
    ∀ (r : RandomRange) (s : Scope),
      (∀ n, ReadsAs x n → r.bounds (.float x) = r.bounds (.int n) ∧
        (Expression.random r).evaluate (.float x) s = (Expression.random r).evaluate (.int n) s) ∧
      ((∀ i : Int, x.IsWhole i → i < -2 ^ 63 ∨ 2 ^ 63 < i) →
        r.bounds (.float x) = (r.lower.getD 0, r.upper.getD 1) ∧
        (Expression.random r).evaluate (.float x) s =
          (Expression.random r).evaluate .null s) := by
  refine ⟨fun n => Value.wholeNumber?_eq_some_iff, fun e t v s htarget hsource => ?_, fun r s => ?_⟩
  · rw [Expression.evaluate_enum htarget, hsource, EnumType.parse?_float]
    refine ⟨fun n hn => ?_, fun hout => ?_⟩
    · rw [Value.wholeNumber?_eq_some_iff.mpr hn, Option.map_some]
    · rw [wholeNumber?_eq_none hout, Option.map_none]
  · refine ⟨fun n hn => ?_, fun hout => ?_⟩
    · have hbounds := r.bounds_congr (v := .float x) (w := .int n)
        (Value.wholeNumber?_eq_some_iff.mpr hn)
      exact ⟨hbounds, Expression.evaluate_random_congr hbounds s⟩
    · have hnone : (Value.float x).integer? = none := wholeNumber?_eq_none hout
      have hbounds := r.bounds_congr (v := .float x) (w := .null) hnone
      exact ⟨r.bounds_of_integer?_eq_none hnone, Expression.evaluate_random_congr hbounds s⟩

/-- The power 2^63, and the least binary number above it. -/
def pastGreatest : Binary64 := ⟨0x43e0000000000000⟩

def farPastGreatest : Binary64 := ⟨0x43e0000000000001⟩

theorem isWhole_pastGreatest : pastGreatest.IsWhole (2 ^ 63) := by
  constructor <;> decide +kernel

theorem isWhole_farPastGreatest : farPastGreatest.IsWhole (2 ^ 63 + 2 ^ 11) := by
  constructor <;> decide +kernel

/-- An enum type whose only member is the greatest number of 64 bits. -/
def levelType : EnumType := ⟨"Level", [("top", Int64.maxValue)], false⟩

/-- The power is taken for the member, though it is one more than its ordinal. -/
theorem evaluate_pastGreatest :
    pastGreatest.IsWhole (2 ^ 63) ∧
    (Value.float pastGreatest).integer? = some Int64.maxValue ∧
    (Expression.enum { definition := some levelType }).evaluate (.float pastGreatest)
      (.seeded .empty 0) = (.ok (.enum (levelType.enumValue Int64.maxValue)), .seeded .empty 0) ∧
    ¬ ∀ x n, (Value.float x).integer? = some n → x.IsWhole n.toInt := by
  have hread : Value.wholeNumber? pastGreatest = some Int64.maxValue :=
    Value.wholeNumber?_eq_some_iff.mpr (Or.inr ⟨isWhole_pastGreatest, rfl⟩)
  have hparse : levelType.parse? (.float pastGreatest) =
      some (levelType.enumValue Int64.maxValue) := by
    rw [EnumType.parse?_float, hread, Option.map_some]
  refine ⟨isWhole_pastGreatest, hread, ?_, fun h => ?_⟩
  · rw [Expression.evaluate_enum rfl, Option.getD_none, hparse]
  · exact absurd (isWhole_pastGreatest.unique (h _ _ hread)) (by decide)

/-- The power is read, the number above it is not. -/
theorem evaluate_around_pastGreatest :
    (ReadsAs pastGreatest Int64.maxValue ∧
      (Expression.random {}).evaluate (.float pastGreatest) (.seeded .empty 0) =
        (Expression.random {}).evaluate (.int Int64.maxValue) (.seeded .empty 0)) ∧
    (∀ i : Int, farPastGreatest.IsWhole i → i < -2 ^ 63 ∨ 2 ^ 63 < i) ∧
    (Expression.enum { definition := some levelType }).evaluate (.float farPastGreatest)
        (.seeded .empty 0) =
      (.error ⟨.enum,
        .unparsable (String.ofList (Value.float farPastGreatest).display) levelType.name⟩,
        .seeded .empty 0) ∧
    RandomRange.bounds {} (.float farPastGreatest) = (0, 1) := by
  have hread : ReadsAs pastGreatest Int64.maxValue := Or.inr ⟨isWhole_pastGreatest, rfl⟩
  have hout : ∀ i : Int, farPastGreatest.IsWhole i → i < -2 ^ 63 ∨ 2 ^ 63 < i := by
    intro i hi
    rw [hi.unique isWhole_farPastGreatest]
    decide
  obtain ⟨_, _, hdraw⟩ := evaluate_float_as_integer pastGreatest
  obtain ⟨_, henum, hbounds⟩ := evaluate_float_as_integer farPastGreatest
  exact ⟨⟨hread, ((hdraw _ _).1 _ hread).2⟩, hout, (henum _ _ _ _ rfl rfl).2 hout,
    ((hbounds _ (.seeded .empty 0)).2 hout).1⟩

end ConversionRules
