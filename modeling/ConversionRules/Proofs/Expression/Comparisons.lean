import Mathlib.Data.List.Nodup
import ConversionRules.Expression.Evaluation
import ConversionRules.Proofs.Call.Expressions
import ConversionRules.Proofs.Number.Ordering

/-!
Whole numbers compared with whole bounds. Both are rounded before they are
compared, which may make different numbers equal but puts no two of them in the
other order. So a strict bound that is met is met exactly, and one that is not
strict is met whenever the numbers themselves meet it.
-/
namespace ConversionRules

namespace Binary64

theorem less_iff {x y : Binary64} :
    x.less y = true ↔ x.isNaN = false ∧ y.isNaN = false ∧ x.orderKey < y.orderKey := by
  unfold less
  rw [beq_iff_eq, compare?_eq_some_iff, Int.compare_eq_lt]

variable (m n : Int)

theorem less_ofInt_iff : (ofInt m).less (ofInt n) = true ↔ (ofInt m).orderKey < (ofInt n).orderKey := by
  simp only [less_iff, isNaN_ofInt, true_and]

theorem equal_ofInt_iff :
    (ofInt m).equal (ofInt n) = true ↔ (ofInt m).orderKey = (ofInt n).orderKey := by
  simp only [equal_iff, isNaN_ofInt, true_and]

theorem atMost_ofInt_iff :
    (ofInt m).atMost (ofInt n) = true ↔ (ofInt m).orderKey ≤ (ofInt n).orderKey := by
  rw [atMost, Bool.or_eq_true, less_ofInt_iff, equal_ofInt_iff, Int.le_iff_lt_or_eq]

end Binary64

open Binary64 (ofInt orderKey_ofInt_mono)

/-- What a bound asks of a number. -/
inductive Relation where
  | equalTo
  | notEqualTo
  | greaterThan
  | atLeast
  | lessThan
  | atMost
  deriving DecidableEq

namespace Relation

/-- The parameter by which a bound is given. -/
def parameter : Relation → String
  | .equalTo => "is_equal_to"
  | .notEqualTo => "is_not_equal_to"
  | .greaterThan => "is_greater_than"
  | .atLeast => "is_greater_or_equal_to"
  | .lessThan => "is_lesser_than"
  | .atMost => "is_lesser_or_equal_to"

/-- The relation between a number and its bound. -/
def Holds : Relation → Int → Int → Prop
  | .equalTo, n, b => n = b
  | .notEqualTo, n, b => n ≠ b
  | .greaterThan, n, b => b < n
  | .atLeast, n, b => b ≤ n
  | .lessThan, n, b => n < b
  | .atMost, n, b => n ≤ b

instance (r : Relation) (n b : Int) : Decidable (r.Holds n b) :=
  match r with
  | .equalTo => inferInstanceAs (Decidable (n = b))
  | .notEqualTo => inferInstanceAs (Decidable (n ≠ b))
  | .greaterThan => inferInstanceAs (Decidable (b < n))
  | .atLeast => inferInstanceAs (Decidable (b ≤ n))
  | .lessThan => inferInstanceAs (Decidable (n < b))
  | .atMost => inferInstanceAs (Decidable (n ≤ b))

/-- Whether no number meets itself as a bound. -/
def isStrict : Relation → Bool
  | .notEqualTo | .greaterThan | .lessThan => true
  | .equalTo | .atLeast | .atMost => false

def bound (b : Bounds) : Relation → Option Binary64
  | .equalTo => b.equalTo
  | .notEqualTo => b.notEqualTo
  | .greaterThan => b.greaterThan
  | .atLeast => b.atLeast
  | .lessThan => b.lessThan
  | .atMost => b.atMost

def test : Relation → Binary64 → Binary64 → Bool
  | .equalTo, n, x => n.equal x
  | .notEqualTo, n, x => !n.equal x
  | .greaterThan, n, x => x.less n
  | .atLeast, n, x => x.atMost n
  | .lessThan, n, x => n.less x
  | .atMost, n, x => n.atMost x

theorem parameter_injective : Function.Injective parameter := by
  intro r r' h
  cases r <;> cases r' <;> first | rfl | exact absurd h (by decide)

theorem parameter_mem_signature (r : Relation) :
    (r.parameter, Call.Shape.number) ∈ Call.signature .compare := by
  cases r <;> simp [parameter, Call.signature, Call.boundSignature]

theorem admits_iff {b : Bounds} {n : Binary64} :
    b.admits n = true ↔ ∀ r : Relation, ∀ x, r.bound b = some x → r.test n x = true := by
  have hholds : ∀ (f : Binary64 → Binary64 → Bool) (bound : Option Binary64),
      Bounds.holds f bound n = true ↔ ∀ x, bound = some x → f n x = true := by
    intro f bound
    cases bound with
    | none => simp [Bounds.holds]
    | some y => simp [Bounds.holds]
  unfold Bounds.admits
  simp only [Bool.and_eq_true, hholds]
  constructor
  · rintro ⟨⟨⟨⟨⟨hequal, hunequal⟩, hgreater⟩, hatLeast⟩, hless⟩, hatMost⟩ r
    cases r with
    | equalTo => exact hequal
    | notEqualTo => exact hunequal
    | greaterThan => exact hgreater
    | atLeast => exact hatLeast
    | lessThan => exact hless
    | atMost => exact hatMost
  · intro h
    exact ⟨⟨⟨⟨⟨h .equalTo, h .notEqualTo⟩, h .greaterThan⟩, h .atLeast⟩, h .lessThan⟩, h .atMost⟩

theorem denotesBounds_iff {args : List (String × Argument)} {b : Bounds} :
    Call.DenotesBounds args b ↔
      ∀ r : Relation, Call.Given args r.parameter Call.IsNumber (r.bound b) := by
  constructor
  · rintro ⟨hequal, hunequal, hgreater, hatLeast, hless, hatMost⟩ r
    cases r with
    | equalTo => exact hequal
    | notEqualTo => exact hunequal
    | greaterThan => exact hgreater
    | atLeast => exact hatLeast
    | lessThan => exact hless
    | atMost => exact hatMost
  · intro h
    exact ⟨h .equalTo, h .notEqualTo, h .greaterThan, h .atLeast, h .lessThan, h .atMost⟩

section Rounding

variable {r : Relation} {n b : Int}

/-- What is tested are the rounded numbers. -/
theorem test_ofInt_iff :
    r.test (ofInt n) (ofInt b) = true ↔ r.Holds (ofInt n).orderKey (ofInt b).orderKey := by
  cases r with
  | equalTo => exact Binary64.equal_ofInt_iff n b
  | notEqualTo =>
    rw [test, Bool.not_eq_true', ← Bool.not_eq_true, Binary64.equal_ofInt_iff]
    rfl
  | greaterThan => exact Binary64.less_ofInt_iff b n
  | atLeast => exact Binary64.atMost_ofInt_iff b n
  | lessThan => exact Binary64.less_ofInt_iff n b
  | atMost => exact Binary64.atMost_ofInt_iff n b

/-- Rounding does not put apart what is equal, nor turns an order round. -/
theorem holds_of_test (hstrict : r.isStrict = true) (h : r.test (ofInt n) (ofInt b) = true) :
    r.Holds n b := by
  have hrounded := test_ofInt_iff.mp h
  cases r with
  | notEqualTo =>
    rintro rfl
    exact hrounded rfl
  | greaterThan => exact Int.not_le.mp fun hle => Int.not_le.mpr hrounded (orderKey_ofInt_mono hle)
  | lessThan => exact Int.not_le.mp fun hle => Int.not_le.mpr hrounded (orderKey_ofInt_mono hle)
  | equalTo => cases hstrict
  | atLeast => cases hstrict
  | atMost => cases hstrict

theorem test_of_holds (hstrict : r.isStrict = false) (h : r.Holds n b) :
    r.test (ofInt n) (ofInt b) = true := by
  refine test_ofInt_iff.mpr ?_
  cases r with
  | equalTo => exact congrArg (fun m => (ofInt m).orderKey) h
  | atLeast => exact orderKey_ofInt_mono h
  | atMost => exact orderKey_ofInt_mono h
  | notEqualTo => cases hstrict
  | greaterThan => cases hstrict
  | lessThan => cases hstrict

-- The converse fails for a strict bound: 2^53 + 1 is rounded to 2^53.
example : greaterThan.test (ofInt 9007199254740993) (ofInt 9007199254740992) = false := by
  decide +kernel

end Rounding

end Relation

/-- A call that compares with whole numbers. -/
def comparison (bounds : List (Relation × Int64)) : Call :=
  ⟨"compare", bounds.map fun p => (p.1.parameter, .literal (.int p.2))⟩

section Comparison

variable {bounds : List (Relation × Int64)}

theorem mem_comparison {r : Relation} {a : Argument} :
    (r.parameter, a) ∈ (comparison bounds).args ↔ ∃ n, (r, n) ∈ bounds ∧ a = .literal (.int n) := by
  constructor
  · intro h
    obtain ⟨⟨r', n⟩, hmem, heq⟩ := List.mem_map.mp h
    obtain ⟨hname, rfl⟩ := Prod.mk.inj heq
    cases Relation.parameter_injective hname
    exact ⟨n, hmem, rfl⟩
  · rintro ⟨n, hmem, rfl⟩
    exact List.mem_map.mpr ⟨(r, n), hmem, rfl⟩

theorem distinct_comparison (hbounds : (bounds.map Prod.fst).Nodup) :
    Call.Distinct (comparison bounds).args := by
  have hnames : (comparison bounds).args.map Prod.fst = (bounds.map Prod.fst).map Relation.parameter := by
    simp only [comparison, List.map_map, Function.comp_def]
  rw [Call.Distinct, hnames]
  exact List.Nodup.map Relation.parameter_injective hbounds

theorem exists_comparison (hbounds : (bounds.map Prod.fst).Nodup) (types : Registry) (rule : String) :
    ∃ b, (comparison bounds).expression types rule = .ok (.compare b) ∧
      ∀ r : Relation, Call.Given (comparison bounds).args r.parameter Call.IsNumber (r.bound b) := by
  have hadmitted : ∀ a ∈ (comparison bounds).args,
      ∃ shape, (a.1, shape) ∈ Call.signature .compare ∧ shape.Admits types a.2 := by
    intro a ha
    obtain ⟨p, hp, rfl⟩ := List.mem_map.mp ha
    exact ⟨.number, p.1.parameter_mem_signature, _, .int p.2⟩
  obtain ⟨hknown, hfits⟩ := (Call.known_and_fits_iff types _ .compare).mpr hadmitted
  obtain ⟨e, he⟩ := (Call.exists_expression_iff (comparison bounds) types rule).mpr
    ⟨distinct_comparison hbounds, .compare, rfl, hknown, hfits⟩
  obtain ⟨_, hname, _, hdenotes⟩ := (Call.expression_eq_ok_iff _ types rule e).mp he
  have hkind : some ExpressionKind.compare = some e.kind := (Call.kind?_eq_some_iff _ _).mpr hname
  cases e with
  | compare b => exact ⟨b, he, Relation.denotesBounds_iff.mp hdenotes⟩
  | _ => cases hkind

/-- The verdict is that of all bounds on the rounded numbers. -/
theorem admits_comparison {b : Bounds} (hbounds : (bounds.map Prod.fst).Nodup)
    (hb : ∀ r : Relation, Call.Given (comparison bounds).args r.parameter Call.IsNumber (r.bound b))
    (n : Int) :
    b.admits (ofInt n) = true ↔ ∀ p ∈ bounds, p.1.test (ofInt n) (ofInt p.2.toInt) = true := by
  rw [Relation.admits_iff]
  constructor
  · rintro h ⟨r, k⟩ hmem
    have harg := (Call.lookup_eq_some_iff (distinct_comparison hbounds) r.parameter _).mpr
      (mem_comparison.mpr ⟨k, hmem, rfl⟩)
    obtain ⟨x, hx, hbound⟩ :=
      (Call.Given.of_lookup (distinct_comparison hbounds) harg (r.bound b)).mp (hb r)
    cases hx
    exact h r _ hbound
  · intro h r x hx
    have hgiven := hb r
    rw [hx] at hgiven
    obtain ⟨a, ha, hnumber⟩ := hgiven
    obtain ⟨k, hmem, rfl⟩ := mem_comparison.mp ha
    cases hnumber
    exact h (r, k) hmem

end Comparison

/-- Every comparison with whole bounds, each relation asked for at most once, is an expression
that gives a verdict on every whole number. If the verdict is yes then the strict bounds hold
exactly, and the verdict is yes if no bound is strict and all of them hold exactly. -/
theorem evaluate_comparison {bounds : List (Relation × Int64)}
    (hbounds : (bounds.map Prod.fst).Nodup) (types : Registry) (rule : String) :
    ∃ e, (comparison bounds).expression types rule = .ok e ∧
      ∀ (n : Int64) (scope : Scope), ∃ verdict,
        e.evaluate (.int n) scope = (.ok (.bool verdict), scope) ∧
        (verdict = true → ∀ p ∈ bounds, p.1.isStrict = true → p.1.Holds n.toInt p.2.toInt) ∧
        ((∀ p ∈ bounds, p.1.isStrict = false ∧ p.1.Holds n.toInt p.2.toInt) → verdict = true) := by
  obtain ⟨b, he, hb⟩ := exists_comparison hbounds types rule
  refine ⟨.compare b, he, fun n scope => ?_⟩
  have hverdict := admits_comparison hbounds hb n.toInt
  refine ⟨b.admits (ofInt n.toInt), rfl, ?_, ?_⟩
  · intro hyes p hp hstrict
    exact Relation.holds_of_test hstrict (hverdict.mp hyes p hp)
  · intro h
    exact hverdict.mpr fun p hp => Relation.test_of_holds (h p hp).1 (h p hp).2

/-- The number 2^53 + 1 is rounded to its lower neighbour, and still lies between the two. -/
theorem evaluate_comparison_wide :
    ([(Relation.atLeast, (9007199254740992 : Int64)), (.atMost, 9007199254740993)].map
        Prod.fst).Nodup ∧
      ∃ e, (comparison [(.atLeast, 9007199254740992), (.atMost, 9007199254740993)]).expression
          (.ofList []) "wide" = .ok e ∧
        e.evaluate (.int 9007199254740993) (.seeded (.ofList []) 0) = (.ok (.bool true), .seeded (.ofList []) 0) := by
  have hdistinct : ([(Relation.atLeast, (9007199254740992 : Int64)),
      (.atMost, 9007199254740993)].map Prod.fst).Nodup := by decide
  obtain ⟨e, he, hverdicts⟩ := evaluate_comparison hdistinct (.ofList []) "wide"
  obtain ⟨verdict, hevaluate, _, hweak⟩ := hverdicts 9007199254740993 (.seeded (.ofList []) 0)
  have hyes : verdict = true := hweak (by decide)
  exact ⟨hdistinct, e, he, hyes ▸ hevaluate⟩

end ConversionRules
