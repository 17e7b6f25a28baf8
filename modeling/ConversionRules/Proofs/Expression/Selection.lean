import Mathlib.Data.List.Pairwise
import ConversionRules.Expression.Evaluation
import ConversionRules.Proofs.Value.Ordering

/-!
The largest and the smallest item of a collection. Every item is compared only
with the best one before it. This is enough, although values that are equal to
the same one may be unequal: an item that takes the place of the best one is
better than it, and to be better is transitive.
-/
namespace ConversionRules

/-- The comparison by which an operation prefers an item to another one. -/
inductive LookupOperation.Prefers : LookupOperation → Ordering → Prop
  | max : Prefers .max .gt
  | min : Prefers .min .lt

namespace Lookup

open Value (Comparable)

variable {operation : LookupOperation} {wanted : Ordering}

section Search

theorem prefers_trans (h : operation.Prefers wanted) {a b c : Value}
    (hab : a.compare? b = some wanted) (hbc : b.compare? c = some wanted) :
    a.compare? c = some wanted := by
  cases h with
  | max => exact Value.compare?_gt_trans hab hbc
  | min => exact Value.compare?_lt_trans hab hbc

theorem not_prefers_self (h : operation.Prefers wanted) (a : Value) :
    a.compare? a ≠ some wanted := by
  intro hself
  cases Value.eq_of_compare?_self hself
  cases h

theorem pairwise_comparable_cons_iff {best : Value} {items : List Value} :
    (best :: items).Pairwise Comparable ↔ ∀ item ∈ items, Comparable item best := by
  rw [List.pairwise_cons]
  constructor
  · exact fun h item hitem => (h.1 item hitem).symm
  · intro h
    refine ⟨fun item hitem => (h item hitem).symm, List.pairwise_of_forall_mem_list ?_⟩
    exact fun a ha b hb => (h a ha).trans (h b hb).symm

theorem pairwise_comparable_iff_getElem {items : List Value} :
    items.Pairwise Comparable ↔ ∀ (i j : Nat) (hi : i < items.length) (hj : j < items.length),
      i ≠ j → Comparable items[i] items[j] := by
  rw [List.pairwise_iff_getElem]
  constructor
  · intro h i j hi hj hne
    rcases Nat.lt_or_gt_of_ne hne with hlt | hgt
    · exact h i j hi hj hlt
    · exact (h j i hj hi hgt).symm
  · exact fun h i j hi hj hlt => h i j hi hj (Nat.ne_of_lt hlt)

theorem extreme_cons_eq_ok_iff {best item x : Value} {rest : List Value} :
    extreme wanted best (item :: rest) = .ok x ↔
      (item.compare? best = some wanted ∧ extreme wanted item rest = .ok x) ∨
        ∃ o, o ≠ wanted ∧ item.compare? best = some o ∧ extreme wanted best rest = .ok x := by
  rw [extreme]
  cases item.compare? best with
  | none => simp
  | some o => grind

/-- What replaces the best item is comparable with it, and so with the same items. -/
theorem exists_extreme_iff (wanted : Ordering) (best : Value) (items : List Value) :
    (∃ x, extreme wanted best items = .ok x) ↔ (best :: items).Pairwise Comparable := by
  rw [pairwise_comparable_cons_iff]
  induction items generalizing best with
  | nil => exact iff_of_true ⟨best, rfl⟩ nofun
  | cons item rest ih =>
    rw [List.forall_mem_cons]
    constructor
    · rintro ⟨x, hx⟩
      rcases extreme_cons_eq_ok_iff.mp hx with ⟨hitem, hx⟩ | ⟨o, _, hitem, hx⟩
      · have hrest := (ih item).mp ⟨x, hx⟩
        exact ⟨⟨_, hitem⟩, fun a ha => (hrest a ha).trans ⟨_, hitem⟩⟩
      · exact ⟨⟨o, hitem⟩, (ih best).mp ⟨x, hx⟩⟩
    · rintro ⟨⟨o, hitem⟩, hrest⟩
      by_cases ho : o = wanted
      · subst ho
        obtain ⟨x, hx⟩ := (ih item).mpr fun a ha => (hrest a ha).trans (Comparable.symm ⟨_, hitem⟩)
        exact ⟨x, extreme_cons_eq_ok_iff.mpr (Or.inl ⟨hitem, hx⟩)⟩
      · obtain ⟨x, hx⟩ := (ih best).mpr hrest
        exact ⟨x, extreme_cons_eq_ok_iff.mpr (Or.inr ⟨o, ho, hitem, hx⟩)⟩

theorem mem_of_extreme {best x : Value} {items : List Value}
    (hx : extreme wanted best items = .ok x) : x ∈ best :: items := by
  induction items generalizing best with
  | nil =>
    cases hx
    exact List.mem_cons_self
  | cons item rest ih =>
    rcases extreme_cons_eq_ok_iff.mp hx with ⟨_, hx⟩ | ⟨_, _, _, hx⟩
    · exact List.mem_cons_of_mem _ (ih hx)
    · rcases List.mem_cons.mp (ih hx) with rfl | hmem
      · exact List.mem_cons_self
      · exact List.mem_cons_of_mem _ (List.mem_cons_of_mem _ hmem)

/-- What is not preferred to the best item so far is not preferred to the one that is found. -/
theorem not_preferred_of_best (h : operation.Prefers wanted) {best x y : Value}
    {items : List Value} (hx : extreme wanted best items = .ok x)
    (hy : y.compare? best ≠ some wanted) : y.compare? x ≠ some wanted := by
  induction items generalizing best with
  | nil =>
    cases hx
    exact hy
  | cons item rest ih =>
    rcases extreme_cons_eq_ok_iff.mp hx with ⟨hitem, hx⟩ | ⟨_, _, _, hx⟩
    · exact ih hx fun hpreferred => hy (prefers_trans h hpreferred hitem)
    · exact ih hx hy

theorem not_preferred_of_mem (h : operation.Prefers wanted) {best x : Value}
    {items : List Value} (hx : extreme wanted best items = .ok x) :
    ∀ y ∈ best :: items, y.compare? x ≠ some wanted := by
  induction items generalizing best with
  | nil =>
    exact List.forall_mem_singleton.mpr (not_preferred_of_best h hx (not_prefers_self h best))
  | cons item rest ih =>
    have hbest := not_preferred_of_best h hx (not_prefers_self h best)
    rcases extreme_cons_eq_ok_iff.mp hx with ⟨_, hx⟩ | ⟨o, ho, hitem, hx⟩
    · exact List.forall_mem_cons.mpr ⟨hbest, ih hx⟩
    · have hother : item.compare? best ≠ some wanted :=
        fun heq => ho (Option.some.inj (hitem.symm.trans heq))
      have hrest := (List.forall_mem_cons.mp (ih hx)).2
      exact List.forall_mem_cons.mpr
        ⟨hbest, List.forall_mem_cons.mpr ⟨not_preferred_of_best h hx hother, hrest⟩⟩

end Search

section Extremes

theorem select_cons (h : operation.Prefers wanted) (item : Value) (rest : List Value) :
    select operation (item :: rest) = extreme wanted item rest := by
  cases h with
  | max => rfl
  | min => rfl

theorem not_select_nil (h : operation.Prefers wanted) (x : Value) :
    select operation [] ≠ .ok x := by
  cases h with
  | max => nofun
  | min => nofun

theorem exists_select_iff (h : operation.Prefers wanted) (items : List Value) :
    (∃ x, select operation items = .ok x) ↔ items ≠ [] ∧ items.Pairwise Comparable := by
  cases items with
  | nil => exact iff_of_false (fun ⟨x, hx⟩ => not_select_nil h x hx) fun hne => hne.1 rfl
  | cons item rest =>
    rw [select_cons h, exists_extreme_iff]
    exact ⟨fun hpairs => ⟨List.cons_ne_nil _ _, hpairs⟩, And.right⟩

theorem evaluate_eq_ok_iff {v x : Value} {items : List Value} (hitems : v.elements? = some items)
    (s : Scope) :
    (Expression.lookup { operation := operation }).evaluate v s = (.ok x, s) ↔
      select operation items = .ok x := by
  rw [Expression.evaluate_eq, Expression.attempt, evaluate, hitems]
  dsimp only
  cases select operation items with
  | error cause => exact iff_of_false nofun nofun
  | ok y => simp [Except.mapError]

end Extremes

/-- The largest or the smallest item of a list or text is found exactly if there
is an item and any two of them are comparable, in whatever order they are given.
It is an item that no item is preferred to. -/
theorem evaluate_extreme (hoperation : operation.Prefers wanted) {v : Value} {items : List Value}
    (hitems : v.elements? = some items) (s : Scope) :
    ((∃ x, (Expression.lookup { operation := operation }).evaluate v s = (.ok x, s)) ↔
      items ≠ [] ∧ ∀ (i j : Nat) (hi : i < items.length) (hj : j < items.length),
        i ≠ j → Comparable items[i] items[j]) ∧
    (∀ w others, w.elements? = some others → others.Perm items →
      ((∃ x, (Expression.lookup { operation := operation }).evaluate w s = (.ok x, s)) ↔
        ∃ x, (Expression.lookup { operation := operation }).evaluate v s = (.ok x, s))) ∧
    ∀ x, (Expression.lookup { operation := operation }).evaluate v s = (.ok x, s) →
      x ∈ items ∧ ∀ y ∈ items, y.compare? x ≠ some wanted := by
  simp only [evaluate_eq_ok_iff hitems]
  refine ⟨?_, fun w others hothers hperm => ?_, fun x hx => ?_⟩
  · rw [exists_select_iff hoperation, pairwise_comparable_iff_getElem]
  · simp only [evaluate_eq_ok_iff hothers]
    rw [exists_select_iff hoperation, exists_select_iff hoperation,
      ← List.length_pos_iff, ← List.length_pos_iff, hperm.length_eq,
      hperm.pairwise_iff Comparable.symm]
  · cases items with
    | nil => exact absurd hx (not_select_nil hoperation x)
    | cons item rest =>
      rw [select_cons hoperation] at hx
      exact ⟨mem_of_extreme hx, not_preferred_of_mem hoperation hx⟩

/-- A binary number and two neighbours that are rounded to it. -/
def mergedItems : List Value :=
  [.float Value.widePower, .int 9007199254740993, .int 9007199254740992]

/-- The first item is equal to both others, though one of them is the greater one. -/
theorem evaluate_max_mergedItems :
    LookupOperation.Prefers .max .gt ∧ (Value.list mergedItems).elements? = some mergedItems ∧
    (Expression.lookup { operation := .max }).evaluate (.list mergedItems) (.seeded .empty 0) =
      (.ok (.float Value.widePower), .seeded .empty 0) ∧
    (∀ (i j : Nat) (hi : i < mergedItems.length) (hj : j < mergedItems.length),
      i ≠ j → Comparable mergedItems[i] mergedItems[j]) ∧
    ∀ y ∈ mergedItems, y.compare? (.float Value.widePower) ≠ some .gt := by
  have hitems : (Value.list mergedItems).elements? = some mergedItems := rfl
  have hfirst : select .max mergedItems = .ok (.float Value.widePower) := by
    have hgreatest := Value.merging_widePower.greatest.compare?_eq
    have hleast := Value.merging_widePower.least.compare?_eq
    rw [mergedItems, select_cons .max]
    refine extreme_cons_eq_ok_iff.mpr (Or.inr ⟨.eq, nofun, hgreatest, ?_⟩)
    exact extreme_cons_eq_ok_iff.mpr (Or.inr ⟨.eq, nofun, hleast, rfl⟩)
  have hfound := (evaluate_eq_ok_iff hitems (.seeded .empty 0)).mpr hfirst
  obtain ⟨hpairs, _, hbest⟩ := evaluate_extreme .max hitems (.seeded .empty 0)
  exact ⟨.max, hitems, hfound, (hpairs.mp ⟨_, hfound⟩).2, (hbest _ hfound).2⟩

end Lookup

end ConversionRules
