import Mathlib.Tactic.SplitIfs
import ConversionRules.Proofs.Number.Rounding

/-!
The order of binary numbers. Rounding keeps the order of whole numbers, though
it may make neighbours equal. What is not a number is compared with nothing.
-/
namespace ConversionRules.Binary64

section Rounding

theorem roundHalfEven_mono {m n : Nat} (den : Nat) (h : m ≤ n) :
    roundHalfEven m den ≤ roundHalfEven n den := by
  have hquotient : m / den ≤ n / den := Nat.div_le_div_right h
  rcases Nat.lt_or_eq_of_le hquotient with hlt | heq
  · have hupper := (roundHalfEven_bounds m den).2
    have hlower := (roundHalfEven_bounds n den).1
    omega
  · -- Between two multiples of the denominator the remainder decides.
    have hm : m / den * den + m % den = m := Nat.div_add_mod' m den
    have hn : n / den * den + n % den = n := Nat.div_add_mod' n den
    rw [heq] at hm
    have hrest : m % den ≤ n % den := by omega
    unfold roundHalfEven
    dsimp only
    rw [heq]
    split_ifs <;> omega

theorem log2_mono {m n : Nat} (h : m ≤ n) : m.log2 ≤ n.log2 := by
  by_cases hm : m = 0
  · rw [hm, Nat.log2_zero]
    exact Nat.zero_le _
  · have hn : n ≠ 0 := by omega
    exact (Nat.le_log2 hn).mpr (Nat.le_trans (Nat.log2_self_le hm) h)

theorem nearestMagnitude_eq {num den k : Nat} (hk : k = Nat.log2 (num / den) - 52) :
    nearestMagnitude num den =
      min infinityMagnitude (k * 2 ^ 52 + roundHalfEven num (den * 2 ^ k)) := by
  subst hk
  rfl

/-- A larger quotient is not rounded to a smaller magnitude. The last multiple
of a step is the first of the next one, so a larger step goes no further down. -/
theorem nearestMagnitude_mono {m n : Nat} (den : Nat) (h : m ≤ n) :
    nearestMagnitude m den ≤ nearestMagnitude n den := by
  obtain ⟨k, hk⟩ : ∃ k, k = Nat.log2 (m / den) - 52 := ⟨_, rfl⟩
  obtain ⟨l, hl⟩ : ∃ l, l = Nat.log2 (n / den) - 52 := ⟨_, rfl⟩
  have hkl : k ≤ l := by
    have hlog := log2_mono (Nat.div_le_div_right (c := den) h)
    omega
  have hoffset : k * 2 ^ 52 + roundHalfEven m (den * 2 ^ k) ≤
      l * 2 ^ 52 + roundHalfEven n (den * 2 ^ l) := by
    rcases Nat.lt_or_eq_of_le hkl with hlt | rfl
    · have hm := (quotient_bounds hk).1
      have hupper := (roundHalfEven_bounds m (den * 2 ^ k)).2
      have hn := (quotient_bounds hl).2
      have hlower := (roundHalfEven_bounds n (den * 2 ^ l)).1
      omega
    · exact Nat.add_le_add_left (roundHalfEven_mono _ h) _
  rw [nearestMagnitude_eq hk, nearestMagnitude_eq hl]
  exact Nat.le_min.mpr ⟨Nat.min_le_left _ _, Nat.le_trans (Nat.min_le_right _ _) hoffset⟩

theorem nearestMagnitude_lt (num den : Nat) : nearestMagnitude num den < 2 ^ 63 := by
  have hle : nearestMagnitude num den ≤ infinityMagnitude := Nat.min_le_left _ _
  exact Nat.lt_of_le_of_lt hle (by decide)

theorem isNaN_ofInt (n : Int) : (ofInt n).isNaN = false := by
  unfold isNaN ofInt nearest
  rw [magnitude_ofMagnitude (nearestMagnitude_lt _ _)]
  exact decide_eq_false (Nat.not_lt.mpr (Nat.min_le_left _ _))

theorem orderKey_ofInt (n : Int) :
    (ofInt n).orderKey = if n < 0 then -(nearestMagnitude (n.natAbs * unitsPerOne) 1 : Int)
      else nearestMagnitude (n.natAbs * unitsPerOne) 1 := by
  have hlt := nearestMagnitude_lt (n.natAbs * unitsPerOne) 1
  unfold orderKey ofInt nearest
  simp only [magnitude_ofMagnitude hlt, negative_ofMagnitude hlt, decide_eq_true_eq]

/-- Rounding keeps the order of whole numbers. -/
theorem orderKey_ofInt_mono {m n : Int} (h : m ≤ n) :
    (ofInt m).orderKey ≤ (ofInt n).orderKey := by
  have hmagnitude {a b : Int} (hab : a.natAbs ≤ b.natAbs) :
      nearestMagnitude (a.natAbs * unitsPerOne) 1 ≤ nearestMagnitude (b.natAbs * unitsPerOne) 1 :=
    nearestMagnitude_mono 1 (Nat.mul_le_mul_right _ hab)
  rw [orderKey_ofInt, orderKey_ofInt]
  by_cases hm : m < 0
  · by_cases hn : n < 0
    · have hle := hmagnitude (a := n) (b := m) (by omega)
      rw [if_pos hm, if_pos hn]
      omega
    · rw [if_pos hm, if_neg hn]
      omega
  · have hn : ¬ n < 0 := by omega
    have hle := hmagnitude (a := m) (b := n) (by omega)
    rw [if_neg hm, if_neg hn]
    omega

end Rounding

theorem compare?_eq_some_iff {x y : Binary64} {o : Ordering} :
    x.compare? y = some o ↔
      x.isNaN = false ∧ y.isNaN = false ∧ compare x.orderKey y.orderKey = o := by
  unfold compare?
  cases x.isNaN <;> cases y.isNaN <;> simp

theorem equal_iff {x y : Binary64} :
    x.equal y = true ↔ x.isNaN = false ∧ y.isNaN = false ∧ x.orderKey = y.orderKey := by
  unfold equal
  rw [beq_iff_eq, compare?_eq_some_iff, Std.LawfulEqOrd.compare_eq_iff_eq]

end ConversionRules.Binary64
