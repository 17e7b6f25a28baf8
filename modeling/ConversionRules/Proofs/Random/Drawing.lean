import Mathlib.Algebra.Group.Nat.Defs
import ConversionRules.Proofs.Converter.Scopes

/-!
Draws between two bounds. Sampling is said in words of 64 bits, all of whose
arithmetic wraps around: the size of the range, which is zero for the range of
all numbers, the zone, the halves of a product and the sum that is drawn. A draw
is what sampling comes to, it takes a word or more, and it keeps to its bounds.
-/
namespace ConversionRules

namespace Generator

/-- The size of a range; the range of all numbers wraps around to zero. -/
def rangeWord (lower upper : Int64) : UInt64 := (upper - lower + 1).toUInt64

/-- A size moved up to the top bit, less one. -/
def zoneWord (range : UInt64) : UInt64 := (range <<< (63 - range.log2)) - 1

/-- The upper half of the product of two words. The lower half is the word `a * b`. -/
def upperHalf (a b : UInt64) : UInt64 := .ofNat (a.toNat * b.toNat / UInt64.size)

/-- The lower half of the product of the word and the size lies in the zone. -/
def Accepts (lower upper : Int64) (word : UInt64) : Prop :=
  word * rangeWord lower upper ≤ zoneWord (rangeWord lower upper)

/-- The number that sampling comes to from a state of the generator on, and the
state after it. -/
inductive Sampled (lower upper : Int64) : Generator → Int64 → Generator → Prop
  | whole {g : Generator} (hrange : rangeWord lower upper = 0) :
      Sampled lower upper g g.next.1.toInt64 g.next.2
  | accepted {g : Generator} (hrange : rangeWord lower upper ≠ 0)
      (hword : Accepts lower upper g.next.1) :
      Sampled lower upper g (lower + (upperHalf g.next.1 (rangeWord lower upper)).toInt64)
        g.next.2
  | passed {g g' : Generator} {n : Int64} (hrange : rangeWord lower upper ≠ 0)
      (hword : ¬ Accepts lower upper g.next.1) (hrest : Sampled lower upper g.next.2 n g') :
      Sampled lower upper g n g'

theorem Sampled.unique {lower upper n n' : Int64} {g t t' : Generator}
    (h : Sampled lower upper g n t) (h' : Sampled lower upper g n' t') : n' = n ∧ t' = t := by
  induction h with
  | whole hrange =>
    cases h' with
    | whole _ => exact ⟨rfl, rfl⟩
    | accepted hrange' _ => exact absurd hrange hrange'
    | passed hrange' _ _ => exact absurd hrange hrange'
  | accepted hrange hword =>
    cases h' with
    | whole hrange' => exact absurd hrange' hrange
    | accepted _ _ => exact ⟨rfl, rfl⟩
    | passed _ hword' _ => exact absurd hword hword'
  | passed hrange hword _ ih =>
    cases h' with
    | whole hrange' => exact absurd hrange' hrange
    | accepted _ hword' => exact absurd hword' hword
    | passed _ _ hrest' => exact ih hrest'

/-- The state after so many more words. -/
def ahead (g : Generator) (count : Nat) : Generator := { g with position := g.position + count }

theorem ahead_next (g : Generator) (count : Nat) : g.next.2.ahead count = g.ahead (count + 1) := by
  unfold ahead next
  simp only [Generator.mk.injEq, true_and]
  omega

theorem block_congr (key : Lanes × Lanes) {m n : Nat} (h : m % 2 ^ 64 = n % 2 ^ 64) :
    block key m = block key n := by
  have hlow : UInt32.ofNat m = UInt32.ofNat n := by
    rw [UInt32.ofNat_eq_iff_mod_eq_toNat, UInt32.toNat_ofNat']
    omega
  have hhigh : UInt32.ofNat (m / UInt32.size) = UInt32.ofNat (n / UInt32.size) := by
    rw [UInt32.ofNat_eq_iff_mod_eq_toNat, UInt32.toNat_ofNat']
    simp only [UInt32.size]
    omega
  unfold block
  rw [hlow, hhigh]

/-- The stream repeats after a period. -/
theorem next_ahead_mod_period (g : Generator) (count : Nat) :
    (g.ahead (count % period)).next.1 = (g.ahead count).next.1 := by
  have hperiod : period = 2 ^ 67 := rfl
  have hblock : (g.position + count % period) / 8 % 2 ^ 64 =
      (g.position + count) / 8 % 2 ^ 64 := by
    rw [hperiod]
    omega
  have hplace : (g.position + count % period) % 8 = (g.position + count) % 8 := by
    rw [hperiod]
    omega
  unfold next ahead
  simp only
  rw [block_congr g.key hblock, hplace]

section Sizes

variable {lower upper : Int64}

/-- The size of a range as a whole number. -/
def rangeSize (lower upper : Int64) : Nat := (upper.toInt - lower.toInt + 1).toNat

theorem rangeSize_cast (h : lower ≤ upper) :
    (rangeSize lower upper : Int) = upper.toInt - lower.toInt + 1 := by
  have hle := Int64.le_iff_toInt_le.mp h
  unfold rangeSize
  omega

theorem rangeWord_eq (h : lower ≤ upper) :
    rangeWord lower upper = UInt64.ofNat (rangeSize lower upper) := by
  have hword : upper - lower + 1 = Int64.ofInt (rangeSize lower upper) := by
    rw [rangeSize_cast h, Int64.ofInt_add, Int64.ofInt_sub, Int64.ofInt_toInt, Int64.ofInt_toInt]
    rfl
  rw [rangeWord, hword, Int64.ofInt_eq_ofNat, Int64.toUInt64_ofNat']

theorem toNat_rangeWord (h : lower ≤ upper) (hsize : rangeSize lower upper ≠ UInt64.size) :
    (rangeWord lower upper).toNat = rangeSize lower upper := by
  have hcast := rangeSize_cast h
  have hlower := lower.le_toInt
  have hupper := upper.toInt_lt
  rw [rangeWord_eq h, UInt64.toNat_ofNat']
  apply Nat.mod_eq_of_lt
  simp only [UInt64.size] at hsize
  omega

theorem rangeWord_eq_zero_iff (h : lower ≤ upper) :
    rangeWord lower upper = 0 ↔ rangeSize lower upper = UInt64.size := by
  have hcast := rangeSize_cast h
  have hle := Int64.le_iff_toInt_le.mp h
  constructor
  · intro hzero
    refine Classical.byContradiction fun hsize => ?_
    have hword := toNat_rangeWord h hsize
    rw [hzero, UInt64.toNat_zero] at hword
    omega
  · intro hsize
    rw [rangeWord_eq h, hsize]
    rfl

theorem rangeSize_ne (h : lower ≤ upper) (hrange : rangeWord lower upper ≠ 0) :
    rangeSize lower upper ≠ UInt64.size :=
  mt (rangeWord_eq_zero_iff h).mpr hrange

/-- The zone of a size moves it up by its leading zeros, without loss. -/
theorem toNat_zoneWord {range : UInt64} (hrange : range ≠ 0) :
    (zoneWord range).toNat = zone range.toNat := by
  have hne : range.toNat ≠ 0 := fun h => hrange (UInt64.toNat_inj.mp h)
  have hlog : range.toNat.log2 < 64 := (Nat.log2_lt hne).mpr range.toNat_lt
  have hshift : (63 - range.log2).toNat = 63 - range.toNat.log2 :=
    UInt64.toNat_sub_of_le _ _ (UInt64.le_iff_toNat_le.mpr (Nat.le_of_lt_succ hlog))
  have hpos : 0 < range.toNat * 2 ^ (63 - range.toNat.log2) :=
    Nat.mul_pos (Nat.pos_of_ne_zero hne) (Nat.two_pow_pos _)
  have htop : range.toNat * 2 ^ (63 - range.toNat.log2) < 2 ^ 64 := by
    calc range.toNat * 2 ^ (63 - range.toNat.log2)
        < 2 ^ (range.toNat.log2 + 1) * 2 ^ (63 - range.toNat.log2) :=
          Nat.mul_lt_mul_of_pos_right Nat.lt_log2_self (Nat.two_pow_pos _)
      _ = 2 ^ (range.toNat.log2 + 1 + (63 - range.toNat.log2)) := (Nat.pow_add _ _ _).symm
      _ = 2 ^ 64 := by rw [show range.toNat.log2 + 1 + (63 - range.toNat.log2) = 64 by omega]
  have hmoved : (range <<< (63 - range.log2)).toNat =
      range.toNat * 2 ^ (63 - range.toNat.log2) := by
    have hsmall : 63 - range.toNat.log2 < 64 := by omega
    rw [UInt64.toNat_shiftLeft, hshift, Nat.mod_eq_of_lt hsmall, Nat.shiftLeft_eq,
      Nat.mod_eq_of_lt htop]
  rw [zoneWord, UInt64.toNat_sub_of_le _ _ (UInt64.le_iff_toNat_le.mpr (hmoved ▸ hpos)), hmoved]
  rfl

theorem accepts_iff (h : lower ≤ upper) (hrange : rangeWord lower upper ≠ 0) (word : UInt64) :
    Accepts lower upper word ↔
      word.toNat * rangeSize lower upper % UInt64.size ≤ zone (rangeSize lower upper) := by
  rw [Accepts, UInt64.le_iff_toNat_le, UInt64.toNat_mul, toNat_zoneWord hrange,
    toNat_rangeWord h (rangeSize_ne h hrange)]

/-- The sum that is drawn does not leave the words of 64 bits. -/
theorem offset_eq (h : lower ≤ upper) (hrange : rangeWord lower upper ≠ 0) (word : UInt64) :
    lower + (upperHalf word (rangeWord lower upper)).toInt64 =
      Int64.ofInt (lower.toInt + (word.toNat * rangeSize lower upper / UInt64.size : Nat)) := by
  rw [upperHalf, toNat_rangeWord h (rangeSize_ne h hrange), UInt64.toInt64_ofNat',
    ← Int64.ofInt_eq_ofNat, Int64.ofInt_add, Int64.ofInt_toInt]

end Sizes

section Attempts

variable {lower upper : Int64}

theorem attempt_lt {range : Nat} (hrange : 0 < range) (n : Nat) (g : Generator) :
    (attempt range n g).1 < range := by
  induction n generalizing g with
  | zero => exact hrange
  | succ n ih =>
    rw [attempt]
    simp only
    split
    · apply Nat.div_lt_of_lt_mul
      exact Nat.mul_lt_mul_of_pos_right g.next.1.toNat_lt hrange
    · exact ih g.next.2

/-- Attempts take words from the stream, one each. -/
theorem exists_ahead_attempt (range n : Nat) (g : Generator) :
    ∃ count, (attempt range n g).2 = g.ahead count ∧ (0 < n → 0 < count) := by
  induction n generalizing g with
  | zero => exact ⟨0, rfl, id⟩
  | succ n ih =>
    rw [attempt]
    simp only
    split
    · exact ⟨1, rfl, fun _ => Nat.one_pos⟩
    · obtain ⟨count, hcount, _⟩ := ih g.next.2
      exact ⟨count + 1, hcount.trans (ahead_next g count), fun _ => Nat.succ_pos count⟩

/-- Attempts come to what sampling comes to, unless none of their words is accepted. -/
theorem sampled_attempt (h : lower ≤ upper) (hrange : rangeWord lower upper ≠ 0) (n : Nat)
    (g : Generator) :
    Sampled lower upper g
        (Int64.ofInt (lower.toInt + (attempt (rangeSize lower upper) n g).1))
        (attempt (rangeSize lower upper) n g).2 ∨
      ∀ count < n, ¬ Accepts lower upper (g.ahead count).next.1 := by
  induction n generalizing g with
  | zero => exact Or.inr fun count hcount => absurd hcount (Nat.not_lt_zero count)
  | succ n ih =>
    rw [attempt]
    simp only
    split
    · rename_i hlow
      have hword := (accepts_iff h hrange g.next.1).mpr hlow
      rw [← offset_eq h hrange]
      exact Or.inl (.accepted hrange hword)
    · rename_i hlow
      have hword : ¬ Accepts lower upper g.next.1 := fun hword =>
        hlow ((accepts_iff h hrange g.next.1).mp hword)
      rcases ih g.next.2 with hrest | hrest
      · exact Or.inl (.passed hrange hword hrest)
      · refine Or.inr fun count hcount => ?_
        cases count with
        | zero => exact hword
        | succ count =>
          rw [← ahead_next]
          exact hrest count (Nat.lt_of_succ_lt_succ hcount)

theorem not_sampled {g g' : Generator} {n : Int64} (hrange : rangeWord lower upper ≠ 0)
    (hnever : ∀ count, ¬ Accepts lower upper (g.ahead count).next.1) :
    ¬ Sampled lower upper g n g' := by
  intro h
  induction h with
  | whole hzero => exact hrange hzero
  | accepted _ hword => exact hnever 0 hword
  | passed _ _ _ ih =>
    refine ih fun count => ?_
    rw [ahead_next]
    exact hnever (count + 1)

/-- A draw is what sampling comes to. A stream without an accepted word in a whole
period has none at all. -/
theorem draw_of_sampled {g g' : Generator} {n : Int64} (h : lower ≤ upper)
    (hsampled : Sampled lower upper g n g') : draw lower upper g = (n, g') := by
  by_cases hrange : rangeWord lower upper = 0
  · have hsize : (upper.toInt - lower.toInt + 1).toNat = UInt64.size :=
      (rangeWord_eq_zero_iff h).mp hrange
    obtain ⟨rfl, rfl⟩ := Sampled.unique (.whole hrange) hsampled
    simp only [draw, hsize, if_true]
  · have hsize : (upper.toInt - lower.toInt + 1).toNat ≠ UInt64.size := rangeSize_ne h hrange
    simp only [draw, hsize, if_false]
    rcases sampled_attempt h hrange period g with hattempt | hnever
    · obtain ⟨rfl, rfl⟩ := hattempt.unique hsampled
      rfl
    · refine absurd hsampled (not_sampled hrange fun count => ?_)
      rw [← next_ahead_mod_period]
      exact hnever _ (Nat.mod_lt count (Nat.two_pow_pos 67))

theorem exists_ahead_draw (lower upper : Int64) (g : Generator) :
    ∃ count, 0 < count ∧ (draw lower upper g).2 = g.ahead count := by
  obtain ⟨count, hcount, hpos⟩ := exists_ahead_attempt (rangeSize lower upper) period g
  unfold draw
  simp only
  split
  · exact ⟨1, Nat.one_pos, rfl⟩
  · exact ⟨count, hpos (Nat.two_pow_pos 67), hcount⟩

theorem draw_within (h : lower ≤ upper) (g : Generator) :
    lower ≤ (draw lower upper g).1 ∧ (draw lower upper g).1 ≤ upper := by
  have hcast := rangeSize_cast h
  have hle := Int64.le_iff_toInt_le.mp h
  have hlower := lower.le_toInt
  have hupper := upper.toInt_lt
  rw [Int64.le_iff_toInt_le, Int64.le_iff_toInt_le]
  unfold draw
  simp only
  split
  · -- The range of all numbers, which any number is in.
    rename_i hsize
    have hleast := g.next.1.toInt64.le_toInt
    have hgreatest := g.next.1.toInt64.toInt_lt
    have hwhole : upper.toInt - lower.toInt + 1 = 2 ^ 64 := by
      rw [← hcast]
      exact congrArg Nat.cast hsize
    change lower.toInt ≤ g.next.1.toInt64.toInt ∧ g.next.1.toInt64.toInt ≤ upper.toInt
    omega
  · have hoffset := attempt_lt (n := period) (g := g) (by omega : 0 < rangeSize lower upper)
    change lower.toInt ≤ (Int64.ofInt (lower.toInt +
      (attempt (rangeSize lower upper) period g).1)).toInt ∧ (Int64.ofInt (lower.toInt +
      (attempt (rangeSize lower upper) period g).1)).toInt ≤ upper.toInt
    rw [Int64.toInt_ofInt_of_le (by omega) (by omega)]
    omega

end Attempts

end Generator

end ConversionRules
