import ConversionRules.Proofs.Number.Ordering
import ConversionRules.Value.Basic

/-!
The order of values. Whole numbers are compared exactly, but a whole number and
a binary one after rounding. So two whole numbers that are rounded to the same
binary number are both equal to it, though one of them is less than the other.
This is the only way in which the order of three values can be inconsistent.
-/
namespace ConversionRules.Value

/-- Two values of like type and how they are compared. -/
inductive Compared : Value → Value → Ordering → Prop
  | whole (m n : Int64) : Compared (.int m) (.int n) (compare m.toInt n.toInt)
  | binary {x y : Binary64} (hx : x.isNaN = false) (hy : y.isNaN = false) :
      Compared (.float x) (.float y) (compare x.orderKey y.orderKey)
  | wholeBinary (m : Int64) {x : Binary64} (hx : x.isNaN = false) :
      Compared (.int m) (.float x) (compare (Binary64.ofInt m.toInt).orderKey x.orderKey)
  | binaryWhole {x : Binary64} (hx : x.isNaN = false) (n : Int64) :
      Compared (.float x) (.int n) (compare x.orderKey (Binary64.ofInt n.toInt).orderKey)
  | truth (a b : Bool) : Compared (.bool a) (.bool b) (compare a.toNat b.toNat)
  | character (a b : Char) : Compared (.char a) (.char b) (compare a.toNat b.toNat)
  | text (s t : String) : Compared (.string s) (.string t) (compare s t)
  | ordinal {a b : EnumValue} (htype : a.typeName = b.typeName) :
      Compared (.enum a) (.enum b) (compare a.ordinal.toInt b.ordinal.toInt)

theorem compare?_eq_some_iff {a b : Value} {o : Ordering} :
    a.compare? b = some o ↔ Compared a b o := by
  constructor
  · intro h
    unfold compare? at h
    split at h
    · cases h
      exact .whole _ _
    · obtain ⟨hx, hy, rfl⟩ := Binary64.compare?_eq_some_iff.mp h
      exact .binary hx hy
    · obtain ⟨_, hx, rfl⟩ := Binary64.compare?_eq_some_iff.mp h
      exact .wholeBinary _ hx
    · obtain ⟨hx, _, rfl⟩ := Binary64.compare?_eq_some_iff.mp h
      exact .binaryWhole hx _
    · cases h
      exact .truth _ _
    · cases h
      exact .character _ _
    · cases h
      exact .text _ _
    · split at h
      · rename_i htype
        cases h
        exact .ordinal htype
      · cases h
    · cases h
  · intro h
    cases h with
    | binary hx hy => exact Binary64.compare?_eq_some_iff.mpr ⟨hx, hy, rfl⟩
    | wholeBinary m hx =>
      exact Binary64.compare?_eq_some_iff.mpr ⟨Binary64.isNaN_ofInt _, hx, rfl⟩
    | binaryWhole hx n =>
      exact Binary64.compare?_eq_some_iff.mpr ⟨hx, Binary64.isNaN_ofInt _, rfl⟩
    | ordinal htype => exact if_pos htype
    | _ => rfl

namespace Compared

variable {a b : Value} {o : Ordering}

theorem swap (h : Compared a b o) : Compared b a o.swap := by
  cases h
  all_goals rw [← Std.OrientedOrd.eq_swap]
  case whole m n => exact .whole n m
  case binary hx hy => exact .binary hy hx
  case wholeBinary m x hx => exact .binaryWhole hx m
  case binaryWhole x hx n => exact .wholeBinary n hx
  case truth a b => exact .truth b a
  case character a b => exact .character b a
  case text s t => exact .text t s
  case ordinal a b htype => exact .ordinal htype.symm

theorem unique {o' : Ordering} (h : Compared a b o) (h' : Compared a b o') : o = o' :=
  Option.some.inj ((compare?_eq_some_iff.mpr h).symm.trans (compare?_eq_some_iff.mpr h'))

end Compared

section Merging

/-- A whole number and a binary one that are equal when they are compared. -/
def RoundsTo (n : Int64) (x : Binary64) : Prop := (Binary64.ofInt n.toInt).equal x = true

/-- A whole number and a greater one that a binary number does not tell apart. -/
structure Merging (m n : Int64) (x : Binary64) : Prop where
  less : m < n
  least : RoundsTo m x
  greatest : RoundsTo n x

/-- Three values in an order in which two merging whole numbers do not follow
each other: the greater one comes first, or nothing but equality comes after
or before them. -/
inductive Merged : Value → Value → Value → Prop
  | around {m n : Int64} {x : Binary64} (h : Merging n m x) : Merged (.int m) (.float x) (.int n)
  | after {m n : Int64} {x : Binary64} (h : Merging m n x) : Merged (.int m) (.int n) (.float x)
  | before {m n : Int64} {x : Binary64} (h : Merging m n x) : Merged (.float x) (.int m) (.int n)

theorem roundsTo_iff {n : Int64} {x : Binary64} (hx : x.isNaN = false) :
    RoundsTo n x ↔ (Binary64.ofInt n.toInt).orderKey = x.orderKey := by
  rw [RoundsTo, Binary64.equal_iff]
  exact ⟨fun h => h.2.2, fun h => ⟨Binary64.isNaN_ofInt _, hx, h⟩⟩

theorem RoundsTo.compare?_eq {n : Int64} {x : Binary64} (h : RoundsTo n x) :
    (Value.int n).compare? (.float x) = some .eq := beq_iff_eq.mp h

theorem merging_iff {m n : Int64} {x : Binary64} (hx : x.isNaN = false) :
    Merging m n x ↔ m.toInt < n.toInt ∧ (Binary64.ofInt m.toInt).orderKey = x.orderKey ∧
      (Binary64.ofInt n.toInt).orderKey = x.orderKey := by
  rw [← Int64.lt_iff_toInt_lt, ← roundsTo_iff hx, ← roundsTo_iff hx]
  exact ⟨fun h => ⟨h.less, h.least, h.greatest⟩, fun h => ⟨h.1, h.2.1, h.2.2⟩⟩

end Merging

section Transitivity

/-- What the comparisons of neighbours ask of the comparison of the ends: it is
not greater, and it is less if one of them is. -/
def Follows (o o' o'' : Ordering) : Prop := o''.isLE = true ∧ (o = .lt ∨ o' = .lt → o'' = .lt)

theorem follows_compare {α : Type} [Ord α] [Std.TransOrd α] {x y z : α}
    (hxy : (compare x y).isLE = true) (hyz : (compare y z).isLE = true) :
    Follows (compare x y) (compare y z) (compare x z) := by
  refine ⟨Std.TransCmp.isLE_trans hxy hyz, ?_⟩
  rintro (hlt | hlt)
  · exact Std.TransCmp.lt_of_lt_of_isLE hlt hyz
  · exact Std.TransCmp.lt_of_isLE_of_lt hxy hlt

/-- Keys in a linear order leave no room for a reason `p` why they should not follow. -/
theorem follows_compare_iff {α : Type} [Ord α] [Std.TransOrd α] {x y z : α} {p : Prop} (hp : ¬ p)
    (hxy : (compare x y).isLE = true) (hyz : (compare y z).isLE = true) :
    Follows (compare x y) (compare y z) (compare x z) ↔ ¬ p :=
  iff_of_true (follows_compare hxy hyz) hp

theorem follows_int_iff {x y z w u v : Int} :
    Follows (compare x y) (compare z w) (compare u v) ↔ u ≤ v ∧ (x < y ∨ z < w → u < v) := by
  rw [Follows, Int.isLE_compare, Int.compare_eq_lt, Int.compare_eq_lt, Int.compare_eq_lt]

/-- Values of like type are all comparable, and only merging whole numbers keep
the comparison of the ends from following from those of neighbours. -/
theorem Compared.trans {a b c : Value} {o o' : Ordering} (hab : Compared a b o)
    (hbc : Compared b c o') :
    ∃ o'', Compared a c o'' ∧
      (o.isLE = true → o'.isLE = true → (Follows o o' o'' ↔ ¬ Merged a b c)) := by
  cases hab with
  | whole m n =>
    cases hbc with
    | whole n p => exact ⟨_, .whole m p, follows_compare_iff nofun⟩
    | @wholeBinary _ x hx =>
      have hmerged : Merged (.int m) (.int n) (.float x) ↔ Merging m n x :=
        ⟨fun | .after h => h, .after⟩
      refine ⟨_, .wholeBinary m hx, fun ho ho' => ?_⟩
      rw [Int.isLE_compare] at ho ho'
      have hround := Binary64.orderKey_ofInt_mono ho
      rw [follows_int_iff, hmerged, merging_iff hx]
      omega
  | binary hx hy =>
    cases hbc with
    | binary _ hz => exact ⟨_, .binary hx hz, follows_compare_iff nofun⟩
    | binaryWhole _ p => exact ⟨_, .binaryWhole hx p, follows_compare_iff nofun⟩
  | @wholeBinary m x hx =>
    cases hbc with
    | binary _ hy => exact ⟨_, .wholeBinary m hy, follows_compare_iff nofun⟩
    | binaryWhole _ p =>
      have hmerged : Merged (.int m) (.float x) (.int p) ↔ Merging p m x :=
        ⟨fun | .around h => h, .around⟩
      refine ⟨_, .whole m p, fun ho ho' => ?_⟩
      rw [Int.isLE_compare] at ho ho'
      rw [follows_int_iff, hmerged, merging_iff hx]
      -- Had they been in the other order, their rounding would have been too.
      have hround := Binary64.orderKey_ofInt_mono (m := p.toInt) (n := m.toInt)
      omega
  | @binaryWhole x hx n =>
    cases hbc with
    | whole _ p =>
      have hmerged : Merged (.float x) (.int n) (.int p) ↔ Merging n p x :=
        ⟨fun | .before h => h, .before⟩
      refine ⟨_, .binaryWhole hx p, fun ho ho' => ?_⟩
      rw [Int.isLE_compare] at ho ho'
      have hround := Binary64.orderKey_ofInt_mono ho'
      rw [follows_int_iff, hmerged, merging_iff hx]
      omega
    | wholeBinary _ hy => exact ⟨_, .binary hx hy, follows_compare_iff nofun⟩
  | truth a b =>
    cases hbc with
    | truth _ c => exact ⟨_, .truth a c, follows_compare_iff nofun⟩
  | character a b =>
    cases hbc with
    | character _ c => exact ⟨_, .character a c, follows_compare_iff nofun⟩
  | text s t =>
    cases hbc with
    | text _ u => exact ⟨_, .text s u, follows_compare_iff nofun⟩
  | ordinal htype =>
    cases hbc with
    | ordinal htype' =>
      exact ⟨_, .ordinal (htype.trans htype'), follows_compare_iff nofun⟩

theorem Merged.eq_or_eq {a b c : Value} (h : Merged a b c) :
    Compared a b .eq ∨ Compared b c .eq := by
  cases h with
  | around h => exact Or.inl (compare?_eq_some_iff.mp h.greatest.compare?_eq)
  | after h => exact Or.inr (compare?_eq_some_iff.mp h.greatest.compare?_eq)
  | before h => exact Or.inl (compare?_eq_some_iff.mp h.least.compare?_eq).swap

end Transitivity

section Comparison

variable {a b c : Value} {o : Ordering}

/-- The two values are of like type, so that one of them is less or both are equal. -/
def Comparable (a b : Value) : Prop := ∃ o, a.compare? b = some o

theorem compare?_swap (h : a.compare? b = some o) : b.compare? a = some o.swap :=
  compare?_eq_some_iff.mpr (compare?_eq_some_iff.mp h).swap

theorem Comparable.symm (h : Comparable a b) : Comparable b a :=
  h.imp' Ordering.swap fun _ => compare?_swap

theorem Comparable.trans (hab : Comparable a b) (hbc : Comparable b c) : Comparable a c := by
  obtain ⟨o, ho⟩ := hab
  obtain ⟨o', ho'⟩ := hbc
  obtain ⟨o'', hac, _⟩ := (compare?_eq_some_iff.mp ho).trans (compare?_eq_some_iff.mp ho')
  exact ⟨o'', compare?_eq_some_iff.mpr hac⟩

theorem eq_of_compare?_self (h : a.compare? a = some o) : o = .eq := by
  have hswap := Option.some.inj (h.symm.trans (compare?_swap h))
  cases o with
  | eq => rfl
  | lt => cases hswap
  | gt => cases hswap

/-- Being less is transitive, as merging takes an equality. -/
theorem compare?_lt_trans (hab : a.compare? b = some .lt) (hbc : b.compare? c = some .lt) :
    a.compare? c = some .lt := by
  rw [compare?_eq_some_iff] at hab hbc
  obtain ⟨o, hac, hfollows⟩ := hab.trans hbc
  have hmerged : ¬ Merged a b c := by
    intro h
    rcases h.eq_or_eq with heq | heq
    · cases hab.unique heq
    · cases hbc.unique heq
  rw [← ((hfollows rfl rfl).mpr hmerged).2 (Or.inl rfl)]
  exact compare?_eq_some_iff.mpr hac

theorem compare?_gt_trans (hab : a.compare? b = some .gt) (hbc : b.compare? c = some .gt) :
    a.compare? c = some .gt :=
  compare?_swap (compare?_lt_trans (compare?_swap hbc) (compare?_swap hab))

end Comparison

/-- Of three values the first is comparable with the last if both are with the
one between. If neither comparison of neighbours gives greater, then neither
does that of the ends, and it gives less if one of them does, exactly if there
are no merging whole numbers among the three. -/
theorem compare?_follows_iff {a b c : Value} {o o' : Ordering} (hab : a.compare? b = some o)
    (hbc : b.compare? c = some o') (ho : o.isLE = true) (ho' : o'.isLE = true) :
    ∃ o'', a.compare? c = some o'' ∧
      (o''.isLE = true ∧ (o = .lt ∨ o' = .lt → o'' = .lt) ↔ ¬ Merged a b c) := by
  rw [compare?_eq_some_iff] at hab hbc
  obtain ⟨o'', hac, hfollows⟩ := hab.trans hbc
  exact ⟨o'', compare?_eq_some_iff.mpr hac, hfollows ho ho'⟩

/-- The least power of two past which not every whole number is a binary one. -/
def widePower : Binary64 := ⟨0x4340000000000000⟩

/-- The power and the number after it, both of which are rounded to the power. -/
theorem merging_widePower : Merging 9007199254740992 9007199254740993 widePower :=
  ⟨by decide, by unfold RoundsTo; decide +kernel, by unfold RoundsTo; decide +kernel⟩

theorem compare?_around_widePower :
    (Value.int 9007199254740993).compare? (.float widePower) = some .eq ∧
    (Value.float widePower).compare? (.int 9007199254740992) = some .eq ∧
    (Value.int 9007199254740993).compare? (.int 9007199254740992) = some .gt ∧
    ¬ ∀ a b c o o', Value.compare? a b = some o → Value.compare? b c = some o' →
      o.isLE = true → o'.isLE = true →
      ∃ o'', a.compare? c = some o'' ∧ o''.isLE = true ∧ (o = .lt ∨ o' = .lt → o'' = .lt) := by
  have hleft := merging_widePower.greatest.compare?_eq
  have hright := compare?_swap merging_widePower.least.compare?_eq
  have hends : (Value.int 9007199254740993).compare? (.int 9007199254740992) = some .gt := by
    decide
  refine ⟨hleft, hright, hends, fun h => ?_⟩
  obtain ⟨o'', hac, hle, _⟩ := h _ _ _ _ _ hleft hright rfl rfl
  cases hends.symm.trans hac
  cases hle

/-- In rising order the two numbers follow each other across the power, in
falling order they are merged. -/
theorem compare?_across_widePower :
    ((Value.int 9007199254740992).compare? (.float widePower) = some .eq ∧
      (Value.float widePower).compare? (.int 9007199254740993) = some .eq ∧
      ∃ o, (Value.int 9007199254740992).compare? (.int 9007199254740993) = some o ∧
        o.isLE = true) ∧
    (Value.int 9007199254740993).compare? (.float widePower) = some .eq ∧
      (Value.float widePower).compare? (.int 9007199254740992) = some .eq ∧
      ∃ o, (Value.int 9007199254740993).compare? (.int 9007199254740992) = some o ∧
        ¬ o.isLE = true := by
  have hleast := merging_widePower.least.compare?_eq
  have hgreatest := merging_widePower.greatest.compare?_eq
  refine ⟨⟨hleast, compare?_swap hgreatest, ?_⟩, hgreatest, compare?_swap hleast, ?_⟩
  · obtain ⟨o, hends, hfollows⟩ :=
      compare?_follows_iff hleast (compare?_swap hgreatest) rfl rfl
    refine ⟨o, hends, (hfollows.mpr ?_).1⟩
    rintro ⟨hmerging⟩
    exact absurd hmerging.less (by decide)
  · obtain ⟨o, hends, hfollows⟩ :=
      compare?_follows_iff hgreatest (compare?_swap hleast) rfl rfl
    refine ⟨o, hends, fun hle => hfollows.mp ⟨hle, ?_⟩ (.around merging_widePower)⟩
    rintro (hlt | hlt)
    · cases hlt
    · cases hlt

end ConversionRules.Value
