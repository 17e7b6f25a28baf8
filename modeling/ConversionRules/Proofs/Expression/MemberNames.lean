import ConversionRules.Proofs.Expression.Membership

/-!
The names that converted values carry. A value of the enum type itself is kept
with the name that it came with, whether or not a member has this name. A value
that is made from a number or a text is named after the member that carries its
ordinal, if there is one and no other.
-/
namespace ConversionRules

namespace EnumType

variable {t : EnumType} {v : Value} {x : EnumValue}

/-- The names of the members that carry an ordinal. -/
def bearers (t : EnumType) (n : Int64) : List String :=
  (t.members.filter fun m => m.2 == n).map Prod.fst

theorem memberName_enumValue (t : EnumType) (n : Int64) :
    (t.enumValue n).memberName = (t.bearers n).head? := by
  rw [bearers, List.head?_map, List.head?_filter, enumValue]

theorem memberName_of_bearers {n : Int64} (h : (t.bearers n).length ≤ 1) :
    (∀ name, (t.enumValue n).memberName = some name ↔ t.bearers n = [name]) ∧
      ((t.enumValue n).memberName = none ↔ t.bearers n = []) := by
  rw [memberName_enumValue]
  match t.bearers n, h with
  | [], _ => simp
  | [name], _ => simp

/-- A value and what it is converted to: it is kept, or made from an ordinal. -/
inductive Converts (t : EnumType) : Value → EnumValue → Prop
  | kept {x : EnumValue} (htype : x.typeName = t.name) : Converts t (.enum x) x
  | made {v : Value} {n : Int64} (hv : ∀ x, v ≠ .enum x) (hn : t.ordinal? v = some n) :
      Converts t v (t.enumValue n)

theorem parse?_eq_some_iff : t.parse? v = some x ↔ t.Converts v x := by
  constructor
  · intro h
    unfold parse? at h
    split at h
    · rename_i y
      split at h
      · rename_i htype
        cases h
        exact .kept htype
      · cases h
    · rename_i hv
      obtain ⟨n, hn, rfl⟩ := Option.map_eq_some_iff.mp h
      exact .made hv hn
  · intro h
    cases h with
    | kept htype => exact if_pos htype
    | made hv hn =>
      rw [parse?, hn, Option.map_some]
      exact hv

theorem Converts.typeName_eq (h : t.Converts v x) : x.typeName = t.name := by
  cases h with
  | kept htype => exact htype
  | made hv hn => rfl

/-- What a value is converted to is converted to itself. -/
theorem parse?_again {source : Option Value} (h : t.parse? (source.getD v) = some x) :
    t.parse? (source.getD (.enum x)) = some x := by
  cases source with
  | none => exact parse?_eq_some_iff.mpr (.kept (parse?_eq_some_iff.mp h).typeName_eq)
  | some w => exact h

end EnumType

/-- A value that an enum expression succeeds with is the value of the type that
it was given, or else its name is that of the only member with its ordinal, and
it has none if there is no such member. -/
theorem evaluate_memberName {e : Enumeration} {t : EnumType} {v x : Value} {s s' : Scope}
    (htarget : e.target s.types = .ok t)
    (h : (Expression.enum e).evaluate v s = (.ok x, s')) :
    ∃ y, x = .enum y ∧ y.typeName = t.name ∧
      (∀ z, e.value.getD v = .enum z → y = z) ∧
      ((∀ z, e.value.getD v ≠ .enum z) → (t.bearers y.ordinal).length ≤ 1 →
        (∀ name, y.memberName = some name ↔ t.bearers y.ordinal = [name]) ∧
          (y.memberName = none ↔ t.bearers y.ordinal = [])) := by
  obtain ⟨_, y, hparse, rfl⟩ := (Expression.evaluate_enum_eq_ok_iff htarget).mp h
  have hconverts := EnumType.parse?_eq_some_iff.mp hparse
  refine ⟨y, rfl, hconverts.typeName_eq, fun z hz => ?_, fun hother hsingle => ?_⟩
  · rw [hz] at hconverts
    cases hconverts with
    | kept htype => rfl
    | made hv hn => exact absurd rfl (hv z)
  · generalize e.value.getD v = source at hconverts hother
    cases hconverts with
    | kept htype => exact absurd rfl (hother y)
    | made hv hn => exact EnumType.memberName_of_bearers hsingle

/-- A type with two names for one ordinal. -/
def hueType : EnumType := ⟨"Hue", [("red", 0), ("scarlet", 1), ("crimson", 1)], false⟩

def hueConversion : Enumeration := { definition := some hueType }

/-- An ordinal that one member carries, one that none carries, and a value of
the type with a name that none of its members has. -/
theorem evaluate_hueConversion :
    hueConversion.target (Scope.seeded .empty 0).types = .ok hueType ∧
    (Expression.enum hueConversion).evaluate (.string " red ") (.seeded .empty 0) =
      (.ok (.enum ⟨"Hue", some "red", 0⟩), .seeded .empty 0) ∧
    hueType.bearers 0 = ["red"] ∧
    (Expression.enum hueConversion).evaluate (.int 7) (.seeded .empty 0) =
      (.ok (.enum ⟨"Hue", none, 7⟩), .seeded .empty 0) ∧
    hueType.bearers 7 = [] ∧
    ∃ y, (Expression.enum hueConversion).evaluate (.enum ⟨"Hue", some "ruby", 0⟩)
        (.seeded .empty 0) = (.ok (.enum y), .seeded .empty 0) ∧ y.memberName = some "ruby" := by
  have hred : (Expression.enum hueConversion).evaluate (.string " red ") (.seeded .empty 0) =
      (.ok (.enum ⟨"Hue", some "red", 0⟩), .seeded .empty 0) := rfl
  have hseven : (Expression.enum hueConversion).evaluate (.int 7) (.seeded .empty 0) =
      (.ok (.enum ⟨"Hue", none, 7⟩), .seeded .empty 0) := rfl
  have hruby : (Expression.enum hueConversion).evaluate (.enum ⟨"Hue", some "ruby", 0⟩)
      (.seeded .empty 0) = (.ok (.enum ⟨"Hue", some "ruby", 0⟩), .seeded .empty 0) := rfl
  obtain ⟨_, ⟨⟩, _, _, hnamed⟩ := evaluate_memberName (t := hueType) rfl hred
  obtain ⟨_, ⟨⟩, _, _, hunnamed⟩ := evaluate_memberName (t := hueType) rfl hseven
  obtain ⟨y, hy, _, hkept, _⟩ := evaluate_memberName (t := hueType) rfl hruby
  refine ⟨rfl, hred, ?_, hseven, ?_, y, hy ▸ hruby, ?_⟩
  · exact ((hnamed nofun (by decide)).1 "red").mp rfl
  · exact (hunnamed nofun (by decide)).2.mp rfl
  · rw [hkept _ rfl]

/-- A value can carry another name than that of the only member with its ordinal,
or a name though several members have its ordinal. -/
theorem evaluate_named_apart :
    ((Expression.enum hueConversion).evaluate (.enum ⟨"Hue", some "ruby", 0⟩)
        (.seeded .empty 0) = (.ok (.enum ⟨"Hue", some "ruby", 0⟩), .seeded .empty 0) ∧
      hueType.bearers 0 = ["red"]) ∧
    ((Expression.enum hueConversion).evaluate (.int 1) (.seeded .empty 0) =
        (.ok (.enum ⟨"Hue", some "scarlet", 1⟩), .seeded .empty 0) ∧
      hueType.bearers 1 = ["scarlet", "crimson"]) ∧
    ¬ ∀ (e : Enumeration) (t : EnumType) (v : Value) (s s' : Scope) (y : EnumValue),
      e.target s.types = .ok t → (Expression.enum e).evaluate v s = (.ok (.enum y), s') →
        ∀ name, y.memberName = some name ↔ t.bearers y.ordinal = [name] := by
  have hruby : (Expression.enum hueConversion).evaluate (.enum ⟨"Hue", some "ruby", 0⟩)
      (.seeded .empty 0) = (.ok (.enum ⟨"Hue", some "ruby", 0⟩), .seeded .empty 0) := rfl
  have hred : hueType.bearers 0 = ["red"] := by decide
  refine ⟨⟨hruby, hred⟩, ⟨rfl, by decide⟩, fun h => ?_⟩
  have hname := (h hueConversion hueType _ _ _ _ rfl hruby "ruby").mp rfl
  rw [hred] at hname
  exact absurd hname (by decide)

end ConversionRules
