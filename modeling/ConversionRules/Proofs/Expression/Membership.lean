import Mathlib.Data.List.Nodup
import ConversionRules.Expression.Evaluation
import ConversionRules.Proofs.Number.Printing

/-!
Values of enum types and their texts. A value is shown as the first member that
carries its ordinal, or else as the ordinal. The text is read back as the same
value if the names of the members are told apart from each other, from numbers
and from lists of names.
-/
namespace ConversionRules

namespace EnumType

variable {t : EnumType}

/-- No name of a member is taken for anything but this member. -/
structure Readable (t : EnumType) : Prop where
  distinct : (t.members.map Prod.fst).Nodup
  trimmed : ∀ m ∈ t.members, Text.trim m.1.toList = m.1.toList
  not_number : ∀ m ∈ t.members, Numeral.readInt64? m.1.toList = none
  no_comma : ∀ m ∈ t.members, ',' ∉ m.1.toList

theorem valueOf?_of_mem (hdistinct : (t.members.map Prod.fst).Nodup) {m : String × Int64}
    (hm : m ∈ t.members) : t.valueOf? m.1 = some m.2 := by
  unfold valueOf?
  cases hfind : t.members.find? fun other => other.1 == m.1 with
  | none =>
    have hne := List.find?_eq_none.mp hfind m hm
    exact absurd (beq_self_eq_true m.1) hne
  | some other =>
    have hname := List.find?_some hfind
    rw [beq_iff_eq] at hname
    have hother : other = m :=
      List.inj_on_of_nodup_map hdistinct (List.mem_of_find?_eq_some hfind) hm hname
    rw [hother]
    rfl

/-- A value is shown as a member that carries its ordinal, or as the ordinal. -/
theorem display_enumValue (t : EnumType) (n : Int64) :
    (∃ name, (name, n) ∈ t.members ∧ (t.enumValue n).display = name.toList) ∨
      (t.enumValue n).display = Numeral.integer n.toInt := by
  unfold EnumValue.display enumValue
  cases hfind : t.members.find? fun m => m.2 == n with
  | none => exact Or.inr rfl
  | some m =>
    have hordinal := List.find?_some hfind
    rw [beq_iff_eq] at hordinal
    exact Or.inl ⟨m.1, hordinal ▸ List.mem_of_find?_eq_some hfind, rfl⟩

/-- The text of a value, without white space around it, denotes its ordinal. -/
theorem ordinalOfText?_display (ht : t.Readable) (n : Int64) :
    Text.trim (t.enumValue n).display = (t.enumValue n).display ∧
      t.ordinalOfText? (t.enumValue n).display = some n := by
  rcases t.display_enumValue n with ⟨name, hmember, hdisplay⟩ | hdisplay
  · have hcomma : name.toList.contains ',' = false := by
      simpa using ht.no_comma (name, n) hmember
    rw [hdisplay]
    refine ⟨ht.trimmed (name, n) hmember, ?_⟩
    unfold ordinalOfText?
    rw [ht.not_number (name, n) hmember, hcomma, Bool.and_false, String.ofList_toList]
    exact valueOf?_of_mem ht.distinct hmember
  · rw [hdisplay]
    refine ⟨Numeral.trim_integer _, ?_⟩
    rw [ordinalOfText?, Numeral.readInt64?_integer]

/-- White space around the text makes no difference. -/
theorem parse?_display (ht : t.Readable) (n : Int64) {before after : List Char}
    (hbefore : ∀ c ∈ before, Text.isBlank c = true)
    (hafter : ∀ c ∈ after, Text.isBlank c = true) :
    t.parse? (.string (String.ofList (before ++ (t.enumValue n).display ++ after))) =
      some (t.enumValue n) := by
  obtain ⟨htrim, hordinal⟩ := ordinalOfText?_display ht n
  rw [parse?, ordinal?, String.toList_ofList, Text.trim_append hbefore hafter, htrim, hordinal]
  · rfl
  · nofun

end EnumType

theorem Expression.evaluate_enum {e : Enumeration} {t : EnumType} {s : Scope}
    (htarget : e.target s.types = .ok t) (v : Value) :
    (Expression.enum e).evaluate v s =
      (match t.parse? (e.value.getD v) with
        | some x => .ok (.enum x)
        | none => .error ⟨.enum, .unparsable (String.ofList (e.value.getD v).display) t.name⟩,
        s) := by
  rw [Expression.evaluate_eq, Expression.attempt, Enumeration.evaluate, htarget]
  dsimp only
  cases t.parse? (e.value.getD v) with
  | none => rfl
  | some x => rfl

theorem Expression.evaluate_enum_eq_ok_iff {e : Enumeration} {t : EnumType} {s s' : Scope}
    (htarget : e.target s.types = .ok t) {v x : Value} :
    (Expression.enum e).evaluate v s = (.ok x, s') ↔
      s = s' ∧ ∃ y, t.parse? (e.value.getD v) = some y ∧ .enum y = x := by
  rw [evaluate_enum htarget]
  cases t.parse? (e.value.getD v) with
  | none => simp
  | some y => simp [and_comm]

/-- The text of a value of an enum type, with or without white space around it,
is converted to this value, whether it shows a member or only the ordinal. -/
theorem evaluate_display_enumValue {t : EnumType} (ht : t.Readable) (n : Int64)
    {before after : List Char} (hbefore : ∀ c ∈ before, Text.isBlank c = true)
    (hafter : ∀ c ∈ after, Text.isBlank c = true) {e : Enumeration} {v : Value} {s : Scope}
    (htarget : e.target s.types = .ok t)
    (hsource : e.value.getD v =
      .string (String.ofList (before ++ (Value.enum (t.enumValue n)).display ++ after))) :
    (Expression.enum e).evaluate v s = (.ok (.enum (t.enumValue n)), s) := by
  have hparse : t.parse? (e.value.getD v) = some (t.enumValue n) := by
    rw [hsource, Value.display]
    exact EnumType.parse?_display ht n hbefore hafter
  rw [Expression.evaluate_enum htarget, hparse]

/-- A flags type with two names for one ordinal, a negative ordinal and a name
that is empty. -/
def inkFlags : EnumType :=
  { name := "Ink", members := [("dry", 1), ("stiff", 1), ("left over", -3), ("", 4)],
    flags := true }

theorem readable_inkFlags : inkFlags.Readable :=
  ⟨by decide, by decide, by decide, by decide⟩

/-- A member, and an ordinal that no member carries. -/
theorem evaluate_display_inkFlags :
    inkFlags.Readable ∧
    (Expression.enum { definition := some inkFlags }).evaluate (.string "\tleft over \n")
        (.seeded .empty 0) =
      (.ok (.enum ⟨"Ink", some "left over", -3⟩), .seeded .empty 0) ∧
    (Expression.enum { definition := some inkFlags }).evaluate (.string " -5") (.seeded .empty 0) =
      (.ok (.enum ⟨"Ink", none, -5⟩), .seeded .empty 0) := by
  have hnamed : inkFlags.enumValue (-3) = ⟨"Ink", some "left over", -3⟩ := by decide +kernel
  have hunnamed : inkFlags.enumValue (-5) = ⟨"Ink", none, -5⟩ := by decide +kernel
  rw [← hnamed, ← hunnamed]
  have htab : ∀ c ∈ ['\t'], Text.isBlank c = true :=
    List.forall_mem_singleton.mpr (by decide)
  have hblank : ∀ c ∈ [' '], Text.isBlank c = true :=
    List.forall_mem_singleton.mpr (by decide)
  have hend : ∀ c ∈ [' ', '\n'], Text.isBlank c = true :=
    List.forall_mem_cons.mpr ⟨by decide, List.forall_mem_singleton.mpr (by decide)⟩
  refine ⟨readable_inkFlags, ?_, ?_⟩
  · exact evaluate_display_enumValue readable_inkFlags (-3) htab hend rfl rfl
  · exact evaluate_display_enumValue readable_inkFlags (-5) hblank (List.forall_mem_nil _) rfl rfl

end ConversionRules
