import ConversionRules.Proofs.Expression.Editing

/-!
Indices that are out of range. Only the index of a lookup and the positions of
a transform can be, and the error gives the index and the length. The index is
outside the length it is given with, unless it is the start of a substring that
comes after its end: the start may then lie within the text.
-/
namespace ConversionRules

/-- An outcome whose index, if the error gives one, is outside the length given with it. -/
def Outside {α : Type} (x : Except Cause α) : Prop :=
  ∀ index length, x = .error (.indexOutOfRange index length) → length ≤ index

section Lookups

theorem outside_extreme (wanted : Ordering) (best : Value) (items : List Value) :
    Outside (Lookup.extreme wanted best items) := by
  intro index length h
  induction items generalizing best with
  | nil => cases h
  | cons item rest ih =>
    unfold Lookup.extreme at h
    split at h
    · cases h
    · exact ih _ h

theorem outside_select (operation : LookupOperation) (items : List Value) :
    Outside (Lookup.select operation items) := by
  intro index length h
  unfold Lookup.select at h
  split at h
  · cases h
  · cases h
  · cases h
  · cases h
  · exact outside_extreme _ _ _ index length h
  · exact outside_extreme _ _ _ index length h

theorem outside_lookup (l : Lookup) (v : Value) : Outside (l.evaluate v) := by
  intro index length h
  unfold Lookup.evaluate at h
  split at h
  · split at h
    · split at h
      · cases h
      · rename_i hitem
        cases h
        exact List.getElem?_eq_none_iff.mp hitem
    · cases h
  · split at h
    · cases h
    · exact outside_select _ _ index length h

end Lookups

/-- The transform cuts the text from a start that comes after the end, and the
text has a character at the start. -/
inductive Crossed : Expression → Value → Nat → Nat → Prop
  | mk {t : TextTransform} {text : String} {start stop : UInt64} {cs : List Char}
      (hcs : TextTransform.trimStage t.trim text.toList = cs)
      (hstart : t.substringStart = some start) (hstop : t.substringEnd = some stop)
      (hcrossed : stop < start) (hwithin : start.toNat < cs.length) :
      Crossed (.transform t) (.string text) start.toNat cs.length

namespace TextTransform

/-- A start after the end is outside the text unless an end is given and the
start is within the text. -/
theorem length_le_or_crossed {start stop : Option UInt64} {cs : List Char}
    (h : stop.elim cs.length UInt64.toNat < start.elim 0 UInt64.toNat) :
    cs.length ≤ start.elim 0 UInt64.toNat ∨
      ∃ first last, start = some first ∧ stop = some last ∧ last < first ∧
        first.toNat < cs.length := by
  cases start with
  | none => exact absurd h (Nat.not_lt_zero _)
  | some first =>
    cases stop with
    | none => exact Or.inl (Nat.le_of_lt h)
    | some last =>
      refine (Nat.lt_or_ge first.toNat cs.length).symm.imp_right fun hwithin => ?_
      exact ⟨first, last, rfl, rfl, UInt64.lt_iff_toNat_lt.mpr h, hwithin⟩

theorem outside_or_crossed_reshape {t : TextTransform} {text : String} {index length : Nat}
    (h : t.reshape text.toList = .error (.indexOutOfRange index length)) :
    length ≤ index ∨ Crossed (.transform t) (.string text) index length := by
  unfold reshape at h
  split at h
  · rename_i cause hcut
    cases h
    rcases cutStage_eq_error_iff.mp hcut with ⟨hlast, h⟩ | ⟨_, hfirst, h⟩
    · cases h
      exact Or.inl (Nat.le_of_lt hlast)
    · cases h
      refine (length_le_or_crossed hfirst).imp_right ?_
      rintro ⟨first, last, hstart, hstop, hcrossed, hwithin⟩
      rw [hstart]
      exact .mk rfl hstart hstop hcrossed hwithin
  · rename_i cut hcut
    obtain ⟨n, hn, h⟩ := length_lt_of_insertStage (map_eq_error_iff.mp h)
    cases h
    exact Or.inl (Nat.le_of_lt hn)

theorem outside_or_crossed {t : TextTransform} {v : Value} {index length : Nat}
    (h : t.evaluate v = .error (.indexOutOfRange index length)) :
    length ≤ index ∨ Crossed (.transform t) v index length := by
  cases htext : v.requireText with
  | error cause =>
    rw [evaluate_of_requireText htext] at h
    cases h
    unfold Value.requireText at htext
    split at htext
    · cases htext
    · cases htext
  | ok cs =>
    obtain ⟨text, rfl⟩ := exists_string_of_requireText htext
    rw [evaluate_string, map_eq_error_iff] at h
    exact outside_or_crossed_reshape h

end TextTransform

namespace Crossed

variable {e : Expression} {v : Value} {index length : Nat}

theorem index_lt (h : Crossed e v index length) : index < length := by
  cases h with
  | mk hcs hstart hstop hcrossed hwithin => exact hwithin

theorem evaluate_eq (h : Crossed e v index length) (s : Scope) :
    e.evaluate v s = (.error ⟨.transform, .indexOutOfRange index length⟩, s) := by
  cases h with
  | @mk t text start stop cs hcs hstart hstop hcrossed hwithin =>
    have hlt : stop.toNat < start.toNat := UInt64.lt_iff_toNat_lt.mp hcrossed
    have hcut : TextTransform.cutStage t.substringStart t.substringEnd cs =
        .error (.indexOutOfRange start.toNat cs.length) := by
      rw [TextTransform.cutStage_eq_error_iff, hstart, hstop]
      exact Or.inr ⟨Nat.le_of_lt (Nat.lt_trans hlt hwithin), hlt, rfl⟩
    have hvalue : t.evaluate (.string text) = .error (.indexOutOfRange start.toNat cs.length) := by
      rw [TextTransform.evaluate_string, TextTransform.reshape, hcs, hcut]
      rfl
    rw [Expression.evaluate_eq, Expression.attempt, hvalue]
    rfl

end Crossed

theorem Expression.outside_or_crossed {e : Expression} {v : Value} {s : Scope}
    {index length : Nat} (h : (e.attempt v s).1 = .error (.indexOutOfRange index length)) :
    length ≤ index ∨ Crossed e v index length := by
  -- Expressions of every other kind never fail with this cause.
  have hkind := failsAs_attempt e v s _ h
  cases e with
  | lookup l => exact Or.inl (outside_lookup l v index length h)
  | transform t => exact TextTransform.outside_or_crossed h
  | _ => simp [Cause.kinds, Expression.kind] at hkind

/-- An index that is out of range is outside the length that the error gives
with it, unless it is a start that is within the text and comes after the end of
its substring. Every such start is reported with the length of the whole text. -/
theorem evaluate_indexOutOfRange (e : Expression) (v : Value) (s : Scope) (index length : Nat) :
    (∀ kind s', e.evaluate v s = (.error ⟨kind, .indexOutOfRange index length⟩, s') →
      length ≤ index ∨ Crossed e v index length) ∧
    (Crossed e v index length →
      e.evaluate v s = (.error ⟨.transform, .indexOutOfRange index length⟩, s) ∧
        index < length) := by
  refine ⟨fun kind s' h => ?_, fun h => ⟨h.evaluate_eq s, h.index_lt⟩⟩
  rw [Expression.evaluate_eq, Prod.mk.injEq] at h
  cases hattempt : (e.attempt v s).1 with
  | ok x =>
    rw [hattempt] at h
    cases h.1
  | error cause =>
    rw [hattempt] at h
    cases h.1
    exact Expression.outside_or_crossed hattempt

/-- A substring that begins at the fifth character and ends after the first. -/
def backwards : TextTransform := { substringStart := some 4, substringEnd := some 1 }

/-- The text has five characters, so its fifth is not out of range. -/
theorem evaluate_backwards :
    (Expression.transform backwards).evaluate (.string "hello") (.seeded .empty 0) =
      (.error ⟨.transform, .indexOutOfRange 4 5⟩, .seeded .empty 0) ∧
    EvalError.message ⟨.transform, .indexOutOfRange 4 5⟩ =
      "string transform: index 4 is out of range for length 5" ∧
    ¬ ∀ e v s kind index length s',
      Expression.evaluate e v s = (.error ⟨kind, .indexOutOfRange index length⟩, s') →
        length ≤ index := by
  have hfails : (Expression.transform backwards).evaluate (.string "hello") (.seeded .empty 0) =
      (.error ⟨.transform, .indexOutOfRange 4 5⟩, .seeded .empty 0) := rfl
  refine ⟨hfails, by decide, fun h => ?_⟩
  exact absurd (h _ _ _ _ _ _ _ hfails) (by decide)

/-- The start is within the first text and beyond the second, where the error is right. -/
theorem evaluate_backwards_within_and_beyond :
    (Crossed (.transform backwards) (.string "hello") 4 5 ∧
      (Expression.transform backwards).evaluate (.string "hello") (.seeded .empty 0) =
        (.error ⟨.transform, .indexOutOfRange 4 5⟩, .seeded .empty 0) ∧ 4 < 5) ∧
    (Expression.transform backwards).evaluate (.string "hi") (.seeded .empty 0) =
      (.error ⟨.transform, .indexOutOfRange 4 2⟩, .seeded .empty 0) ∧ 2 ≤ 4 := by
  have hwithin : Crossed (.transform backwards) (.string "hello") 4 5 :=
    @Crossed.mk backwards "hello" 4 1 _ rfl rfl rfl (by decide) (by decide)
  have hbeyond : (Expression.transform backwards).evaluate (.string "hi") (.seeded .empty 0) =
      (.error ⟨.transform, .indexOutOfRange 4 2⟩, .seeded .empty 0) := rfl
  refine ⟨⟨hwithin, (evaluate_indexOutOfRange _ _ _ _ _).2 hwithin⟩, hbeyond, ?_⟩
  rcases (evaluate_indexOutOfRange _ _ _ _ _).1 _ _ hbeyond with houtside | hcrossed
  · exact houtside
  · exact absurd hcrossed.index_lt (by decide)

end ConversionRules
