import ConversionRules.Proofs.Number.ReadingBack
import ConversionRules.Proofs.Text.Lines
import ConversionRules.Value.Text

/-!
The texts in a value: its characters and strings at any depth and the names of
enum types and members. Whatever else its display form is made of stands in one
line, numbers, brackets and the names of the other types among it.
-/
namespace ConversionRules

open Text (isLineBreak BreaksWithin SingleLine)

def ValueType.texts : ValueType → List String
  | .enum name => [name]
  | .bool | .int | .float | .char | .string | .list | .type => []

/-- The texts in how an error names a type. -/
def kindTexts : Option ValueType → List String
  | none => []
  | some t => t.texts

mutual

/-- The texts in a value, in the order in which they stand. -/
def Value.texts : Value → List String
  | .char c => [String.singleton c]
  | .string s => [s]
  | .list items => Value.textsOfItems items
  | .enum e => e.typeName :: e.memberName.toList
  | .type t => t.texts
  | .null | .bool _ | .int _ | .float _ => []

def Value.textsOfItems : List Value → List String
  | [] => []
  | v :: rest => v.texts ++ Value.textsOfItems rest

end

theorem Value.textsOfItems_eq (items : List Value) :
    Value.textsOfItems items = items.flatMap Value.texts := by
  induction items with
  | nil => rfl
  | cons v rest ih => rw [Value.textsOfItems, ih, List.flatMap_cons]

theorem Value.texts_subset_of_mem {v : Value} {items : List Value} (hv : v ∈ items) :
    v.texts ⊆ (Value.list items).texts := by
  intro text htext
  rw [Value.texts, Value.textsOfItems_eq]
  exact List.mem_flatMap.mpr ⟨v, hv, htext⟩

/-- A type is named by a text of the value. -/
theorem Value.kindTexts_subset (v : Value) : kindTexts v.type? ⊆ v.texts := by
  cases v with
  | enum e =>
    intro text htext
    exact List.mem_cons.mpr (Or.inl (List.mem_singleton.mp htext))
  | _ => exact List.nil_subset _

theorem ValueType.shows_display (t : ValueType) : Text.Shows t.display t.texts := by
  cases t with
  | enum name => exact Text.Shows.text name
  | _ => exact Text.Shows.wording (by decide)

theorem shows_kindText (t : Option ValueType) : Text.Shows (kindText t) (kindTexts t) := by
  cases t with
  | none => exact Text.Shows.wording (by decide)
  | some t => exact t.shows_display

section Numbers

theorem singleLine_integer (n : Int) : SingleLine (String.ofList (Numeral.integer n)) := by
  refine Text.singleLine_of_forall_not_blank fun c hc => ?_
  rw [String.toList_ofList] at hc
  rcases Numeral.mem_integer hc with rfl | hdigit
  · rfl
  · exact Numeral.isBlank_of_isDigit hdigit

theorem singleLine_toString (n : Nat) : SingleLine (toString n) := by
  refine Text.singleLine_of_forall_not_blank fun c hc => ?_
  have hdigits : (toString n).toList = Nat.toDigits 10 n := by simp [toString]
  rw [hdigits] at hc
  exact Numeral.isBlank_of_isDigit ((Numeral.areDigits_toDigits n).2 c hc)

theorem singleLine_plain (x : Binary64) : SingleLine (String.ofList (Numeral.plain x)) := by
  rw [Numeral.plain]
  cases hfinite : x.isFinite with
  | true =>
    refine Text.singleLine_of_forall_not_blank fun c hc => ?_
    rw [String.toList_ofList, Numeral.signed_of_isFinite hfinite] at hc
    exact Numeral.isBlank_of_mem_positional hc
  | false =>
    have hword := Numeral.signed_mem_of_not_isFinite hfinite (Numeral.positional (.shortest x))
    simp only [List.mem_cons, List.not_mem_nil, or_false] at hword
    rcases hword with h | h | h
    · rw [h]
      decide
    · rw [h]
      decide
    · rw [h]
      decide

end Numbers

section Displays

theorem EnumValue.breaksWithin_display (e : EnumValue) :
    BreaksWithin (String.ofList e.display) (e.typeName :: e.memberName.toList) := by
  unfold EnumValue.display
  cases e.memberName with
  | none => exact (singleLine_integer _).breaksWithin _
  | some name =>
    rw [String.ofList_toList]
    exact Text.breaksWithin_of_mem (List.mem_cons_of_mem _ List.mem_cons_self)

theorem mem_intercalate {c : Char} {separator : List Char} {parts : List (List Char)}
    (hc : c ∈ List.intercalate separator parts) : c ∈ separator ∨ ∃ part ∈ parts, c ∈ part := by
  induction parts with
  | nil => cases hc
  | cons first rest ih =>
    cases rest with
    | nil =>
      rw [List.intercalate_singleton] at hc
      exact Or.inr ⟨first, List.mem_cons_self, hc⟩
    | cons second rest =>
      rw [List.intercalate_cons_cons, List.mem_append, List.mem_append] at hc
      rcases hc with (hc | hc) | hc
      · exact Or.inr ⟨first, List.mem_cons_self, hc⟩
      · exact Or.inl hc
      · refine (ih hc).imp_right ?_
        rintro ⟨part, hpart, hmem⟩
        exact ⟨part, List.mem_cons_of_mem first hpart, hmem⟩

/-- Beside brackets, commas and blanks there are the characters of the parts. -/
theorem mem_bracketed {c : Char} {parts : List (List Char)} (hc : c ∈ Value.bracketed parts) :
    isLineBreak c = false ∨ ∃ part ∈ parts, c ∈ part := by
  rw [Value.bracketed, List.mem_append, List.mem_cons, List.mem_singleton] at hc
  rcases hc with (rfl | hc) | rfl
  · exact Or.inl rfl
  · refine (mem_intercalate hc).imp_left fun hseparator => ?_
    rw [List.mem_cons, List.mem_singleton] at hseparator
    rcases hseparator with rfl | rfl
    · rfl
    · rfl
  · exact Or.inl rfl

mutual

/-- A value is displayed with the line breaks of its texts and no other ones. -/
theorem Value.breaksWithin_display (v : Value) :
    BreaksWithin (String.ofList v.display) v.texts := by
  cases v with
  | null => exact SingleLine.breaksWithin (by decide) _
  | bool b => exact SingleLine.breaksWithin (by cases b <;> decide) _
  | int n => exact (singleLine_integer n.toInt).breaksWithin _
  | float x => exact (singleLine_plain x).breaksWithin _
  | char c => exact Text.breaksWithin_of_mem (List.mem_singleton.mpr rfl)
  | string s =>
    rw [Value.display, String.ofList_toList]
    exact Text.breaksWithin_of_mem List.mem_cons_self
  | list items =>
    intro c hc hbreak
    rw [String.toList_ofList, Value.display] at hc
    rcases mem_bracketed hc with hsign | ⟨part, hpart, hmem⟩
    · cases hsign.symm.trans hbreak
    · exact Value.breaksWithin_displayItems items part hpart c hmem hbreak
  | enum e => exact e.breaksWithin_display
  | type t =>
    rw [Value.display, String.ofList_toList]
    exact t.shows_display.breaks

theorem Value.breaksWithin_displayItems (items : List Value) :
    ∀ part ∈ Value.displayItems items, ∀ c ∈ part, isLineBreak c = true →
      ∃ text ∈ Value.textsOfItems items, c ∈ text.toList := by
  cases items with
  | nil =>
    intro part hpart
    cases hpart
  | cons v rest =>
    intro part hpart c hmem hbreak
    rw [Value.displayItems, List.mem_cons] at hpart
    rw [Value.textsOfItems]
    rcases hpart with rfl | hpart
    · have hc : c ∈ (String.ofList v.display).toList := by rwa [String.toList_ofList]
      obtain ⟨text, htext, hmem⟩ := v.breaksWithin_display c hc hbreak
      exact ⟨text, List.mem_append_left _ htext, hmem⟩
    · obtain ⟨text, htext, hmem⟩ := Value.breaksWithin_displayItems rest part hpart c hmem hbreak
      exact ⟨text, List.mem_append_right _ htext, hmem⟩

end

end Displays

end ConversionRules
