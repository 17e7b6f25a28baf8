import ConversionRules.Expression.Evaluation
import ConversionRules.Proofs.Number.ReadingBack
import ConversionRules.Proofs.Template.Integers

/-!
A number and its text. The text that shows a finite number counts as that
number, with white space around it too, so expressions that read their input as
a number do not tell the two apart.
-/
namespace ConversionRules

open Numeral (readFinite?_integer readFinite?_plain isBlank_of_mem_positional)

/-- Every whole number, and the binary numbers that are finite. -/
inductive FiniteNumber : Value → Binary64 → Prop
  | int (k : Int64) : FiniteNumber (.int k) (.ofInt k.toInt)
  | float {x : Binary64} (hx : x.isFinite = true) : FiniteNumber (.float x) x

/-- The kinds of expression that read their input as a number. -/
def ExpressionKind.calculating : List ExpressionKind :=
  [.arithmetic, .compare, .double, .negate, .percentage]

namespace FiniteNumber

variable {v : Value} {x : Binary64}

theorem number?_eq (h : FiniteNumber v x) : v.number? = some x := by
  cases h with
  | int k => rfl
  | float hx => rfl

theorem strictNumber?_eq (h : FiniteNumber v x) : v.strictNumber? = some x := by
  cases h with
  | int k => rfl
  | float hx => rfl

theorem arguments_eq (h : FiniteNumber v x) : Template.arguments v = [v] := by
  cases h with
  | int k => rfl
  | float hx => rfl

theorem readFinite?_display (h : FiniteNumber v x) : Numeral.readFinite? v.display = some x := by
  cases h with
  | int k =>
    rw [Value.display, readFinite?_integer (Template.log2_toInt_lt k)]
  | float hx =>
    rw [Value.display, readFinite?_plain hx]

theorem isBlank_display (h : FiniteNumber v x) : ∀ c ∈ v.display, Text.isBlank c = false := by
  intro c hc
  cases h with
  | int k =>
    rw [Value.display] at hc
    rcases Numeral.mem_integer hc with rfl | hdigit
    · rfl
    · exact Numeral.isBlank_of_isDigit hdigit
  | float hx =>
    rw [Value.display, Numeral.plain, Numeral.signed_of_isFinite hx] at hc
    exact isBlank_of_mem_positional hc

end FiniteNumber

section Texts

variable {v : Value} {x : Binary64} {s : String} {before after : List Char}

theorem textNumber?_display (hv : FiniteNumber v x) (hbefore : ∀ c ∈ before, Text.isBlank c = true)
    (hafter : ∀ c ∈ after, Text.isBlank c = true) (hs : s.toList = before ++ v.display ++ after) :
    Value.textNumber? s = some x := by
  rw [Value.textNumber?, hs, Text.trim_append hbefore hafter,
    Text.trim_of_forall hv.isBlank_display, hv.readFinite?_display]

/-- White space in a template is shown as it is. -/
theorem expand_blanks_append {args : List Value} (hbefore : ∀ c ∈ before, Text.isBlank c = true)
    (rest : List Char) :
    Template.expand args (before ++ rest) = (Template.expand args rest).map (before ++ ·) := by
  induction before with
  | nil =>
    rw [List.nil_append]
    cases Template.expand args rest with
    | error fault => rfl
    | ok shown => rfl
  | cons c before ih =>
    obtain ⟨hc, hbefore⟩ := List.forall_mem_cons.mp hbefore
    have hopening : c ≠ '\x7b' := by
      rintro rfl
      cases hc
    have hclosing : c ≠ '\x7d' := by
      rintro rfl
      cases hc
    rw [List.cons_append, Template.expand_character hopening hclosing, ih hbefore]
    cases Template.expand args rest with
    | error fault => rfl
    | ok shown => rfl

/-- The text of a number is what a template shows of it. -/
theorem evaluate_interpolated {t : String} (hv : FiniteNumber v x)
    (hbefore : ∀ c ∈ before, Text.isBlank c = true) (hafter : ∀ c ∈ after, Text.isBlank c = true)
    (ht : t.toList = before ++ (['\x7b', '0', '\x7d'] ++ after)) :
    Template.evaluate (some t) v =
      .ok (.string (String.ofList (before ++ (v.display ++ after)))) := by
  have htrimmed : Text.Trimmed ['0'] ['0'] := Text.trim_eq_iff.mp rfl
  have hplaceholder : Template.Placeholder [v] ['0'] v.display :=
    .mk htrimmed Template.isUnsigned_zero List.getElem?_cons_zero (.plain v) (.unaligned v.display)
  have hsegment : Template.Segment [v] ['\x7b', '0', '\x7d'] v.display :=
    .placeholder (by decide) (by decide) hplaceholder
  have hafter : Template.expand [v] after = .ok after := by
    have h : Template.expand [v] (after ++ []) = .ok (after ++ []) := by
      rw [expand_blanks_append hafter, Template.expand]
      rfl
    rwa [List.append_nil] at h
  have hexpand : Template.expand [v] t.toList = .ok (before ++ (v.display ++ after)) := by
    rw [ht, expand_blanks_append hbefore, Template.expand_segment_append hsegment, hafter]
    rfl
  simp only [Template.evaluate, hv.arguments_eq, hexpand]

/-- What is calculated depends on the number that is read and on nothing else. -/
theorem attempt_eq_of_number {v w : Value} {e : Expression} (hkind : e.kind ∈ ExpressionKind.calculating)
    (hv : v.number? = some x) (hw : w.number? = some x) (hvs : v.strictNumber? = some x)
    (hws : w.strictNumber? = some x) (scope : Scope) : e.attempt w scope = e.attempt v scope := by
  have hrequired : w.requireNumber = v.requireNumber := by
    simp only [Value.requireNumber, hv, hw]
  have hnegate : ∀ u : Value, u.strictNumber? = some x →
      Calculation.negate u = .ok (.float x.neg) := by
    intro u hu
    unfold Calculation.negate
    split
    · cases hu
    · rw [hu]
  cases e with
  | arithmetic a => simp only [Expression.attempt, Arithmetic.evaluate, hrequired]
  | compare b => simp only [Expression.attempt, Bounds.evaluate, hrequired]
  | double y => simp only [Expression.attempt, Calculation.double, hv, hw]
  | negate => simp only [Expression.attempt, hnegate v hvs, hnegate w hws]
  | percentage y => simp only [Expression.attempt, Calculation.percentage, hrequired]
  | _ => simp [Expression.kind, ExpressionKind.calculating] at hkind

end Texts

/-- The text of a finite number, with white space around it, counts as that number and as
nothing else. It is what a template shows of the number, and every expression that reads
its input as a number has the same value on both. -/
theorem number_of_display {v : Value} {x : Binary64} {before after : List Char}
    (hv : FiniteNumber v x) (hbefore : ∀ c ∈ before, Text.isBlank c = true)
    (hafter : ∀ c ∈ after, Text.isBlank c = true) :
    let text := Value.string (String.ofList (before ++ v.display ++ after))
    (text.number? = some x ∧ v.number? = some x) ∧
      (text.strictNumber? = some x ∧ v.strictNumber? = some x) ∧
      Template.evaluate (some (String.ofList (before ++ ['\x7b', '0', '\x7d'] ++ after))) v = .ok text ∧
      ∀ e : Expression, e.kind ∈ ExpressionKind.calculating → ∀ scope,
        e.evaluate text scope = e.evaluate v scope := by
  intro text
  have hread : Value.textNumber? (String.ofList (before ++ v.display ++ after)) = some x :=
    textNumber?_display hv hbefore hafter String.toList_ofList
  have hnumber : text.number? = some x := by
    change some ((Value.textNumber? _).getD _) = some x
    rw [hread, Option.getD_some]
  have hinterpolated := evaluate_interpolated hv hbefore hafter
    (t := String.ofList (before ++ ['\x7b', '0', '\x7d'] ++ after))
    (by rw [String.toList_ofList, List.append_assoc])
  rw [← List.append_assoc] at hinterpolated
  refine ⟨⟨hnumber, hv.number?_eq⟩, ⟨hread, hv.strictNumber?_eq⟩, hinterpolated, ?_⟩
  intro e hkind scope
  rw [Expression.evaluate_eq, Expression.evaluate_eq,
    attempt_eq_of_number hkind hv.number?_eq hnumber hv.strictNumber?_eq hread]

/-- The text of negative zero, between a blank and a line end, keeps its sign. -/
theorem number_of_display_negativeZero :
    FiniteNumber (.float (.zero true)) (.zero true) ∧ (∀ c ∈ [' '], Text.isBlank c = true) ∧
      (∀ c ∈ ['\n'], Text.isBlank c = true) ∧
      Value.number? (.string " -0\n") = some (.zero true) ∧
      ∀ scope, Expression.negate.evaluate (.string " -0\n") scope =
        Expression.negate.evaluate (.float (.zero true)) scope := by
  have hfinite : FiniteNumber (.float (.zero true)) (.zero true) := .float (by decide)
  have hbefore : ∀ c ∈ [' '], Text.isBlank c = true := List.forall_mem_singleton.mpr rfl
  have hafter : ∀ c ∈ ['\n'], Text.isBlank c = true := List.forall_mem_singleton.mpr rfl
  have htext : String.ofList ([' '] ++ (Value.float (.zero true)).display ++ ['\n']) = " -0\n" := by
    rw [Value.display]
    decide
  have hread := number_of_display hfinite hbefore hafter
  rw [htext] at hread
  exact ⟨hfinite, hbefore, hafter, hread.1.1, hread.2.2.2 .negate (by decide)⟩

end ConversionRules
