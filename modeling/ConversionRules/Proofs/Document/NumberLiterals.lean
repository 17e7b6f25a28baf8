import Mathlib.Data.List.Forall2
import ConversionRules.Proofs.Document.Parsing
import ConversionRules.Proofs.Number.Decimals

/-!
The numbers of a document, in lists and in parameters too, and the numerals of
the text that it is read from. They correspond one to one. A numeral without a
point stands for the whole number of 64 bits that it shows. One with a point
stands for the nearest binary number, which is infinite if it is too large.
-/
namespace ConversionRules

open Lexeme

section Numbers

mutual

/-- The whole and the binary numbers in a value, in the order in which they stand. -/
def Value.numbers : Value → List Value
  | .int n => [.int n]
  | .float x => [.float x]
  | .list items => Value.numbersOfItems items
  | .null | .bool _ | .char _ | .string _ | .enum _ | .type _ => []

def Value.numbersOfItems : List Value → List Value
  | [] => []
  | v :: rest => v.numbers ++ Value.numbersOfItems rest

end

theorem Value.numbersOfItems_eq (items : List Value) :
    Value.numbersOfItems items = items.flatMap Value.numbers := by
  induction items with
  | nil => rfl
  | cons v rest ih => rw [Value.numbersOfItems, ih, List.flatMap_cons]

def Argument.numbers : Argument → List Value
  | .literal v => v.numbers
  | .word _ => []

def Term.numbers : Term → List Value
  | .literal v => v.numbers
  | .typeRef _ => []
  | .call _ args => args.flatMap fun a => a.2.numbers

def WrittenRule.numbers (r : WrittenRule) : List Value := r.clauses.flatMap fun c => c.term.numbers

def Document.numbers (d : Document) : List Value := d.rules.flatMap WrittenRule.numbers

end Numbers

namespace Spelling

/-- A numeral with a point, too large for a finite number to be the nearest one. -/
def Overflows (n : NumberWord) : Prop :=
  n.places.isSome = true ∧
    Binary64.overflowLimit * (decimalValue n).denominator ≤ (decimalValue n).numerator

instance (n : NumberWord) : Decidable (Overflows n) :=
  inferInstanceAs (Decidable (_ ∧ _))

theorem nearestValue_of_overflows {n : NumberWord} (h : Overflows n) :
    nearestValue n = .infinity n.negative :=
  Decimal.toBinary64_eq_infinity n.negative h.2

theorem isFinite_of_not_overflows {n : NumberWord} (hplaces : n.places.isSome = true)
    (h : ¬ Overflows n) : (nearestValue n).isFinite = true := by
  have hfits : (decimalValue n).numerator <
      Binary64.overflowLimit * (decimalValue n).denominator :=
    Nat.not_le.mp fun hle => h ⟨hplaces, hle⟩
  exact Decimal.isFinite_toBinary64_iff.mpr hfits

/-- What a numeral stands for. -/
inductive Denotes : NumberWord → Value → Prop
  | int {n : NumberWord} {k : Int64} (hplaces : n.places = none) (hk : wholeValue n = k.toInt) :
      Denotes n (.int k)
  | finite {n : NumberWord} (hplaces : n.places.isSome = true) (hfits : ¬ Overflows n)
      (hfinite : (nearestValue n).isFinite = true) : Denotes n (.float (nearestValue n))
  | infinite {n : NumberWord} (hlarge : Overflows n) : Denotes n (.float (.infinity n.negative))

theorem denotes_nearestValue {n : NumberWord} (hplaces : n.places.isSome = true) :
    Denotes n (.float (nearestValue n)) := by
  by_cases h : Overflows n
  · rw [nearestValue_of_overflows h]
    exact .infinite h
  · exact .finite hplaces h (isFinite_of_not_overflows hplaces h)

theorem Denotes.finite_iff {n : NumberWord} {v : Value} (h : Denotes n v) :
    (∀ x, v = .float x → x.isFinite = true) ↔ ¬ Overflows n := by
  cases h with
  | int hplaces _ => simp [Overflows, hplaces]
  | finite _ hfits hfinite => simp [hfits, hfinite]
  | infinite hlarge =>
    have hinfinite : (Binary64.infinity n.negative).isFinite = false := by
      cases n.negative <;> decide
    simp [hlarge, hinfinite]

def Token.numeral? : Token → Option NumberWord
  | .number n => some n
  | .word _ | .symbol _ | .quoted _ => none

def numerals (ts : List Token) : List NumberWord := ts.filterMap Token.numeral?

/-- The numbers are those of the numerals among the tokens, in their order. -/
def Accounts (ts : List Token) (numbers : List Value) : Prop :=
  List.Forall₂ Denotes (numerals ts) numbers

section Accounts

variable {ts us : List Token} {vs ws : List Value}

theorem accounts_nil : Accounts [] [] := List.Forall₂.nil

theorem Accounts.append (h : Accounts ts vs) (h' : Accounts us ws) :
    Accounts (ts ++ us) (vs ++ ws) := by
  rw [Accounts, numerals, List.filterMap_append]
  exact List.rel_append h h'

/-- Tokens that are no numerals do not matter. -/
theorem accounts_cons_iff {t : Token} (ht : t.numeral? = none) :
    Accounts (t :: ts) vs ↔ Accounts ts vs := by
  rw [Accounts, numerals, List.filterMap_cons, ht]
  rfl

theorem Accounts.concat {t : Token} (h : Accounts ts vs) (ht : t.numeral? = none) :
    Accounts (ts ++ [t]) vs := by
  have hboth := h.append ((accounts_cons_iff ht).mpr accounts_nil)
  rwa [List.append_nil] at hboth

variable {α : Type} {spells : α → List Token → Prop} {numbers : α → List Value}
  {lead : List Token} {as : List α}

theorem accounts_sequence (hlead : Accounts lead [])
    (heach : ∀ a ∈ as, ∀ us, spells a us → Accounts us (numbers a))
    (h : Sequence lead spells as ts) : Accounts ts (as.flatMap numbers) := by
  induction h with
  | nil => exact .nil
  | cons hfirst _ ih =>
    obtain ⟨ha, hrest⟩ := List.forall_mem_cons.mp heach
    rw [List.flatMap_cons]
    exact hlead.append ((ha _ hfirst).append (ih hrest))

theorem accounts_separated (heach : ∀ a ∈ as, ∀ us, spells a us → Accounts us (numbers a))
    (h : Separated spells as ts) : Accounts ts (as.flatMap numbers) := by
  cases h with
  | nil => exact .nil
  | cons hfirst hmore =>
    obtain ⟨ha, hrest⟩ := List.forall_mem_cons.mp heach
    have hcomma : Accounts [Token.symbol ','] [] := .nil
    rw [List.flatMap_cons]
    exact (ha _ hfirst).append (accounts_sequence hcomma hrest hmore)

end Accounts

section Parts

variable {quotes : String → List Char → Prop} {ts : List Token}

/-- The recursion is on the literal, whose items are smaller. -/
theorem accounts_literal {v : Value} {ts : List Token} (h : SpellsLiteral quotes v ts) :
    Accounts ts v.numbers := by
  have ih : ∀ w us, sizeOf w < sizeOf v → SpellsLiteral quotes w us → Accounts us w.numbers :=
    fun w us hsmaller hw => accounts_literal hw
  cases h with
  | null => exact .nil
  | bool b => exact .nil
  | int hplaces hk => exact .cons (.int hplaces hk) .nil
  | float hplaces => exact .cons (denotes_nearestValue hplaces) .nil
  | string _ => exact .nil
  | @list items us hitems =>
    have hsmaller : ∀ w ∈ items, sizeOf w < sizeOf (Value.list items) := by
      intro w hw
      have hitem := List.sizeOf_lt_of_mem hw
      rw [Value.list.sizeOf_spec]
      omega
    rw [Value.numbers, Value.numbersOfItems_eq, accounts_cons_iff rfl]
    exact (accounts_separated (fun w hw us => ih w us (hsmaller w hw)) hitems).concat rfl
  termination_by sizeOf v

theorem accounts_argument {a : Argument} (h : SpellsArgument quotes a ts) :
    Accounts ts a.numbers := by
  cases h with
  | literal hv => exact accounts_literal hv
  | word _ => exact .nil

theorem accounts_parameter {a : String × Argument} (h : SpellsParameter quotes a ts) :
    Accounts ts a.2.numbers := by
  cases h with
  | mk ha =>
    rw [accounts_cons_iff rfl, accounts_cons_iff rfl]
    exact accounts_argument ha

theorem accounts_term {t : Term} (h : SpellsTerm quotes t ts) : Accounts ts t.numbers := by
  cases h with
  | literal hv => exact accounts_literal hv
  | typeRef name => exact .nil
  | call _ _ hargs =>
    rw [accounts_cons_iff rfl, accounts_cons_iff rfl]
    exact (accounts_separated (fun _ _ _ ha => accounts_parameter ha) hargs).concat rfl

theorem accounts_clause {c : Clause} (h : SpellsClause quotes c ts) : Accounts ts c.term.numbers := by
  cases h with
  | mk ht =>
    rw [accounts_cons_iff rfl]
    exact accounts_term ht

theorem accounts_rule {r : WrittenRule} (h : SpellsRule quotes r ts) : Accounts ts r.numbers := by
  cases h with
  | @mk name clauses us hclauses =>
    have hname : Accounts (name.toList.map Token.word) [] := by
      cases name <;> exact .nil
    rw [accounts_cons_iff rfl]
    refine hname.append ?_
    rw [accounts_cons_iff rfl]
    exact accounts_sequence accounts_nil (fun _ _ _ hc => accounts_clause hc) hclauses

theorem accounts_document {d : Document} (h : d.Spells quotes ts) : Accounts ts d.numbers :=
  accounts_sequence accounts_nil (fun _ _ _ hr => accounts_rule hr) h

end Parts

theorem forall_finite_iff {ns : List NumberWord} {vs : List Value} (h : List.Forall₂ Denotes ns vs) :
    (∀ x, Value.float x ∈ vs → x.isFinite = true) ↔ ∀ n ∈ ns, ¬ Overflows n := by
  induction h with
  | nil => simp
  | @cons n v ns vs hfirst _ ih =>
    rw [List.forall_mem_cons, ← ih, ← hfirst.finite_iff]
    simp only [List.mem_cons, or_imp, forall_and, eq_comm]

end Spelling

namespace Document

open Spelling

/-- A rule that has one output, a binary number. -/
def outputRule (x : Binary64) : Document := ⟨[⟨none, [⟨.thenClause, .literal (.float x)⟩]⟩]⟩

/-- The text of such a rule is accepted however large the number is. -/
theorem parse_outputRule {n : NumberWord} {input : String} (hplaces : n.places.isSome = true)
    (h : Rendering [.word "rule", .symbol ':', .word "then", .number n] input.toList) :
    parse input = .ok (outputRule (nearestValue n)) := by
  have hspells : (outputRule (nearestValue n)).Spells StandsFor _ :=
    .cons (.mk (.cons (.mk (.literal (.float hplaces))) .nil)) .nil
  exact document_of_rendering (fun _ _ hs => hs) hspells h

/-- The numbers of a document are those of the numerals of its text. Whole numbers are exact and
have 64 bits. The binary ones are all finite exactly if no numeral with a point is too large. -/
theorem numbers_of_parse {input : String} {d : Document} (h : parse input = .ok d) :
    ∃ ts, d.Spells StandsFor ts ∧ Rendering ts input.toList ∧
      List.Forall₂ Denotes (numerals ts) d.numbers ∧
      ((∀ x, Value.float x ∈ d.numbers → x.isFinite = true) ↔ ∀ n ∈ numerals ts, ¬ Overflows n) := by
  obtain ⟨ts, hts, hrendering⟩ := exists_rendering_of_document h
  have hnumbers := accounts_document hts
  exact ⟨ts, hts, hrendering, hnumbers, forall_finite_iff hnumbers⟩

/-- The number 10^309, with a point. -/
def pastGreatestNumeral : NumberWord := ⟨false, '1' :: List.replicate 309 '0', some ['0']⟩

def pastGreatestChars : List Char :=
  "rule:\n  then 1".toList ++ List.replicate 309 '0' ++ ['.', '0']

def pastGreatestText : String := String.ofList pastGreatestChars

theorem negative_pastGreatestNumeral : pastGreatestNumeral.negative = false := rfl

theorem overflows_pastGreatestNumeral : Overflows pastGreatestNumeral := by decide +kernel

theorem laid_pastGreatestChars :
    Laid [.word "rule", .symbol ':', .word "then", .number pastGreatestNumeral]
      pastGreatestChars [] := by
  decide +kernel

theorem rendering_pastGreatestText :
    Rendering [.word "rule", .symbol ':', .word "then", .number pastGreatestNumeral]
      pastGreatestText.toList := by
  refine ⟨[], ?_, .nothing []⟩
  rw [pastGreatestText, String.toList_ofList]
  exact laid_pastGreatestChars

theorem parse_pastGreatestText : parse pastGreatestText = .ok (outputRule (.infinity false)) := by
  rw [parse_outputRule rfl rendering_pastGreatestText,
    nearestValue_of_overflows overflows_pastGreatestNumeral, negative_pastGreatestNumeral]

theorem infinity_mem_outputRule :
    Value.float (.infinity false) ∈ (outputRule (.infinity false)).numbers := List.mem_cons_self

theorem numbers_of_parse_pastGreatest :
    parse pastGreatestText = .ok (outputRule (.infinity false)) ∧
      ∃ ts, Rendering ts pastGreatestText.toList ∧ ¬ ∀ n ∈ numerals ts, ¬ Overflows n := by
  obtain ⟨ts, _, hrendering, _, hfinite⟩ := numbers_of_parse parse_pastGreatestText
  refine ⟨parse_pastGreatestText, ts, hrendering, fun hnone => ?_⟩
  exact absurd (hfinite.mpr hnone _ infinity_mem_outputRule) (by decide)

/-- A numeral that is too large is not refused. -/
theorem parse_pastGreatest :
    ¬ ∀ input d, parse input = .ok d → ∀ x, Value.float x ∈ d.numbers → x.isFinite = true := by
  intro h
  have hfinite := h _ _ parse_pastGreatestText _ infinity_mem_outputRule
  exact absurd hfinite (by decide)

end Document

end ConversionRules
