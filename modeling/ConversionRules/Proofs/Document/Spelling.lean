import Mathlib.Data.List.Induction
import Mathlib.Data.Nat.Digits.Defs
import ConversionRules.Document.Grammar

/-!
The spelling of a rule document: the tokens that say it, and the texts in
which tokens are laid out with white space and comments around them. Nothing
here reads a text. How a text is put between quotes is left open: it may be
any content that stands for the text, or the one content that escapes nothing
but quotes and backslashes.
-/
namespace ConversionRules.Spelling

open Lexeme

inductive Token where
  | word (s : String)
  | symbol (c : Char)
  | number (n : NumberWord)
  | quoted (content : List Char)

def signText (negative : Bool) : List Char := if negative then ['-'] else []

def placesText : Option (List Char) → List Char
  | none => []
  | some places => '.' :: places

def unsignedText (n : NumberWord) : List Char := n.whole ++ placesText n.places

def Token.text : Token → List Char
  | .word s => s.toList
  | .symbol c => [c]
  | .number n => signText n.negative ++ unsignedText n
  | .quoted content => '"' :: (content ++ ['"'])

/-- A letter or underscore, then letters, digits and underscores. -/
def IsIdentifier (s : String) : Prop :=
  ∃ c cs, s.toList = c :: cs ∧ startsIdentifier c = true ∧
    ∀ d ∈ cs, continuesIdentifier d = true

instance (s : String) : Decidable (IsIdentifier s) :=
  match h : s.toList with
  | [] => isFalse fun ⟨_, _, hs, _⟩ => by simp [h] at hs
  | c :: cs =>
    decidable_of_iff (startsIdentifier c = true ∧ cs.all continuesIdentifier = true)
      ⟨fun ⟨hc, hcs⟩ => ⟨c, cs, h, hc, List.all_eq_true.mp hcs⟩, fun ⟨_, _, hs, hc, hcs⟩ => by
        cases h.symm.trans hs
        exact ⟨hc, List.all_eq_true.mpr hcs⟩⟩

/-- At least one digit and nothing else. -/
def AreDigits (cs : List Char) : Prop := cs ≠ [] ∧ ∀ c ∈ cs, c.isDigit = true

instance (cs : List Char) : Decidable (AreDigits cs) :=
  decidable_of_iff (cs ≠ [] ∧ cs.all Char.isDigit = true)
    (and_congr_right fun _ => List.all_eq_true)

/-- An optional sign, digits, and, after a point, more digits. -/
def IsNumber (n : NumberWord) : Prop :=
  AreDigits n.whole ∧ ∀ places ∈ n.places, AreDigits places

instance (n : NumberWord) : Decidable (IsNumber n) :=
  decidable_of_iff
    (AreDigits n.whole ∧ (n.places.all fun places => decide (AreDigits places)) = true)
    (and_congr_right fun _ => by simp [Option.all_eq_true])

def symbols : List Char := [':', '(', ')', '[', ']', ',', '=']

def Token.WellFormed : Token → Prop
  | .word s => IsIdentifier s
  | .symbol c => c ∈ symbols
  | .number n => IsNumber n
  | .quoted _ => True

instance (t : Token) : Decidable t.WellFormed :=
  match t with
  | .word s => inferInstanceAs (Decidable (IsIdentifier s))
  | .symbol c => inferInstanceAs (Decidable (c ∈ symbols))
  | .number n => inferInstanceAs (Decidable (IsNumber n))
  | .quoted _ => .isTrue trivial

/-- Whether a token may stand directly before a text: a word may not run on
into it. -/
def Token.EndsBefore : Token → List Char → Prop
  | .word _, cs => ∀ c ∈ cs.head?, continuesIdentifier c = false
  | _, _ => True

instance (t : Token) (cs : List Char) : Decidable (t.EndsBefore cs) :=
  match t with
  | .word _ =>
    decidable_of_iff ((cs.head?.all fun c => !continuesIdentifier c) = true)
      (by simp [Token.EndsBefore, Option.all_eq_true])
  | .symbol _ | .number _ | .quoted _ => .isTrue trivial

/-- What stands after the text of a comment. -/
inductive LineEnd : List Char → Prop where
  | endOfText : LineEnd []
  | feed (cs : List Char) : LineEnd ('\n' :: cs)
  | returnFeed (cs : List Char) : LineEnd ('\r' :: '\n' :: cs)

/-- White space and comments that may stand before a text. A comment keeps to
its line. -/
inductive Layout : List Char → List Char → Prop where
  | nothing (rest : List Char) : Layout [] rest
  | space {c : Char} {gap rest : List Char} :
      isSpace c = true → Layout gap rest → Layout (c :: gap) rest
  | comment {text gap rest : List Char} :
      (∀ c ∈ text, c ≠ '\r' ∧ c ≠ '\n') → LineEnd (gap ++ rest) → Layout gap rest →
      Layout ('#' :: (text ++ gap)) rest

/-- Tokens that stand one after another at the beginning of a text, layout
before each of them, and what is left of the text. -/
inductive Laid : List Token → List Char → List Char → Prop where
  | nil (rest : List Char) : Laid [] rest rest
  | cons {t : Token} {ts : List Token} {gap cs rest : List Char} :
      t.WellFormed → Layout gap (t.text ++ cs) → t.EndsBefore cs → Laid ts cs rest →
      Laid (t :: ts) (gap ++ (t.text ++ cs)) rest

/-- The whole text is the tokens and layout. -/
def Rendering (ts : List Token) (cs : List Char) : Prop :=
  ∃ last, Laid ts cs last ∧ Layout last []

/-- The text that the content between two quotes stands for. A backslash and a
character that is no escape stand for themselves. -/
inductive Unescapes : List Char → List Char → Prop where
  | nil : Unescapes [] []
  | plain {c : Char} {content text : List Char} :
      c ≠ '"' → c ≠ '\\' → Unescapes content text → Unescapes (c :: content) (c :: text)
  | quote {content text : List Char} :
      Unescapes content text → Unescapes ('\\' :: '"' :: content) ('"' :: text)
  | backslash {content text : List Char} :
      Unescapes content text → Unescapes ('\\' :: '\\' :: content) ('\\' :: text)
  | feed {content text : List Char} :
      Unescapes content text → Unescapes ('\\' :: 'n' :: content) ('\n' :: text)
  | tab {content text : List Char} :
      Unescapes content text → Unescapes ('\\' :: 't' :: content) ('\t' :: text)
  | other {c : Char} {content text : List Char} :
      c ∉ ['"', '\\', 'n', 't'] → Unescapes content text →
      Unescapes ('\\' :: c :: content) ('\\' :: c :: text)

/-- A content that stands for the text. -/
def StandsFor (s : String) (content : List Char) : Prop := Unescapes content s.toList

def escape (c : Char) : List Char := if c = '"' ∨ c = '\\' then ['\\', c] else [c]

/-- The content in which quotes and backslashes are escaped and nothing else is. -/
def Escaped (s : String) (content : List Char) : Prop := content = s.toList.flatMap escape

section Repetition

variable {α : Type}

/-- The spellings of some parts, one after another, the same tokens before
each of them. -/
inductive Sequence (lead : List Token) (spells : α → List Token → Prop) :
    List α → List Token → Prop where
  | nil : Sequence lead spells [] []
  | cons {a : α} {as : List α} {ts us : List Token} :
      spells a ts → Sequence lead spells as us →
      Sequence lead spells (a :: as) (lead ++ (ts ++ us))

/-- The spellings of some parts with a comma between any two, and none after
the last. -/
inductive Separated (spells : α → List Token → Prop) : List α → List Token → Prop where
  | nil : Separated spells [] []
  | cons {a : α} {as : List α} {ts us : List Token} :
      spells a ts → Sequence [.symbol ','] spells as us →
      Separated spells (a :: as) (ts ++ us)

end Repetition

section Numbers

/-- The number that digits write in base ten, the last of them counting ones. -/
def digitsValue (digits : List Char) : Nat :=
  Nat.ofDigits 10 (digits.reverse.map fun c => c.toNat - '0'.toNat)

/-- The whole number that a numeral without a point writes. -/
def wholeValue (n : NumberWord) : Int := (if n.negative then -1 else 1) * digitsValue n.whole

/-- The decimal number that a numeral writes after its sign. -/
def decimalValue (n : NumberWord) : Decimal :=
  ⟨digitsValue (n.whole ++ n.places.getD []), -((n.places.getD []).length : Int)⟩

/-- The binary number nearest to what a numeral writes. -/
def nearestValue (n : NumberWord) : Binary64 := Decimal.toBinary64 n.negative (decimalValue n)

/-- The induction is on the digits from the last one. -/
theorem ofDigitChars_eq (digits : List Char) :
    Nat.ofDigitChars 10 digits 0 = digitsValue digits := by
  induction digits using List.reverseRecOn with
  | nil => rfl
  | append_singleton digits c ih =>
    rw [Nat.ofDigitChars_append, ih, digitsValue, digitsValue, List.reverse_append,
      List.reverse_singleton, List.singleton_append, List.map_cons, Nat.ofDigits_cons,
      Nat.ofDigitChars_cons, Nat.ofDigitChars_nil, Nat.add_comm]

theorem toInt_eq_wholeValue (n : NumberWord) : n.toInt = wholeValue n := by
  rw [NumberWord.toInt, wholeValue, ofDigitChars_eq]
  split
  · exact (Int.neg_one_mul _).symm
  · exact (Int.one_mul _).symm

theorem toBinary64_eq_nearestValue (n : NumberWord) : n.toBinary64 = nearestValue n := by
  rw [NumberWord.toBinary64, ofDigitChars_eq]
  rfl

end Numbers

section Parts

variable (quotes : String → List Char → Prop)

inductive SpellsLiteral : Value → List Token → Prop where
  | null : SpellsLiteral .null [.word "null"]
  | bool (b : Bool) : SpellsLiteral (.bool b) [.word (if b then "true" else "false")]
  | int {k : Int64} {n : NumberWord} :
      n.places = none → wholeValue n = k.toInt → SpellsLiteral (.int k) [.number n]
  | float {n : NumberWord} :
      n.places.isSome = true → SpellsLiteral (.float (nearestValue n)) [.number n]
  | string {s : String} {content : List Char} :
      quotes s content → SpellsLiteral (.string s) [.quoted content]
  | list {items : List Value} {ts : List Token} :
      Separated SpellsLiteral items ts →
      SpellsLiteral (.list items) (.symbol '[' :: (ts ++ [.symbol ']']))

/-- The words that are literals. -/
def literalWords : List String := ["null", "true", "false"]

inductive SpellsArgument : Argument → List Token → Prop where
  | literal {v : Value} {ts : List Token} :
      SpellsLiteral quotes v ts → SpellsArgument (.literal v) ts
  | word {s : String} : s ∉ literalWords → SpellsArgument (.word s) [.word s]

inductive SpellsParameter : String × Argument → List Token → Prop where
  | mk {name : String} {a : Argument} {ts : List Token} :
      SpellsArgument quotes a ts → SpellsParameter (name, a) (.word name :: .symbol '=' :: ts)

inductive SpellsTerm : Term → List Token → Prop where
  | literal {v : Value} {ts : List Token} :
      SpellsLiteral quotes v ts → SpellsTerm (.literal v) ts
  | typeRef (name : String) :
      SpellsTerm (.typeRef name) [.word "type", .symbol '(', .word name, .symbol ')']
  | call {name : String} {args : List (String × Argument)} {ts : List Token} :
      name ∉ literalWords → name ≠ "type" → Separated (SpellsParameter quotes) args ts →
      SpellsTerm (.call name args) (.word name :: .symbol '(' :: (ts ++ [.symbol ')']))

inductive SpellsClause : Clause → List Token → Prop where
  | mk {kind : ClauseKind} {t : Term} {ts : List Token} :
      SpellsTerm quotes t ts → SpellsClause ⟨kind, t⟩ (.word kind.keyword :: ts)

inductive SpellsRule : WrittenRule → List Token → Prop where
  | mk {name : Option String} {clauses : List Clause} {ts : List Token} :
      Sequence [] (SpellsClause quotes) clauses ts →
      SpellsRule ⟨name, clauses⟩
        (.word "rule" :: (name.toList.map Token.word ++ .symbol ':' :: ts))

end Parts

end ConversionRules.Spelling

namespace ConversionRules

open Spelling

/-- The tokens say the document. -/
def Document.Spells (quotes : String → List Char → Prop) (d : Document) (ts : List Token) : Prop :=
  Sequence [] (SpellsRule quotes) d.rules ts

end ConversionRules
