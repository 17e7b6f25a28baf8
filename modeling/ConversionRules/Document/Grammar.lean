import ConversionRules.Document.Basic
import ConversionRules.Document.Failure
import ConversionRules.Document.Lexeme

/-!
The grammar of rule documents. A part that does not begin as it should lets
another one be tried; past certain words a failure is final. Every part that
is read takes at least one character, so that every repetition ends.
-/
namespace ConversionRules.Grammar

open Lexeme

/-- What was read and what is left, which is shorter. -/
abbrev Reading (α : Type) (cs : List Char) :=
  Except Failure (α × { r : List Char // r.length < cs.length })

/-- What was read of any number of parts and what is left. -/
abbrev Readings (α : Type) (cs : List Char) :=
  Except Failure (List α × { r : List Char // r.length ≤ cs.length })

variable {α : Type}

/-- As many elements as there are. -/
def many (element : (r : List Char) → Reading α r) (cs : List Char) : Readings α cs :=
  match element cs with
  | .error f => if f.fatal then .error f else .ok ([], ⟨cs, Nat.le_refl _⟩)
  | .ok (a, ⟨r, h⟩) =>
    match many element r with
    | .error f => .error f
    | .ok (as, ⟨r', h'⟩) => .ok (a :: as, ⟨r', by omega⟩)
  termination_by cs.length

/-- The character, white space before it skipped. -/
def symbol? (c : Char) (cs : List Char) : Option { r : List Char // r.length < cs.length } :=
  match h : skip cs with
  | [] => none
  | d :: rest =>
    if d = c then
      some ⟨rest, by
        have := length_skip_le cs
        rw [h] at this
        simp only [List.length_cons] at this; omega⟩
    else none

/-- More elements, each after a comma. A comma that no element follows is left. -/
def moreSeparated {n : Nat} (element : (r : List Char) → r.length < n → Reading α r)
    (cs : List Char) (hn : cs.length < n) : Readings α cs :=
  match symbol? ',' cs with
  | none => .ok ([], ⟨cs, Nat.le_refl _⟩)
  | some ⟨next, hnext⟩ =>
    match element next (by omega) with
    | .error f => if f.fatal then .error f else .ok ([], ⟨cs, Nat.le_refl _⟩)
    | .ok (a, ⟨r, h⟩) =>
      match moreSeparated element r (by omega) with
      | .error f => .error f
      | .ok (as, ⟨r', h'⟩) => .ok (a :: as, ⟨r', by omega⟩)
  termination_by cs.length

/-- Elements separated by commas, or none. -/
def separated {n : Nat} (element : (r : List Char) → r.length < n → Reading α r)
    (cs : List Char) (hn : cs.length < n) : Readings α cs :=
  match element cs hn with
  | .error f => if f.fatal then .error f else .ok ([], ⟨cs, Nat.le_refl _⟩)
  | .ok (a, ⟨r, h⟩) =>
    match moreSeparated element r (by omega) with
    | .error f => .error f
    | .ok (as, ⟨r', h'⟩) => .ok (a :: as, ⟨r', by omega⟩)

/-- A whole number must fit 64 bits; one with a point is rounded. -/
def number (cs : List Char) : Reading Value cs :=
  match numeral? cs with
  | none => .error (.retry cs)
  | some (n, r) =>
    if n.places.isSome then .ok (.float n.toBinary64, r)
    else if Int64.minValue.toInt ≤ n.toInt && n.toInt ≤ Int64.maxValue.toInt then
      .ok (.int (Int64.ofInt n.toInt), r)
    else .error (.fail r.val)

def keywordValue? : String → Option Value
  | "null" => some .null
  | "true" => some (.bool true)
  | "false" => some (.bool false)
  | _ => none

def keyword (cs : List Char) : Reading Value cs :=
  match identifier? cs with
  | none => .error (.retry cs)
  | some (word, r) =>
    match keywordValue? word with
    | none => .error (.retry cs)
    | some v => .ok (v, r)

/-- What a text was read of, with what white space before it was skipped. -/
def afterSkip {cs : List Char} (x : Reading α (skip cs)) : Reading α cs :=
  match x with
  | .error f => .error f
  | .ok (a, ⟨r, h⟩) => .ok (a, ⟨r, Nat.lt_of_lt_of_le h (length_skip_le cs)⟩)

/-- The failure of a part that another one surrounds. -/
def within {cs : List Char} (e : Expectation) (x : Reading α cs) : Reading α cs :=
  match x with
  | .error f => .error (f.within e)
  | .ok a => .ok a

/-- A literal that is not a list: a text, a number or a keyword. -/
def atom (cs : List Char) : Reading Value cs :=
  match quoted? cs with
  | some (s, r) => .ok (.string s, r)
  | none =>
    match number cs with
    | .ok x => .ok x
    | .error f => if f.fatal then .error f else keyword cs

/-- A literal: a list of literals between square brackets, or an atom. -/
def literal (cs : List Char) : Reading Value cs :=
  within .literal <|
    match symbol? '[' cs with
    | none => afterSkip (atom (skip cs))
    | some ⟨rest, hrest⟩ =>
      match separated (fun r _ => literal r) rest hrest with
      | .error f => .error f
      | .ok (items, ⟨r, h⟩) =>
        match symbol? ']' r with
        | none => .error (.fail (skip r))
        | some ⟨r', h'⟩ => .ok (.list items, ⟨r', by omega⟩)
  termination_by cs.length

/-- The value of a parameter: a literal or a word. -/
def argumentValue (cs : List Char) : Reading Argument cs :=
  match literal cs with
  | .ok (v, r) => .ok (.literal v, r)
  | .error f =>
    if f.fatal then .error f
    else afterSkip <|
      match identifier? (skip cs) with
      | none => .error (.retry (skip cs))
      | some (word, r) => .ok (.word word, r)

/-- A parameter, the equals sign and its value. -/
def argument (cs : List Char) : Reading (String × Argument) cs :=
  afterSkip <|
    match identifier? (skip cs) with
    | none => .error (.retry (skip cs))
    | some (name, ⟨r, h⟩) =>
      match symbol? '=' r with
      | none => .error (.fail (skip r))
      | some ⟨r', h'⟩ =>
        match argumentValue r' with
        | .error f => .error { f.within .parameterValue with fatal := true }
        | .ok (v, ⟨r'', h''⟩) => .ok ((name, v), ⟨r'', by omega⟩)

/-- The rest of a type reference, after its opening parenthesis. -/
def typeReference (cs : List Char) : Reading Term cs :=
  afterSkip <|
    match identifier? (skip cs) with
    | none => .error ((Failure.fail (skip cs)).within .typeName)
    | some (name, ⟨r, h⟩) =>
      match symbol? ')' r with
      | none => .error (.fail (skip r))
      | some ⟨r', h'⟩ => .ok (.typeRef name, ⟨r', by omega⟩)

/-- The rest of a call, after its opening parenthesis. -/
def callArguments (name : String) (cs : List Char) : Reading Term cs :=
  match separated (fun r _ => argument r) cs (Nat.lt_succ_self _) with
  | .error f => .error f
  | .ok (args, ⟨r, h⟩) =>
    match symbol? ')' r with
    | none => .error ((Failure.fail (skip r)).within (.symbol ')'))
    | some ⟨r', h'⟩ => .ok (.call name args, ⟨r', by omega⟩)

/-- A name and parentheses: a type reference or the call of an expression. -/
def call (cs : List Char) : Reading Term cs :=
  match identifier? cs with
  | none => .error (.retry cs)
  | some (name, ⟨r, h⟩) =>
    match symbol? '(' r with
    | none => .error ((Failure.fail (skip r)).within (.symbol '('))
    | some ⟨r', h'⟩ =>
      match (if name = "type" then typeReference r' else callArguments name r') with
      | .error f => .error f
      | .ok (t, ⟨r'', h''⟩) => .ok (t, ⟨r'', by omega⟩)

def term (cs : List Char) : Reading Term cs :=
  within .term <|
    match literal cs with
    | .ok (v, r) => .ok (.literal v, r)
    | .error f => if f.fatal then .error f else afterSkip (call (skip cs))

def clauseKind? : String → Option ClauseKind
  | "when" => some .whenClause
  | "if" => some .ifClause
  | "then" => some .thenClause
  | "yield" => some .yieldClause
  | _ => none

/-- The keyword of a clause and its term. -/
def clause (cs : List Char) : Reading Clause cs :=
  afterSkip <|
    match identifier? (skip cs) with
    | none => .error (.retry (skip cs))
    | some (word, ⟨r, h⟩) =>
      match clauseKind? word with
      | none => .error (.retry (skip cs))
      | some kind =>
        match term r with
        | .error f => .error { f with fatal := true }
        | .ok (t, ⟨r', h'⟩) => .ok (⟨kind, t⟩, ⟨r', by omega⟩)

/-- The name of a rule, if one is given. -/
def ruleName (cs : List Char) : Option String × { r : List Char // r.length ≤ cs.length } :=
  match identifier? (skip cs) with
  | none => (none, ⟨cs, Nat.le_refl _⟩)
  | some (name, ⟨r, h⟩) => (some name, ⟨r, Nat.le_of_lt (Nat.lt_of_lt_of_le h (length_skip_le cs))⟩)

/-- The word that begins a rule, its name, a colon and its clauses. -/
def rule (cs : List Char) : Reading WrittenRule cs :=
  afterSkip <|
    match identifier? (skip cs) with
    | none => .error (.retry (skip cs))
    | some (word, ⟨r, h⟩) =>
      if word = "rule" then
        match ruleName r with
        | (name, ⟨r₁, h₁⟩) =>
          match symbol? ':' r₁ with
          | none => .error ((Failure.fail (skip r₁)).within (.symbol ':'))
          | some ⟨r₂, h₂⟩ =>
            match many clause r₂ with
            | .error f => .error f
            | .ok (clauses, ⟨r₃, h₃⟩) => .ok (⟨name, clauses⟩, ⟨r₃, by omega⟩)
      else .error (.retry (skip cs))

/-- A document is rules and nothing else. -/
def document (cs : List Char) : Except Failure Document :=
  match many rule cs with
  | .error f => .error f
  | .ok (rules, ⟨r, _⟩) =>
    if (skip r).isEmpty then .ok ⟨rules⟩ else .error (.fail (skip r))

end ConversionRules.Grammar

namespace ConversionRules.Document

/-- Reads a document. -/
def parse (input : String) : Except Failure Document := Grammar.document input.toList

end ConversionRules.Document
