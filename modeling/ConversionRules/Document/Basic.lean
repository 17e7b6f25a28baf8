import ConversionRules.Value.Basic

/-!
Rule documents as they are written, before names of types, expressions and
parameters are looked up.
-/
namespace ConversionRules

/-- A bare word is the name of an option or of a type. -/
inductive Argument where
  | literal (v : Value)
  | word (s : String)
  deriving Inhabited

inductive Term where
  | literal (v : Value)
  | typeRef (name : String)
  | call (name : String) (args : List (String × Argument))
  deriving Inhabited

/-- The part of a rule that a clause fills: one of the conditions, the single
condition, one of the outputs, or the single output. -/
inductive ClauseKind where
  | whenClause
  | ifClause
  | thenClause
  | yieldClause
  deriving DecidableEq, Inhabited

def ClauseKind.keyword : ClauseKind → String
  | .whenClause => "when"
  | .ifClause => "if"
  | .thenClause => "then"
  | .yieldClause => "yield"

structure Clause where
  kind : ClauseKind
  term : Term
  deriving Inhabited

structure WrittenRule where
  name : Option String
  clauses : List Clause
  deriving Inhabited

structure Document where
  rules : List WrittenRule
  deriving Inhabited

end ConversionRules
