import ConversionRules.Expression.Evaluation

/-!
Rules. A rule applies to a value if all its conditions hold, and then passes
the value through its outputs one after the other. A single condition or
output, if there is one, takes the place of the list.
-/
namespace ConversionRules

inductive Condition where
  | literal (v : Value)
  | type (t : ValueType)
  | expression (e : Expression)
  deriving BEq, Inhabited

inductive Output where
  | literal (v : Value)
  | expression (e : Expression)
  deriving BEq, Inhabited

structure Rule where
  name : Option String := none
  condition : Option Condition := none
  conditions : List Condition := []
  output : Option Output := none
  outputs : List Output := []
  deriving BEq, Inhabited

namespace Condition

def display : Condition → List Char
  | .literal v => "== ".toList ++ v.tagged
  | .type t => "type(".toList ++ t.display.toList ++ [')']
  | .expression e => e.kind.name.toList

/-- Whether the condition holds of a value. -/
def check (c : Condition) (v : Value) (s : Scope) : Except EvalError Bool × Scope :=
  match c with
  | .literal x => (.ok (v == x), s)
  | .type t => (.ok (v.type? == some t), s)
  | .expression e =>
    if e.isCondition then
      match e.evaluate v s with
      | (.ok x, s') => (.ok (x == .bool true), s')
      | (.error err, s') => (.error err, s')
    else (.error ⟨e.kind, .notACondition⟩, s)

/-- Whether all conditions hold, asked in order up to the first that does not. -/
def checkAll : List Condition → Value → Scope → Except EvalError Bool × Scope
  | [], _, s => (.ok true, s)
  | c :: rest, v, s =>
    match c.check v s with
    | (.ok true, s') => checkAll rest v s'
    | (.ok false, s') => (.ok false, s')
    | (.error err, s') => (.error err, s')

end Condition

namespace Output

def display : Output → List Char
  | .literal v => v.tagged
  | .expression e => e.kind.name.toList

def apply (o : Output) (v : Value) (s : Scope) : Except EvalError Value × Scope :=
  match o with
  | .literal x => (.ok x, s)
  | .expression e => e.evaluate v s

/-- Each output is applied to the result of the one before it. -/
def applyAll : List Output → Value → Scope → Except EvalError Value × Scope
  | [], v, s => (.ok v, s)
  | o :: rest, v, s =>
    match o.apply v s with
    | (.ok x, s') => applyAll rest x s'
    | (.error err, s') => (.error err, s')

end Output

namespace Rule

/-- The conditions that decide. -/
def activeConditions (r : Rule) : List Condition :=
  match r.condition with
  | some c => [c]
  | none => r.conditions

/-- The outputs that are applied. -/
def activeOutputs (r : Rule) : List Output :=
  match r.output with
  | some o => [o]
  | none => r.outputs

/-- The conditions in both places. -/
def allConditions (r : Rule) : List Condition := r.condition.toList ++ r.conditions

/-- The outputs in both places. -/
def allOutputs (r : Rule) : List Output := r.output.toList ++ r.outputs

def check (r : Rule) (v : Value) (s : Scope) : Except EvalError Bool × Scope :=
  Condition.checkAll r.activeConditions v s

def convert (r : Rule) (v : Value) (s : Scope) : Except EvalError Value × Scope :=
  Output.applyAll r.activeOutputs v s

/-- How messages refer to the rule at an index: by its name, or by the index. -/
def label (r : Rule) (index : Nat) : String :=
  r.name.getD ("#" ++ toString index)

def display (r : Rule) : List Char :=
  (match r.name with
    | some name => "rule ".toList ++ name.toList
    | none => "rule".toList) ++
  " (".toList ++ Nat.toDigits 10 r.allConditions.length ++ " conditions, ".toList ++
  Nat.toDigits 10 r.allOutputs.length ++ " outputs)".toList

end Rule

end ConversionRules
