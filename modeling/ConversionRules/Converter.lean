import ConversionRules.Definition
import ConversionRules.Rule

/-!
Converters: rules in order, of which the first that applies converts the
value; if none does the value passes unchanged. Rule names are unique, and
conditions hold no expression that does not answer yes or no.
-/
namespace ConversionRules

structure Converter where
  rules : List Rule
  deriving BEq, Inhabited

/-- Which rule was applied to a value, how many were asked, and the result. -/
structure Report where
  matched : Option Nat
  ruleName : Option String
  checked : Nat
  output : Value
  deriving Inhabited

/-- The report as text, the result in its tagged form. -/
def Report.display (r : Report) : List Char :=
  (match r.matched, r.ruleName with
    | some i, some name => "matched: #".toList ++ Nat.toDigits 10 i ++ " (".toList ++
      name.toList ++ [')']
    | some i, none => "matched: #".toList ++ Nat.toDigits 10 i
    | none, _ => "matched: none".toList) ++
  ", checked: ".toList ++ Nat.toDigits 10 r.checked ++ ", output: ".toList ++ r.output.tagged

namespace Converter

/-- The first condition of a rule that may not gate it. -/
def badCondition? (r : Rule) : Option ExpressionKind :=
  r.allConditions.findSome? fun c =>
    match c with
    | .expression e => if e.isCondition then none else some e.kind
    | _ => none

/-- Checks rules from an index on, in order and each first for its name;
`seen` holds the names of the rules before. -/
def validateFrom (index : Nat) (seen : List String) : List Rule → Except DefinitionError Unit
  | [] => .ok ()
  | r :: rest =>
    match r.name.filter seen.contains, badCondition? r with
    | some name, _ => .error (.duplicateRule name)
    | none, some kind => .error (.notACondition (r.label index) kind)
    | none, none => validateFrom (index + 1) (r.name.toList ++ seen) rest

def validate (rules : List Rule) : Except DefinitionError Unit := validateFrom 0 [] rules

/-- The converter of some rules, if they are in order. -/
def ofRules (rules : List Rule) : Except DefinitionError Converter :=
  (validate rules).map fun _ => ⟨rules⟩

def size (c : Converter) : Nat := c.rules.length

def display (c : Converter) : List Char :=
  "Converter(".toList ++ Nat.toDigits 10 c.size ++ " rules)".toList

/-- The index of the rule of a name. -/
def position? (c : Converter) (name : String) : Option Nat :=
  c.rules.findIdx? fun r => r.name == some name

/-- The first rule that applies to a value, with its index counted from `index`. -/
def searchFrom (index : Nat) : List Rule → Value → Scope →
    Except EvalError (Option (Nat × Rule)) × Scope
  | [], _, s => (.ok none, s)
  | r :: rest, v, s =>
    match r.check v s with
    | (.ok true, s') => (.ok (some (index, r)), s')
    | (.ok false, s') => searchFrom (index + 1) rest v s'
    | (.error err, s') => (.error err, s')

def search (rules : List Rule) (v : Value) (s : Scope) :
    Except EvalError (Option (Nat × Rule)) × Scope :=
  searchFrom 0 rules v s

def convert (c : Converter) (v : Value) (s : Scope) : Except EvalError Value × Scope :=
  match search c.rules v s with
  | (.ok (some (_, r)), s') => r.convert v s'
  | (.ok none, s') => (.ok v, s')
  | (.error err, s') => (.error err, s')

/-- Converts a value and reports how. -/
def report (c : Converter) (v : Value) (s : Scope) : Except EvalError Report × Scope :=
  match search c.rules v s with
  | (.ok (some (i, r)), s') =>
    match r.convert v s' with
    | (.ok x, s'') => (.ok ⟨some i, r.name, i + 1, x⟩, s'')
    | (.error err, s'') => (.error err, s'')
  | (.ok none, s') => (.ok ⟨none, none, c.size, v⟩, s')
  | (.error err, s') => (.error err, s')

end Converter

end ConversionRules
