import ConversionRules.Converter
import ConversionRules.Document.Call
import ConversionRules.Document.Grammar

/-!
The converter that a document denotes. Names are looked up in a registry, and
the clauses of a rule fill its parts in the order in which they are written.
-/
namespace ConversionRules

namespace Term

/-- The term as a condition of a rule. -/
def condition (t : Term) (types : Registry) (rule : String) : Except DefinitionError Condition :=
  match t with
  | .literal v => .ok (.literal v)
  | .typeRef name => (Call.resolve types name).map .type
  | .call name args => ((⟨name, args⟩ : Call).expression types rule).map .expression

/-- The term as an output of a rule. -/
def output (t : Term) (types : Registry) (rule : String) : Except DefinitionError Output :=
  match t with
  | .literal v => .ok (.literal v)
  | .typeRef name => (Call.resolve types name).map fun t => .literal (.type t)
  | .call name args => ((⟨name, args⟩ : Call).expression types rule).map .expression

end Term

/-- Puts a clause into its place. A single condition or output is given only once. -/
def Rule.addClause (r : Rule) (types : Registry) (label : String) (c : Clause) :
    Except DefinitionError Rule :=
  match c.kind with
  | .whenClause =>
    (c.term.condition types label).map fun x => { r with conditions := r.conditions ++ [x] }
  | .ifClause =>
    if r.condition.isSome then .error (.duplicateClause label c.kind)
    else (c.term.condition types label).map fun x => { r with condition := some x }
  | .thenClause =>
    (c.term.output types label).map fun x => { r with outputs := r.outputs ++ [x] }
  | .yieldClause =>
    if r.output.isSome then .error (.duplicateClause label c.kind)
    else (c.term.output types label).map fun x => { r with output := some x }

def Rule.addClauses (types : Registry) (label : String) :
    Rule → List Clause → Except DefinitionError Rule
  | r, [] => .ok r
  | r, c :: rest =>
    match r.addClause types label c with
    | .error e => .error e
    | .ok r' => addClauses types label r' rest

/-- The rule that stands at an index of a document. -/
def WrittenRule.toRule (w : WrittenRule) (types : Registry) (index : Nat) :
    Except DefinitionError Rule :=
  let empty : Rule := { name := w.name }
  Rule.addClauses types (empty.label index) empty w.clauses

namespace Document

def rulesFrom (types : Registry) (index : Nat) :
    List WrittenRule → Except DefinitionError (List Rule)
  | [] => .ok []
  | w :: rest =>
    match w.toRule types index with
    | .error e => .error e
    | .ok r => (rulesFrom types (index + 1) rest).map (r :: ·)

def toConverter (d : Document) (types : Registry) : Except DefinitionError Converter :=
  match rulesFrom types 0 d.rules with
  | .error e => .error e
  | .ok rules => Converter.ofRules rules

end Document

/-- Why a text denotes no converter. -/
inductive SourceError where
  | unreadable (input : String) (f : Failure)
  | definition (e : DefinitionError)
  deriving DecidableEq

def SourceError.message : SourceError → String
  | .unreadable input f => "parse error: " ++ String.ofList (f.message input.toList)
  | .definition e => e.message

/-- The converter that a text denotes. -/
def Converter.ofText (input : String) (types : Registry) : Except SourceError Converter :=
  match Document.parse input with
  | .error f => .error (.unreadable input f)
  | .ok d =>
    match d.toConverter types with
    | .error e => .error (.definition e)
    | .ok c => .ok c

end ConversionRules
