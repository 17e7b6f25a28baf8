import ConversionRules.Expression.Error
import ConversionRules.Value.Text
import ConversionRules.Value.Reading

/-!
Expressions that calculate with numbers, and those that compare a number or
the size of a collection with bounds.
-/
namespace ConversionRules

/-- The number a value stands for, demanded by an expression. -/
def Value.requireNumber (v : Value) : Except Cause Binary64 :=
  match v.number? with
  | none => .error (.typeMismatch .number v.type?)
  | some n => .ok n

namespace Arithmetic

/-- A number combined with an operand, if there is one. -/
def step (f : Binary64 → Binary64 → Binary64) (operand : Option Binary64) (n : Binary64) :
    Binary64 :=
  match operand with
  | none => n
  | some x => f n x

/-- The operators are applied in the order of the parameters. -/
def apply (a : Arithmetic) (n : Binary64) : Binary64 :=
  step .sub a.subtract <| step .add a.add <| step .rem a.modulo <| step .div a.divide <|
    step .mul a.multiply n

def evaluate (a : Arithmetic) (v : Value) : Except Cause Value :=
  v.requireNumber.map fun n => .float (a.apply n)

end Arithmetic

namespace Bounds

/-- Whether a bound holds, if there is one. -/
def holds (test : Binary64 → Binary64 → Bool) (bound : Option Binary64) (n : Binary64) : Bool :=
  match bound with
  | none => true
  | some b => test n b

def admits (b : Bounds) (n : Binary64) : Bool :=
  holds (fun n x => n.equal x) b.equalTo n &&
    holds (fun n x => !n.equal x) b.notEqualTo n &&
    holds (fun n x => x.less n) b.greaterThan n &&
    holds (fun n x => x.atMost n) b.atLeast n &&
    holds (fun n x => n.less x) b.lessThan n &&
    holds (fun n x => n.atMost x) b.atMost n

def evaluate (b : Bounds) (v : Value) : Except Cause Value :=
  v.requireNumber.map fun n => .bool (b.admits n)

/-- The bounds applied to the number of items or characters. -/
def evaluateCount (b : Bounds) (v : Value) : Except Cause Value :=
  match v.count? with
  | none => .error (.typeMismatch .collection v.type?)
  | some n => .ok (.bool (b.admits (.ofNat n)))

end Bounds

namespace Calculation

/-- The configured number, or else the input as a number. -/
def double (value : Option Binary64) (v : Value) : Except Cause Value :=
  match value with
  | some x => .ok (.float x)
  | none =>
    match v.number? with
    | some n => .ok (.float n)
    | none => .error (.unparsable (String.ofList v.display) "number")

/-- The other truth value, or the number of opposite sign. -/
def negate : Value → Except Cause Value
  | .bool b => .ok (.bool !b)
  | v =>
    match v.strictNumber? with
    | some n => .ok (.float n.neg)
    | none => .error (.typeMismatch .boolOrNumber v.type?)

/-- A number in hundredths of a whole, which is one unless it is configured. -/
def percentage (whole : Option Binary64) (v : Value) : Except Cause Value :=
  v.requireNumber.map fun n => .float ((n.mul (.ofNat 100)).div (whole.getD (.ofNat 1)))

end Calculation

end ConversionRules
