import ConversionRules.Expression.Error
import ConversionRules.Text.Blank
import ConversionRules.Text.Casing
import ConversionRules.Text.Parts

/-!
Tests and transforms of texts. The stages of a transform are applied in a
fixed order, and positions count the characters of the text that a stage gets.
-/
namespace ConversionRules

/-- The characters of a text, demanded by an expression. -/
def Value.requireText (v : Value) : Except Cause (List Char) :=
  match v with
  | .string s => .ok s.toList
  | _ => .error (.typeMismatch .string v.type?)

def CheckOperation.holds (op : CheckOperation) (cs : List Char) : Bool :=
  match op with
  | .nullOrEmpty => cs.isEmpty
  | .nullOrWhitespace => cs.all Text.isBlank
  | .lowerCase => !cs.any Text.isUppercase
  | .upperCase => !cs.any Text.isLowercase

namespace TextCheck

/-- Whether a test of a text against a configured part holds, if there is one. -/
def holds (test : List Char → List Char → Bool) (part : Option String) (cs : List Char) : Bool :=
  match part with
  | none => true
  | some p => test p.toList cs

def admits (c : TextCheck) (cs : List Char) : Bool :=
  (match c.operation with
    | none => true
    | some op => op.holds cs) &&
  holds List.isPrefixOf c.startsWith cs &&
  holds List.isSuffixOf c.endsWith cs &&
  holds Text.occursIn c.contains cs

def evaluate (c : TextCheck) (v : Value) : Except Cause Value :=
  v.requireText.map fun cs => .bool (c.admits cs)

end TextCheck

namespace TextTransform

def trimStage (mode : Option TrimMode) (cs : List Char) : List Char :=
  match mode with
  | none => cs
  | some .whole => Text.trim cs
  | some .atStart => Text.trimStart cs
  | some .atEnd => Text.trimEnd cs

/-- The characters from a start, or the beginning, up to an end, or the last. -/
def cutStage (start stop : Option UInt64) (cs : List Char) : Except Cause (List Char) :=
  if start.isNone && stop.isNone then .ok cs
  else
    let first := match start with
      | some n => n.toNat
      | none => 0
    let last := match stop with
      | some n => n.toNat
      | none => cs.length
    if cs.length < last then .error (.indexOutOfRange last cs.length)
    else if last < first then .error (.indexOutOfRange first cs.length)
    else .ok ((cs.take last).drop first)

/-- A text put before the character at an index, which is the first by default. -/
def insertStage (text : Option String) (index : Option UInt64) (cs : List Char) :
    Except Cause (List Char) :=
  match text with
  | none => .ok cs
  | some t =>
    let n := match index with
      | some n => n.toNat
      | none => 0
    if cs.length < n then .error (.indexOutOfRange n cs.length)
    else .ok (cs.take n ++ t.toList ++ cs.drop n)

def lowerStage (mode : Option CaseMode) (cs : List Char) : List Char :=
  if mode.isSome then Text.lower cs else cs

def upperStage (mode : Option CaseMode) (cs : List Char) : List Char :=
  if mode.isSome then Text.upper cs else cs

/-- The text, or the list of its parts between separators. -/
def splitStage (separator : Option String) (cs : List Char) : Value :=
  match separator with
  | none => .string (String.ofList cs)
  | some s => .list ((Text.split s.toList cs).map fun p => .string (String.ofList p))

/-- The stages before the last. -/
def reshape (t : TextTransform) (cs : List Char) : Except Cause (List Char) :=
  match cutStage t.substringStart t.substringEnd (trimStage t.trim cs) with
  | .error cause => .error cause
  | .ok cut =>
    (insertStage t.insertText t.insertIndex cut).map fun inserted =>
      upperStage t.toUpper (lowerStage t.toLower inserted)

def evaluate (t : TextTransform) (v : Value) : Except Cause Value :=
  match v.requireText with
  | .error cause => .error cause
  | .ok cs => (t.reshape cs).map (splitStage t.splitBy)

end TextTransform

end ConversionRules
