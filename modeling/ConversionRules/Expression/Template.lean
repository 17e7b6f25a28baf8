import ConversionRules.Expression.Error
import ConversionRules.Value.Text
import ConversionRules.Value.Reading

/-!
Templates with numbered placeholders. A doubled brace stands for itself; a
placeholder is an index, an optional alignment after a comma and an optional
number format after a colon, between braces.
-/
namespace ConversionRules.Template

/-- The text before the first `c`, and the text after it if there is one. -/
def cutAt (c : Char) (cs : List Char) : List Char × Option (List Char) :=
  match cs.dropWhile (· != c) with
  | [] => (cs, none)
  | _ :: rest => (cs.takeWhile (· != c), some rest)

/-- The number of digits a format asks for, or the default. -/
def precision (format : List Char) (default : Nat) (digits : List Char) :
    Except TemplateFault Nat :=
  if digits.isEmpty then .ok default
  else
    match Numeral.readUInt64? digits with
    | none => .error (.invalidPrecision (String.ofList format))
    | some n =>
      if maxPrecision < n.toNat then .error (.precisionTooLarge (String.ofList format))
      else .ok n.toNat

/-- Commas between groups of three, counted from the right. -/
def group : List Char → List Char
  | [] => []
  | c :: rest =>
    if rest.isEmpty then [c]
    else if rest.length % 3 = 0 then c :: ',' :: group rest
    else c :: group rest

/-- Groups what stands between the sign and the point. -/
def groupWhole (cs : List Char) : List Char :=
  let unsigned (cs : List Char) : List Char :=
    match cutAt '.' cs with
    | (whole, none) => group whole
    | (whole, some places) => group whole ++ '.' :: places
  match cs with
  | '-' :: rest => '-' :: unsigned rest
  | _ => unsigned cs

/-- The digits of a whole number, zeros filling them up to a width after the sign. -/
def zeroPadded (width : Nat) (n : Int) : List Char :=
  let digits := Numeral.padLeft width '0' (Nat.toDigits 10 n.natAbs)
  if n < 0 then '-' :: digits else digits

def specified (format : List Char) (v : Value) (n : Binary64) : Except TemplateFault (List Char) :=
  match format with
  | [] => .error (.unknownSpecifier (String.ofList format))
  | c :: digits =>
    match c.toUpper with
    | 'F' => (precision format 2 digits).map fun p => Numeral.fixed p n
    | 'N' => (precision format 2 digits).map fun p => groupWhole (Numeral.fixed p n)
    | 'P' => (precision format 2 digits).map fun p => Numeral.fixed p (n.mul (.ofNat 100)) ++ ['%']
    | 'D' =>
      match v with
      | .int k => (precision format 0 digits).map fun p => zeroPadded p k.toInt
      | _ => .error (.integerRequired (String.ofList format))
    | _ => .error (.unknownSpecifier (String.ofList format))

/-- A number in the format, which is not empty. -/
def formatNumber (format : List Char) (v : Value) : Except TemplateFault (List Char) :=
  match v with
  | .int k => specified format v (.ofInt k.toInt)
  | .float x => specified format v x
  | _ => .error (.numberRequired (String.ofList format) v.type?)

def argumentText (format : Option (List Char)) (v : Value) : Except TemplateFault (List Char) :=
  match format with
  | some (c :: rest) => formatNumber (c :: rest) v
  | _ => .ok v.display

/-- A text filled up to a width by blanks, on its right if the width is negative. -/
def pad (width : Int) (cs : List Char) : List Char :=
  let fill := List.replicate (width.natAbs - cs.length) ' '
  if width < 0 then cs ++ fill else fill ++ cs

def align (alignment : Option (List Char)) (cs : List Char) : Except TemplateFault (List Char) :=
  match alignment with
  | none => .ok cs
  | some a =>
    match Numeral.readInt64? (Text.trim a) with
    | none => .error (.invalidAlignment (String.ofList (Text.trim a)))
    | some width =>
      if maxAlignment < width.toInt.natAbs then .error (.alignmentTooWide width.toInt)
      else .ok (pad width.toInt cs)

def argument (args : List Value) (index : List Char) : Except TemplateFault Value :=
  match Numeral.readUInt64? index with
  | none => .error (.invalidIndex (String.ofList index))
  | some i =>
    match args[i.toNat]? with
    | none => .error (.missingArgument i.toNat args.length)
    | some v => .ok v

/-- The text of a placeholder, of which `spec` stands between the braces. -/
def placeholder (args : List Value) (spec : List Char) : Except TemplateFault (List Char) :=
  let (head, format) := cutAt ':' spec
  let (index, alignment) := cutAt ',' head
  match argument args (Text.trim index) with
  | .error fault => .error fault
  | .ok v =>
    match argumentText format v with
    | .error fault => .error fault
    | .ok text => align alignment text

/-- The text of a template, read from the left. -/
def expand (args : List Value) : List Char → Except TemplateFault (List Char)
  | [] => .ok []
  | '\x7b' :: '\x7b' :: rest => (expand args rest).map ('\x7b' :: ·)
  | '\x7d' :: '\x7d' :: rest => (expand args rest).map ('\x7d' :: ·)
  | '\x7d' :: _ => .error .unmatchedBrace
  | '\x7b' :: rest =>
    match _h : rest.dropWhile (· != '\x7d') with
    | [] => .error .unclosedPlaceholder
    | _ :: more =>
      match placeholder args (rest.takeWhile (· != '\x7d')) with
      | .error fault => .error fault
      | .ok text => (expand args more).map (text ++ ·)
  | c :: rest => (expand args rest).map (c :: ·)
  termination_by cs => cs.length
  decreasing_by
    · simp only [List.length_cons]; omega
    · simp only [List.length_cons]; omega
    · have hle := (List.dropWhile_suffix (l := rest) (· != '\x7d')).length_le
      rw [_h] at hle
      simp only [List.length_cons] at hle ⊢
      omega
    · simp

/-- A list supplies one argument an item, any other value is the only argument. -/
def arguments : Value → List Value
  | .list items => items
  | v => [v]

def evaluate (template : Option String) (v : Value) : Except Cause Value :=
  match template with
  | none => .error (.missingConfiguration .template)
  | some t =>
    match expand (arguments v) t.toList with
    | .error fault => .error (.malformedTemplate fault)
    | .ok text => .ok (.string (String.ofList text))

end ConversionRules.Template
