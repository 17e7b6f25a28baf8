import ConversionRules.Text.CaseTable

/-!
Letter case. A character may map to several; the capital sigma maps to the
final form at the end of a word. A word is cut neither before nor after the
characters that casing looks through.
-/
namespace ConversionRules.Text

/-- Whether an increasing table of rows (first, last, step) holds a code point. -/
def inRows : List (Nat × Nat × Nat) → Nat → Bool
  | [], _ => false
  | (first, last, step) :: rest, n =>
    if n < first then false
    else if n ≤ last then (n - first) % step == 0 || inRows rest n
    else inRows rest n

/-- The image of a code point under an increasing table of rows (first, last, step, image). -/
def mapByRows : List (Nat × Nat × Nat × Nat) → Nat → Nat
  | [], n => n
  | (first, last, step, image) :: rest, n =>
    if n < first then n
    else if n ≤ last && (n - first) % step == 0 then n - first + image
    else mapByRows rest n

def isUppercase (c : Char) : Bool :=
  if c.toNat < 128 then c.isUpper else inRows CaseTable.uppercase c.toNat

def isLowercase (c : Char) : Bool :=
  if c.toNat < 128 then c.isLower else inRows CaseTable.lowercase c.toNat

def isCased (c : Char) : Bool :=
  isUppercase c || isLowercase c || inRows CaseTable.titlecase c.toNat

def isCaseIgnorable (c : Char) : Bool := inRows CaseTable.ignorable c.toNat

/-- The lowercase form outside the rule for the final sigma. The capital I
with a dot keeps its dot as a mark. -/
def lowerChar (c : Char) : List Char :=
  if c.toNat < 128 then [c.toLower]
  else if c.toNat = 0x130 then ['i', Char.ofNat 0x307]
  else [Char.ofNat (mapByRows CaseTable.toLower c.toNat)]

def upperChar (c : Char) : List Char :=
  if c.toNat < 128 then [c.toUpper]
  else match CaseTable.toUpperSequence.lookup c.toNat with
    | some image => image.map Char.ofNat
    | none => [Char.ofNat (mapByRows CaseTable.toUpper c.toNat)]

/-- Whether a cased character comes first once ignorable ones are skipped. -/
def startsCased (cs : List Char) : Bool :=
  match cs.dropWhile isCaseIgnorable with
  | [] => false
  | c :: _ => isCased c

/-- Lowers the characters of a text one by one. `inWord` says whether the
nearest character before that is not ignorable is cased, and `done` is the
result so far in reverse. -/
def lowerFrom (inWord : Bool) (done : List Char) : List Char → List Char
  | [] => done.reverse
  | c :: rest =>
    let image :=
      if c = 'Σ' then [if inWord && !startsCased rest then 'ς' else 'σ'] else lowerChar c
    lowerFrom (if isCaseIgnorable c then inWord else isCased c) (image.reverseAux done) rest

def lower (cs : List Char) : List Char := lowerFrom false [] cs

def upper (cs : List Char) : List Char := cs.flatMap upperChar

end ConversionRules.Text
