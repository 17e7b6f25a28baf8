import ConversionRules.Number.Decimal

/-!
The words of rule documents: layout that is skipped, identifiers, quoted texts
and numbers. Each reader returns what is left, which is never longer than what
it was given and shorter if a word was read.
-/
namespace ConversionRules.Lexeme

/-- White space between words: blank, tab, line feed, form feed and carriage return. -/
def isSpace (c : Char) : Bool :=
  c == ' ' || c == '\t' || c == '\n' || c == '\x0c' || c == '\r'

/-- What follows the text of a comment: a line break or nothing. A carriage
return alone ends no comment. -/
def afterComment? (cs : List Char) : Option (List Char) :=
  match cs.dropWhile fun c => c != '\r' && c != '\n' with
  | '\r' :: rest => if rest.head? = some '\n' then some ('\r' :: rest) else none
  | rest => some rest

theorem length_afterComment {cs rest : List Char} (h : afterComment? cs = some rest) :
    rest.length ≤ cs.length := by
  have hle := (List.dropWhile_suffix (l := cs) fun c => c != '\r' && c != '\n').length_le
  unfold afterComment? at h
  split at h
  · rename_i rest' heq
    rw [heq] at hle
    split at h
    · rw [← Option.some.inj h]; exact hle
    · simp at h
  · rw [← Option.some.inj h]; exact hle

/-- Skips white space and comments, which run from a number sign to the end of
the line; one that does not end is not skipped. -/
def skip : List Char → List Char
  | [] => []
  | c :: cs =>
    if isSpace c then skip cs
    else if c = '#' then
      match _h : afterComment? cs with
      | some rest => skip rest
      | none => c :: cs
    else c :: cs
  termination_by cs => cs.length
  decreasing_by
    · simp
    · have := length_afterComment _h
      simp only [List.length_cons]; omega

theorem length_skip_le (cs : List Char) : (skip cs).length ≤ cs.length := by
  fun_induction skip cs with
  | case1 => exact Nat.le_refl _
  | case2 c cs _ ih => simp only [List.length_cons]; omega
  | case3 cs rest h _ ih =>
    have := length_afterComment h
    simp only [List.length_cons]; omega
  | case4 => exact Nat.le_refl _
  | case5 => exact Nat.le_refl _

def startsIdentifier (c : Char) : Bool := c.isAlpha || c == '_'

def continuesIdentifier (c : Char) : Bool := c.isAlphanum || c == '_'

/-- A letter or underscore and the letters, digits and underscores after it. -/
def identifier? (cs : List Char) : Option (String × { r : List Char // r.length < cs.length }) :=
  match cs with
  | [] => none
  | c :: rest =>
    if startsIdentifier c then
      some (String.ofList (c :: rest.takeWhile continuesIdentifier),
        ⟨rest.dropWhile continuesIdentifier, by
          have := (List.dropWhile_suffix (l := rest) continuesIdentifier).length_le
          simp only [List.length_cons]; omega⟩)
    else none

/-- What a backslash and a character stand for: a quote, a backslash, a line
feed or a tab; any other pair stands for itself. -/
def unescape (c : Char) : List Char :=
  if c = '"' then ['"']
  else if c = '\\' then ['\\']
  else if c = 'n' then ['\n']
  else if c = 't' then ['\t']
  else ['\\', c]

/-- The text up to the closing quote, if there is one. -/
def quotedRest? : (cs : List Char) → Option (List Char × { r : List Char // r.length < cs.length })
  | [] => none
  | '"' :: rest => some ([], ⟨rest, by simp⟩)
  | ['\\'] => none
  | '\\' :: c :: rest =>
    match quotedRest? rest with
    | none => none
    | some (text, ⟨r, h⟩) =>
      some (unescape c ++ text, ⟨r, by simp only [List.length_cons]; omega⟩)
  | c :: rest =>
    match quotedRest? rest with
    | none => none
    | some (text, ⟨r, h⟩) => some (c :: text, ⟨r, by simp only [List.length_cons]; omega⟩)

/-- A text between quotes. -/
def quoted? (cs : List Char) : Option (String × { r : List Char // r.length < cs.length }) :=
  match cs with
  | '"' :: rest =>
    match quotedRest? rest with
    | none => none
    | some (text, ⟨r, h⟩) =>
      some (String.ofList text, ⟨r, by simp only [List.length_cons]; omega⟩)
  | _ => none

/-- A number as it is written: a sign, digits, and, after a point, more digits. -/
structure NumberWord where
  negative : Bool
  whole : List Char
  places : Option (List Char)

theorem length_dropWhile_of_takeWhile_ne_nil {p : Char → Bool} {cs : List Char}
    (h : cs.takeWhile p ≠ []) : (cs.dropWhile p).length < cs.length := by
  cases cs with
  | nil => simp at h
  | cons c rest =>
    by_cases hc : p c
    · have := (List.dropWhile_suffix (l := rest) p).length_le
      simp only [List.dropWhile_cons, hc, if_true, List.length_cons]; omega
    · simp [hc] at h

/-- Digits and what follows them, if there is a digit. -/
def digits? (cs : List Char) : Option (List Char × { r : List Char // r.length < cs.length }) :=
  if h : cs.takeWhile Char.isDigit = [] then none
  else some (cs.takeWhile Char.isDigit,
    ⟨cs.dropWhile Char.isDigit, length_dropWhile_of_takeWhile_ne_nil h⟩)

/-- A point and the digits after it. -/
def places? (cs : List Char) : Option (List Char × { r : List Char // r.length < cs.length }) :=
  match cs with
  | '.' :: rest =>
    match digits? rest with
    | none => none
    | some (places, ⟨r, h⟩) => some (places, ⟨r, by simp only [List.length_cons]; omega⟩)
  | _ => none

/-- A number without its sign. A point belongs to it only if a digit follows. -/
def unsigned? (negative : Bool) (cs : List Char) :
    Option (NumberWord × { r : List Char // r.length < cs.length }) :=
  match digits? cs with
  | none => none
  | some (whole, ⟨r, h⟩) =>
    match places? r with
    | none => some (⟨negative, whole, none⟩, ⟨r, h⟩)
    | some (places, ⟨r', h'⟩) => some (⟨negative, whole, some places⟩, ⟨r', Nat.lt_trans h' h⟩)

def numeral? : (cs : List Char) → Option (NumberWord × { r : List Char // r.length < cs.length })
  | '-' :: rest =>
    match unsigned? true rest with
    | none => none
    | some (n, ⟨r, h⟩) => some (n, ⟨r, by simp only [List.length_cons]; omega⟩)
  | cs => unsigned? false cs

/-- The whole number that a numeral without a point denotes. -/
def NumberWord.toInt (n : NumberWord) : Int :=
  if n.negative then -(Nat.ofDigitChars 10 n.whole 0 : Int) else Nat.ofDigitChars 10 n.whole 0

/-- The binary number nearest to the numeral. -/
def NumberWord.toBinary64 (n : NumberWord) : Binary64 :=
  let places := n.places.getD []
  Decimal.toBinary64 n.negative ⟨Nat.ofDigitChars 10 (n.whole ++ places) 0, -(places.length : Int)⟩

end ConversionRules.Lexeme
