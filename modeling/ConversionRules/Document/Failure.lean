/-!
Failures to read a document: where reading stopped and what was expected
there. The message shows the line and points at the place below it.
-/
namespace ConversionRules

/-- Something that could have stood where reading stopped. -/
inductive Expectation where
  | literal
  | parameterValue
  | typeName
  | term
  | symbol (c : Char)
  deriving DecidableEq

def Expectation.text : Expectation → List Char
  | .literal => "literal".toList
  | .parameterValue => "parameter value".toList
  | .typeName => "type name".toList
  | .term => "literal, type(...) or expression call".toList
  | .symbol c => ['\x60', c, '\x60']

/-- What is left at the place of the failure, and what was expected, the
innermost part first. A fatal failure leaves no other way to read on. -/
structure Failure where
  fatal : Bool
  rest : List Char
  expected : List Expectation
  deriving DecidableEq

namespace Failure

/-- The failure seen from a surrounding part. -/
def within (e : Expectation) (f : Failure) : Failure :=
  { f with expected := f.expected ++ [e] }

def fail (rest : List Char) : Failure := ⟨true, rest, []⟩

/-- A place to read on in another way. -/
def retry (rest : List Char) : Failure := ⟨false, rest, []⟩

def expectedText (es : List Expectation) : List Char :=
  if es.isEmpty then []
  else "expected ".toList ++ List.intercalate [',', ' '] (es.map Expectation.text)

/-- The number of bytes a text takes. -/
def byteLength (cs : List Char) : Nat := cs.foldl (fun n c => n + c.utf8Size) 0

/-- The text after the last line feed. -/
def lastLine (cs : List Char) : List Char :=
  (cs.reverse.takeWhile (· != '\n')).reverse

/-- How many characters stand before the place in its line. Before a character
of several bytes they are counted in bytes. The end of the text is in the line
of the last character, after it. -/
def column (before rest : List Char) : Nat :=
  match rest with
  | [] => (lastLine before.dropLast).length + 1
  | c :: _ => if c.utf8Size = 1 then (lastLine before).length else byteLength (lastLine before)

/-- How many lines end before the line of the place. -/
def line (before rest : List Char) : Nat :=
  (if rest.isEmpty then before.dropLast else before).count '\n'

/-- A text of one line is shown with a mark below it, after as many blanks as
there are bytes before the place. A longer text is shown by the line of the
place, with its number. -/
def message (input : List Char) (f : Failure) : List Char :=
  let before := input.take (input.length - f.rest.length)
  let expected := expectedText f.expected
  if input.contains '\n' then
    let row := line before f.rest
    let column := column before f.rest
    let number := Nat.toDigits 10 (row + 1)
    let gutter := List.replicate number.length ' '
    "parse error at line ".toList ++ number ++ ", column ".toList ++
      Nat.toDigits 10 (column + 1) ++ ['\n'] ++
      gutter ++ " |\n".toList ++
      number ++ " | ".toList ++ (input.splitOn '\n').getD row [] ++ ['\n'] ++
      gutter ++ " | ".toList ++ List.replicate column ' ' ++ "^\n".toList ++ expected
  else
    input ++ ['\n'] ++ List.replicate (byteLength before) ' ' ++ "^\n".toList ++ expected

end Failure

end ConversionRules
