/-!
Parts of a text: where another text occurs in it, and the parts between the
occurrences of a separator.
-/
namespace ConversionRules.Text

def occursIn (part : List Char) : List Char → Bool
  | [] => part.isEmpty
  | c :: rest => part.isPrefixOf (c :: rest) || occursIn part rest

/-- The parts between the occurrences of a separator that begins with `s`. The
parts found are in reverse order, the current one in reverse as well. -/
def splitFrom (s : Char) (more : List Char) (parts : List (List Char)) (current : List Char) :
    List Char → List (List Char)
  | [] => (current.reverse :: parts).reverse
  | c :: rest =>
    if c = s && more.isPrefixOf rest then
      splitFrom s more (current.reverse :: parts) [] (rest.drop more.length)
    else splitFrom s more parts (c :: current) rest
  termination_by cs => cs.length
  decreasing_by all_goals simp; try omega

/-- The parts between the occurrences of a separator, read from the left; an
empty separator occurs nowhere. -/
def split (separator : List Char) (cs : List Char) : List (List Char) :=
  match separator with
  | [] => [cs]
  | s :: more => splitFrom s more [] [] cs

end ConversionRules.Text
