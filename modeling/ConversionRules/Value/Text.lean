import ConversionRules.Number.Numeral
import ConversionRules.Value.Basic
import ConversionRules.Text.Quoted

/-!
The two texts of a value. Its display form is what templates and messages
show: texts stand for themselves and null shows nothing. Its tagged form names
the shape of every part and quotes texts.
-/
namespace ConversionRules

def ValueType.tagged : ValueType → List Char
  | .bool => "Bool".toList
  | .int => "Int".toList
  | .float => "Float".toList
  | .char => "Char".toList
  | .string => "String".toList
  | .list => "List".toList
  | .type => "Type".toList
  | .enum name => "Enum(".toList ++ Text.quoted '"' name.toList ++ [')']

def EnumValue.display (e : EnumValue) : List Char :=
  match e.memberName with
  | some name => name.toList
  | none => Numeral.integer e.ordinal.toInt

def EnumValue.tagged (e : EnumValue) : List Char :=
  let name := match e.memberName with
    | some name => "Some(".toList ++ Text.quoted '"' name.toList ++ [')']
    | none => "None".toList
  "EnumValue \x7b type_name: ".toList ++ Text.quoted '"' e.typeName.toList ++
    ", name: ".toList ++ name ++
    ", value: ".toList ++ Numeral.integer e.ordinal.toInt ++ " \x7d".toList

namespace Value

/-- Parts between square brackets, a comma and a blank between neighbours. -/
def bracketed (parts : List (List Char)) : List Char :=
  '[' :: List.intercalate [',', ' '] parts ++ [']']

def boolText (b : Bool) : List Char := if b then "true".toList else "false".toList

mutual

def display : Value → List Char
  | .null => []
  | .bool b => boolText b
  | .int n => Numeral.integer n.toInt
  | .float x => Numeral.plain x
  | .char c => [c]
  | .string s => s.toList
  | .list items => bracketed (displayItems items)
  | .enum e => e.display
  | .type t => t.display.toList

def displayItems : List Value → List (List Char)
  | [] => []
  | v :: rest => display v :: displayItems rest

end

/-- A shape's name before its content in parentheses. -/
def wrapped (shape : String) (content : List Char) : List Char :=
  shape.toList ++ '(' :: content ++ [')']

mutual

def tagged : Value → List Char
  | .null => "Null".toList
  | .bool b => wrapped "Bool" (boolText b)
  | .int n => wrapped "Int" (Numeral.integer n.toInt)
  | .float x => wrapped "Float" (Numeral.tagged x)
  | .char c => wrapped "Char" (Text.quoted '\x27' [c])
  | .string s => wrapped "String" (Text.quoted '"' s.toList)
  | .list items => wrapped "List" (bracketed (taggedItems items))
  | .enum e => wrapped "Enum" e.tagged
  | .type t => wrapped "Type" t.tagged

def taggedItems : List Value → List (List Char)
  | [] => []
  | v :: rest => tagged v :: taggedItems rest

end

end Value

end ConversionRules
