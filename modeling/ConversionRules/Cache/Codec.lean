import ConversionRules.Cache.Primitive
import ConversionRules.Rule

/-!
Binary forms of values, expressions and rules. A constructor is written by its
number and followed by its parameters in order.
-/
namespace ConversionRules.Codec

def encodeValueType : ValueType → List UInt8
  | .bool => encodeNat 0
  | .int => encodeNat 1
  | .float => encodeNat 2
  | .char => encodeNat 3
  | .string => encodeNat 4
  | .list => encodeNat 5
  | .type => encodeNat 6
  | .enum name => encodeNat 7 ++ encodeString name

def decodeValueType : Decoder ValueType := do
  match ← decodeTag with
  | 0 => return .bool
  | 1 => return .int
  | 2 => return .float
  | 3 => return .char
  | 4 => return .string
  | 5 => return .list
  | 6 => return .type
  | 7 => return .enum (← decodeString)
  | _ => failure

def encodeEnumValue (e : EnumValue) : List UInt8 :=
  encodeString e.typeName ++ encodeOption encodeString e.memberName ++ encodeInt64 e.ordinal

def decodeEnumValue : Decoder EnumValue := do
  let typeName ← decodeString
  let memberName ← decodeOption decodeString
  let ordinal ← decodeInt64
  return { typeName, memberName, ordinal }

mutual

def encodeValue : Value → List UInt8
  | .null => encodeNat 0
  | .bool b => encodeNat 1 ++ encodeBool b
  | .int n => encodeNat 2 ++ encodeInt64 n
  | .float x => encodeNat 3 ++ encodeBinary64 x
  | .char c => encodeNat 4 ++ encodeChar c
  | .string s => encodeNat 5 ++ encodeString s
  | .list items => encodeNat 6 ++ (encodeNat items.length ++ encodeItems items)
  | .enum e => encodeNat 7 ++ encodeEnumValue e
  | .type t => encodeNat 8 ++ encodeValueType t

def encodeItems : List Value → List UInt8
  | [] => []
  | v :: rest => encodeValue v ++ encodeItems rest

end

/-- A value whose lists are nested less than `depth` deep. -/
def decodeValueWithin : Nat → Decoder Value
  | 0 => failure
  | depth + 1 => do
    match ← decodeTag with
    | 0 => return .null
    | 1 => return .bool (← decodeBool)
    | 2 => return .int (← decodeInt64)
    | 3 => return .float (← decodeBinary64)
    | 4 => return .char (← decodeChar)
    | 5 => return .string (← decodeString)
    | 6 => return .list (← decodeList (decodeValueWithin depth))
    | 7 => return .enum (← decodeEnumValue)
    | 8 => return .type (← decodeValueType)
    | _ => failure

/-- Every list takes a byte, so that no value is nested deeper than there are bytes. -/
def decodeValue : Decoder Value := fun bs => decodeValueWithin bs.length bs

def encodeEnumType (e : EnumType) : List UInt8 :=
  encodeString e.name ++
    encodeList (fun m : String × Int64 => encodeString m.1 ++ encodeInt64 m.2) e.members ++
    encodeBool e.flags

def decodeMember : Decoder (String × Int64) := do
  let name ← decodeString
  let value ← decodeInt64
  return (name, value)

def decodeEnumType : Decoder EnumType := do
  let name ← decodeString
  let members ← decodeList decodeMember
  let flags ← decodeBool
  return { name, members, flags }

def encodeNumber : Option Binary64 → List UInt8 := encodeOption encodeBinary64

def decodeNumber : Decoder (Option Binary64) := decodeOption decodeBinary64

def encodeText : Option String → List UInt8 := encodeOption encodeString

def decodeText : Decoder (Option String) := decodeOption decodeString

def encodeIndex : Option UInt64 → List UInt8 := encodeOption encodeUInt64

def decodeIndex : Decoder (Option UInt64) := decodeOption decodeUInt64

def encodeArithmetic (a : Arithmetic) : List UInt8 :=
  encodeNumber a.multiply ++ encodeNumber a.divide ++ encodeNumber a.modulo ++
    encodeNumber a.add ++ encodeNumber a.subtract

def decodeArithmetic : Decoder Arithmetic := do
  let multiply ← decodeNumber
  let divide ← decodeNumber
  let modulo ← decodeNumber
  let add ← decodeNumber
  let subtract ← decodeNumber
  return { multiply, divide, modulo, add, subtract }

def encodeBounds (b : Bounds) : List UInt8 :=
  encodeNumber b.equalTo ++ encodeNumber b.notEqualTo ++ encodeNumber b.greaterThan ++
    encodeNumber b.atLeast ++ encodeNumber b.lessThan ++ encodeNumber b.atMost

def decodeBounds : Decoder Bounds := do
  let equalTo ← decodeNumber
  let notEqualTo ← decodeNumber
  let greaterThan ← decodeNumber
  let atLeast ← decodeNumber
  let lessThan ← decodeNumber
  let atMost ← decodeNumber
  return { equalTo, notEqualTo, greaterThan, atLeast, lessThan, atMost }

def encodeLookup (l : Lookup) : List UInt8 :=
  encodeIndex l.index ++ encodeConstant LookupOperation.all l.operation

def decodeLookup : Decoder Lookup := do
  let index ← decodeIndex
  let operation ← decodeConstant LookupOperation.all
  return { index, operation }

def encodeEnumeration (e : Enumeration) : List UInt8 :=
  encodeOption encodeEnumType e.definition ++ encodeOption encodeValueType e.enumType ++
    encodeText e.typeName ++ encodeOption encodeValue e.value

def decodeEnumeration : Decoder Enumeration := do
  let definition ← decodeOption decodeEnumType
  let enumType ← decodeOption decodeValueType
  let typeName ← decodeText
  let value ← decodeOption decodeValue
  return { definition, enumType, typeName, value }

def encodeRange (r : RandomRange) : List UInt8 :=
  encodeOption encodeInt64 r.lower ++ encodeOption encodeInt64 r.upper

def decodeRange : Decoder RandomRange := do
  let lower ← decodeOption decodeInt64
  let upper ← decodeOption decodeInt64
  return { lower, upper }

def encodeCheck (c : TextCheck) : List UInt8 :=
  encodeOption (encodeConstant CheckOperation.all) c.operation ++ encodeText c.startsWith ++
    encodeText c.endsWith ++ encodeText c.contains

def decodeCheck : Decoder TextCheck := do
  let operation ← decodeOption (decodeConstant CheckOperation.all)
  let startsWith ← decodeText
  let endsWith ← decodeText
  let contains ← decodeText
  return { operation, startsWith, endsWith, contains }

def encodeTransform (t : TextTransform) : List UInt8 :=
  encodeOption (encodeConstant TrimMode.all) t.trim ++ encodeIndex t.substringStart ++
    encodeIndex t.substringEnd ++ encodeText t.insertText ++ encodeIndex t.insertIndex ++
    encodeOption (encodeConstant CaseMode.all) t.toLower ++
    encodeOption (encodeConstant CaseMode.all) t.toUpper ++ encodeText t.splitBy

def decodeTransform : Decoder TextTransform := do
  let trim ← decodeOption (decodeConstant TrimMode.all)
  let substringStart ← decodeIndex
  let substringEnd ← decodeIndex
  let insertText ← decodeText
  let insertIndex ← decodeIndex
  let toLower ← decodeOption (decodeConstant CaseMode.all)
  let toUpper ← decodeOption (decodeConstant CaseMode.all)
  let splitBy ← decodeText
  return { trim, substringStart, substringEnd, insertText, insertIndex, toLower, toUpper, splitBy }

def encodeQuery (q : TypeQuery) : List UInt8 :=
  encodeOption encodeValueType q.type ++ encodeText q.name

def decodeQuery : Decoder TypeQuery := do
  let type ← decodeOption decodeValueType
  let name ← decodeText
  return { type, name }

def encodeExpression : Expression → List UInt8
  | .arithmetic a => encodeNat 0 ++ encodeArithmetic a
  | .compare b => encodeNat 1 ++ encodeBounds b
  | .count b => encodeNat 2 ++ encodeBounds b
  | .lookup l => encodeNat 3 ++ encodeLookup l
  | .double x => encodeNat 4 ++ encodeNumber x
  | .enum e => encodeNat 5 ++ encodeEnumeration e
  | .negate => encodeNat 6
  | .percentage x => encodeNat 7 ++ encodeNumber x
  | .random r => encodeNat 8 ++ encodeRange r
  | .check c => encodeNat 9 ++ encodeCheck c
  | .format t => encodeNat 10 ++ encodeText t
  | .transform t => encodeNat 11 ++ encodeTransform t
  | .typeOf q => encodeNat 12 ++ encodeQuery q

def decodeExpression : Decoder Expression := do
  match ← decodeTag with
  | 0 => return .arithmetic (← decodeArithmetic)
  | 1 => return .compare (← decodeBounds)
  | 2 => return .count (← decodeBounds)
  | 3 => return .lookup (← decodeLookup)
  | 4 => return .double (← decodeNumber)
  | 5 => return .enum (← decodeEnumeration)
  | 6 => return .negate
  | 7 => return .percentage (← decodeNumber)
  | 8 => return .random (← decodeRange)
  | 9 => return .check (← decodeCheck)
  | 10 => return .format (← decodeText)
  | 11 => return .transform (← decodeTransform)
  | 12 => return .typeOf (← decodeQuery)
  | _ => failure

def encodeCondition : Condition → List UInt8
  | .literal v => encodeNat 0 ++ encodeValue v
  | .type t => encodeNat 1 ++ encodeValueType t
  | .expression e => encodeNat 2 ++ encodeExpression e

def decodeCondition : Decoder Condition := do
  match ← decodeTag with
  | 0 => return .literal (← decodeValue)
  | 1 => return .type (← decodeValueType)
  | 2 => return .expression (← decodeExpression)
  | _ => failure

def encodeOutput : Output → List UInt8
  | .literal v => encodeNat 0 ++ encodeValue v
  | .expression e => encodeNat 1 ++ encodeExpression e

def decodeOutput : Decoder Output := do
  match ← decodeTag with
  | 0 => return .literal (← decodeValue)
  | 1 => return .expression (← decodeExpression)
  | _ => failure

def encodeRule (r : Rule) : List UInt8 :=
  encodeText r.name ++ encodeOption encodeCondition r.condition ++
    encodeList encodeCondition r.conditions ++ encodeOption encodeOutput r.output ++
    encodeList encodeOutput r.outputs

def decodeRule : Decoder Rule := do
  let name ← decodeText
  let condition ← decodeOption decodeCondition
  let conditions ← decodeList decodeCondition
  let output ← decodeOption decodeOutput
  let outputs ← decodeList decodeOutput
  return { name, condition, conditions, output, outputs }

end ConversionRules.Codec
