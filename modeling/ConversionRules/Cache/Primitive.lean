import ConversionRules.Bytes.LittleEndian
import ConversionRules.Number.Binary64

/-!
Binary forms of numbers, texts and sequences. A small whole number is one
byte; a larger one follows a mark that tells its width, and a width larger than
needed is accepted. A decoder returns the bytes after what it decoded.
-/
namespace ConversionRules.Codec

abbrev Decoder (α : Type) := StateT (List UInt8) Option α

variable {α : Type}

def byte : Decoder UInt8 := fun
  | [] => none
  | b :: rest => some (b, rest)

def bytes (n : Nat) : Decoder (List UInt8) := fun bs =>
  if n ≤ bs.length then some (bs.take n, bs.drop n) else none

def encodeNat (n : Nat) : List UInt8 :=
  if n < 251 then [UInt8.ofNat n]
  else if n < UInt16.size then 251 :: Bytes.ofNat 2 n
  else if n < UInt32.size then 252 :: Bytes.ofNat 4 n
  else 253 :: Bytes.ofNat 8 n

/-- A whole number of at most `width` bytes after its mark. -/
def decodeNat (width : Nat) : Decoder Nat := do
  let b ← byte
  let size := if b = 251 then 2 else if b = 252 then 4 else if b = 253 then 8 else 16
  if b < 251 then return b.toNat
  else if size ≤ width then return Bytes.toNat (← bytes size)
  else failure

/-- The number of a constructor. -/
def decodeTag : Decoder Nat := decodeNat 4

def decodeSize : Decoder Nat := decodeNat 8

/-- Folds the signed numbers into the unsigned ones, the sign into the lowest bit. -/
def fold (n : Int) : Nat := if n < 0 then (-2 * n - 1).toNat else (2 * n).toNat

def unfold (n : Nat) : Int := if n % 2 = 0 then (n / 2 : Int) else -(n / 2 : Int) - 1

def encodeInt64 (n : Int64) : List UInt8 := encodeNat (fold n.toInt)

def decodeInt64 : Decoder Int64 := do
  return Int64.ofInt (unfold (← decodeSize))

def encodeUInt64 (n : UInt64) : List UInt8 := encodeNat n.toNat

def decodeUInt64 : Decoder UInt64 := do
  return UInt64.ofNat (← decodeSize)

def encodeBinary64 (x : Binary64) : List UInt8 := Bytes.ofNat 8 x.bits.toNat

def decodeBinary64 : Decoder Binary64 := do
  return ⟨UInt64.ofNat (Bytes.toNat (← bytes 8))⟩

def encodeBool (b : Bool) : List UInt8 := [if b then 1 else 0]

def decodeBool : Decoder Bool := do
  let b ← byte
  if b = 0 then return false
  else if b = 1 then return true
  else failure

def encodeString (s : String) : List UInt8 :=
  let content := s.toUTF8.data.toList
  encodeNat content.length ++ content

/-- The text that bytes are the UTF-8 form of. -/
def stringOfBytes? (bs : List UInt8) : Option String := String.fromUTF8? ⟨bs.toArray⟩

def decodeString : Decoder String := do
  let content ← bytes (← decodeSize)
  match stringOfBytes? content with
  | some s => return s
  | none => failure

def encodeChar (c : Char) : List UInt8 := String.utf8EncodeChar c

/-- How many bytes the UTF-8 form of a character takes, by its first byte. -/
def charWidth? (b : UInt8) : Option Nat :=
  if b < 0x80 then some 1
  else if 0xC2 ≤ b && b ≤ 0xDF then some 2
  else if 0xE0 ≤ b && b ≤ 0xEF then some 3
  else if 0xF0 ≤ b && b ≤ 0xF4 then some 4
  else none

def decodeChar : Decoder Char := do
  let first ← byte
  match charWidth? first with
  | none => failure
  | some width =>
    let more ← bytes (width - 1)
    match (stringOfBytes? (first :: more)).map String.toList with
    | some [c] => return c
    | _ => failure

def encodeOption (f : α → List UInt8) : Option α → List UInt8
  | none => [0]
  | some a => 1 :: f a

def decodeOption (d : Decoder α) : Decoder (Option α) := do
  if ← decodeBool then return some (← d)
  else return none

/-- A sequence is preceded by its length. -/
def encodeList (f : α → List UInt8) (as : List α) : List UInt8 :=
  encodeNat as.length ++ as.flatMap f

def decodeMany (d : Decoder α) : Nat → Decoder (List α)
  | 0 => return []
  | n + 1 => do
    let a ← d
    let as ← decodeMany d n
    return a :: as

def decodeList (d : Decoder α) : Decoder (List α) := do
  decodeMany d (← decodeSize)

/-- One of a list of constants, by its place in the list. -/
def encodeConstant [BEq α] (constants : List α) (a : α) : List UInt8 :=
  encodeNat (constants.idxOf a)

def decodeConstant (constants : List α) : Decoder α := do
  match constants[← decodeTag]? with
  | some a => return a
  | none => failure

end ConversionRules.Codec
