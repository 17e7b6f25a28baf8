import ConversionRules.Bytes.Digest
import ConversionRules.Cache.Codec
import ConversionRules.Converter

/-!
The binary form of a converter: a header of 32 bytes and a payload. The header
holds a mark, two version numbers, flags, the length of the payload and the
first half of its digest. The payload holds the number of rules, the digest of
the source text, if one is given, and the rules.
-/
namespace ConversionRules.Cache

open Codec

def headerSize : Nat := 32

def mark : List UInt8 := [0x55, 0x43, 0x4E, 0x56]

def formatVersion : Nat := 1

/-- The version of the engine, which is recorded but not checked. -/
def engineVersion : Nat := 1

structure Payload where
  ruleCount : Nat
  sourceDigest : Option (List UInt8)
  rules : List Rule

def encodePayload (p : Payload) : List UInt8 :=
  encodeNat p.ruleCount ++ encodeOption id p.sourceDigest ++ encodeList encodeRule p.rules

/-- Bytes after the payload's own are not looked at. -/
def decodePayload : Decoder Payload := do
  let ruleCount ← decodeSize
  let sourceDigest ← decodeOption (bytes 32)
  let rules ← decodeList decodeRule
  return { ruleCount, sourceDigest, rules }

inductive CacheError where
  | badMark
  | incompatibleVersion (found : Nat)
  | checksumMismatch
  | lengthMismatch (expected actual : Nat)
  | malformed
  | ruleCountMismatch (declared found : Nat)
  | invalidRules (e : DefinitionError)
  deriving DecidableEq

def CacheError.message : CacheError → String
  | .badMark => "not a uniconv binary: invalid magic bytes"
  | .incompatibleVersion found =>
    "incompatible format version: blob is v" ++ toString found ++ ", engine supports v" ++
      toString formatVersion
  | .checksumMismatch => "integrity check failed: BLAKE3 checksum mismatch"
  | .lengthMismatch expected actual =>
    "payload length mismatch: expected " ++ toString expected ++ " bytes, got " ++ toString actual
  | .malformed => "failed to decode payload"
  | .ruleCountMismatch declared found =>
    "validation failed: metadata says " ++ toString declared ++ " rules but payload has " ++
      toString found
  | .invalidRules e => "validation failed: " ++ e.message

/-- The first half of the digest of a payload. -/
def checksum (payload : List UInt8) : List UInt8 := (Digest.digest payload).take 16

def header (payload : List UInt8) : List UInt8 :=
  mark ++ Bytes.ofNat 2 formatVersion ++ Bytes.ofNat 2 engineVersion ++ Bytes.ofNat 4 0 ++
    Bytes.ofNat 4 payload.length ++ checksum payload

def sourceDigest (source : String) : List UInt8 := Digest.digest source.toUTF8.data.toList

/-- The bytes of a converter, if the length of its payload fits the header. -/
def encode? (c : Converter) (source : Option String) : Option (List UInt8) :=
  let payload := encodePayload ⟨c.size, source.map sourceDigest, c.rules⟩
  if payload.length < UInt32.size then some (header payload ++ payload) else none

/-- The number in the bytes from an offset on. -/
def field (bs : List UInt8) (offset size : Nat) : Nat := Bytes.toNat ((bs.drop offset).take size)

/-- The payload of a file whose header is in order. -/
def checkedPayload (bs : List UInt8) : Except CacheError (List UInt8) :=
  let payload := bs.drop headerSize
  let declared := field bs 12 4
  if bs.length < headerSize then .error (.lengthMismatch headerSize bs.length)
  else if bs.take 4 != mark then .error .badMark
  else if field bs 4 2 != formatVersion then .error (.incompatibleVersion (field bs 4 2))
  else if payload.length != declared then .error (.lengthMismatch declared payload.length)
  else if checksum payload != (bs.drop 16).take 16 then .error .checksumMismatch
  else .ok payload

def readPayload (bs : List UInt8) : Except CacheError Payload :=
  match checkedPayload bs with
  | .error e => .error e
  | .ok payload =>
    match decodePayload payload with
    | some (p, _) => .ok p
    | none => .error .malformed

/-- Reads a converter and checks its rules. -/
def decode (bs : List UInt8) : Except CacheError Converter :=
  match readPayload bs with
  | .error e => .error e
  | .ok p =>
    if p.ruleCount != p.rules.length then .error (.ruleCountMismatch p.ruleCount p.rules.length)
    else
      match Converter.ofRules p.rules with
      | .ok c => .ok c
      | .error e => .error (.invalidRules e)

/-- What a file says about itself, its rules left unchecked. -/
structure Info where
  formatVersion : Nat
  engineVersion : Nat
  ruleCount : Nat
  sourceDigest : Option (List UInt8)
  deriving DecidableEq

def inspect (bs : List UInt8) : Except CacheError Info :=
  match readPayload bs with
  | .error e => .error e
  | .ok p => .ok ⟨field bs 4 2, field bs 6 2, p.ruleCount, p.sourceDigest⟩

/-- Whether the file was made from a source text. -/
def Info.matchesSource (i : Info) (source : String) : Bool :=
  i.sourceDigest == some (Cache.sourceDigest source)

end ConversionRules.Cache
