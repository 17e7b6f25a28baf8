/-!
Whole numbers as bytes, the least significant byte first.
-/
namespace ConversionRules.Bytes

/-- The lowest `count` bytes of a number. -/
def ofNat : Nat → Nat → List UInt8
  | 0, _ => []
  | count + 1, n => UInt8.ofNat n :: ofNat count (n / 256)

def toNat (bytes : List UInt8) : Nat :=
  bytes.foldr (fun b n => b.toNat + 256 * n) 0

end ConversionRules.Bytes
