import ConversionRules.Bytes.Lanes

/-!
The generator behind random draws: the keystream of ChaCha with twelve rounds,
read as words of 64 bits. The state is the key and the number of words drawn.
A bounded draw widens a word by the size of the range and takes the upper half
of the product; products whose lower half lies past the zone are passed over,
so that every number of the range is equally likely.
-/
namespace ConversionRules

structure Generator where
  key : Lanes × Lanes
  position : Nat
  deriving DecidableEq, Inhabited

namespace Generator

/-- The next state of the sequence that a seed is stretched by. -/
def stretch (s : UInt64) : UInt64 := s * 6364136223846793005 + 11634580027462260723

/-- The word a state of that sequence gives: a part of it, turned by its top bits. -/
def keyWord (s : UInt64) : UInt32 :=
  let x := (((s >>> 18) ^^^ s) >>> 27).toUInt32
  let k := (s >>> 59).toUInt32
  (x >>> k) ||| (x <<< ((32 - k) % 32))

/-- Four words of a key, and the state after them. -/
def keyLanes (s : UInt64) : Lanes × UInt64 :=
  let s₀ := stretch s
  let s₁ := stretch s₀
  let s₂ := stretch s₁
  let s₃ := stretch s₂
  (⟨keyWord s₀, keyWord s₁, keyWord s₂, keyWord s₃⟩, s₃)

def ofSeed (seed : UInt64) : Generator :=
  let (low, s) := keyLanes seed
  ⟨(low, (keyLanes s).1), 0⟩

def zeroLanes : Lanes := ⟨0, 0, 0, 0⟩

/-- Mixes the columns twice and the diagonals twice; turning left by k bits is
turning right by 32 - k. -/
def doubleRound (g : Grid) : Grid :=
  let columns := (g.mixHalf zeroLanes 16 20).mixHalf zeroLanes 24 25
  ((columns.slant.mixHalf zeroLanes 16 20).mixHalf zeroLanes 24 25).unslant

/-- The sixteen words of the block at a counter of 64 bits. -/
def block (key : Lanes × Lanes) (counter : Nat) : List UInt32 :=
  let g : Grid := ⟨⟨0x61707865, 0x3320646e, 0x79622d32, 0x6b206574⟩, key.1, key.2,
    ⟨UInt32.ofNat counter, UInt32.ofNat (counter / UInt32.size), 0, 0⟩⟩
  (Grid.map₂ (· + ·) (Nat.repeat doubleRound 6 g) g).toList

/-- The next word of 64 bits, its lower half first in the stream. -/
def next (g : Generator) : UInt64 × Generator :=
  let words := block g.key (g.position / 8)
  let i := 2 * (g.position % 8)
  ((words.getD i 0).toUInt64 ||| ((words.getD (i + 1) 0).toUInt64 <<< 32),
    { g with position := g.position + 1 })

/-- The largest lower half of a product that is accepted: one less than the
range moved up to the top bit. -/
def zone (range : Nat) : Nat := range * Nat.pow 2 (63 - Nat.log2 range) - 1

/-- The upper half of the first accepted product, among so many attempts. -/
def attempt (range : Nat) : Nat → Generator → Nat × Generator
  | 0, g => (0, g)
  | n + 1, g =>
    let (word, g') := g.next
    let product := word.toNat * range
    if product % UInt64.size ≤ zone range then (product / UInt64.size, g')
    else attempt range n g'

/-- After so many words of 64 bits the stream repeats, so that what is not
accepted by then never is. -/
def period : Nat := Nat.pow 2 67

/-- A whole number from `lower` to `upper`, both included. -/
def draw (lower upper : Int64) (g : Generator) : Int64 × Generator :=
  let range := (upper.toInt - lower.toInt + 1).toNat
  if range = UInt64.size then
    let (word, g') := g.next
    (word.toInt64, g')
  else
    let (offset, g') := attempt range period g
    (Int64.ofInt (lower.toInt + offset), g')

end Generator

end ConversionRules
