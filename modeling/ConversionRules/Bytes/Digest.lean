import ConversionRules.Bytes.LittleEndian
import ConversionRules.Bytes.Lanes

/-!
The BLAKE3 digest of a sequence of bytes. The bytes are cut into chunks of
1024, the chunks are the leaves of a binary tree whose left subtrees are
complete, and the digest is the output of the root.
-/
namespace ConversionRules.Digest

abbrev Message := Vector UInt32 16

/-- The starting words, which are also those of SHA-256. -/
def start : Lanes × Lanes :=
  (⟨0x6A09E667, 0xBB67AE85, 0x3C6EF372, 0xA54FF53A⟩,
    ⟨0x510E527F, 0x9B05688C, 0x1F83D9AB, 0x5BE0CD19⟩)

def chunkStart : UInt32 := 1
def chunkEnd : UInt32 := 2
def parent : UInt32 := 4
def root : UInt32 := 8

def permutation : Vector (Fin 16) 16 := #v[2, 6, 3, 10, 7, 0, 4, 13, 1, 11, 12, 5, 9, 14, 15, 8]

def permute (m : Message) : Message := permutation.map fun i => m[i]

def round (m : Message) (g : Grid) : Grid :=
  let columns := (g.mixHalf ⟨m[0], m[2], m[4], m[6]⟩ 16 12).mixHalf ⟨m[1], m[3], m[5], m[7]⟩ 8 7
  let diagonals := (columns.slant.mixHalf ⟨m[8], m[10], m[12], m[14]⟩ 16 12).mixHalf
    ⟨m[9], m[11], m[13], m[15]⟩ 8 7
  diagonals.unslant

def rounds : Nat → Message → Grid → Grid
  | 0, _, g => g
  | n + 1, m, g => rounds n (permute m) (round m g)

/-- One block of a node: what it is mixed with and what it is mixed into. -/
structure Node where
  chain : Lanes × Lanes
  message : Message
  counter : Nat
  size : Nat
  flags : UInt32

/-- The first half of the output of a node. -/
def Node.output (n : Node) (more : UInt32) : Lanes × Lanes :=
  let g := rounds 7 n.message
    ⟨n.chain.1, n.chain.2, start.1,
      ⟨UInt32.ofNat n.counter, UInt32.ofNat (n.counter / UInt32.size), UInt32.ofNat n.size,
        n.flags ||| more⟩⟩
  (g.a.xor g.c, g.b.xor g.d)

/-- The words of a block of at most 64 bytes, zeros filling it up. -/
def message (block : List UInt8) : Message :=
  Vector.ofFn fun i => UInt32.ofNat (Bytes.toNat ((block.drop (4 * i.val)).take 4))

/-- The node of a chunk, which mixes its blocks one after the other. -/
def chunkNode (counter : Nat) (chain : Lanes × Lanes) (flags : UInt32) (bytes : List UInt8) :
    Node :=
  if bytes.length ≤ 64 then
    ⟨chain, message bytes, counter, bytes.length, flags ||| chunkEnd⟩
  else
    let block : Node := ⟨chain, message (bytes.take 64), counter, 64, flags⟩
    chunkNode counter (block.output 0) 0 (bytes.drop 64)
  termination_by bytes.length
  decreasing_by simp; omega

def parentNode (left right : Lanes × Lanes) : Node :=
  let words := left.1.toList ++ left.2.toList ++ right.1.toList ++ right.2.toList
  ⟨start, Vector.ofFn fun i => words.getD i.val 0, 0, 64, parent⟩

/-- The length of the left subtree: the largest power of two chunks that is
shorter than the whole. -/
def leftLength (length : Nat) : Nat := 1024 * Nat.pow 2 (Nat.log2 ((length - 1) / 1024))

theorem leftLength_pos (length : Nat) : 0 < leftLength length :=
  Nat.mul_pos (by decide) (Nat.two_pow_pos _)

theorem leftLength_lt {length : Nat} (h : 1024 < length) : leftLength length < length := by
  have hpos : (length - 1) / 1024 ≠ 0 := by omega
  have hle : Nat.pow 2 (Nat.log2 ((length - 1) / 1024)) ≤ (length - 1) / 1024 :=
    Nat.log2_self_le hpos
  unfold leftLength
  omega

def treeNode (counter : Nat) (bytes : List UInt8) : Node :=
  if h : bytes.length ≤ 1024 then chunkNode counter start chunkStart bytes
  else
    let n := leftLength bytes.length
    parentNode ((treeNode counter (bytes.take n)).output 0)
      ((treeNode (counter + n / 1024) (bytes.drop n)).output 0)
  termination_by bytes.length
  decreasing_by
    · have := leftLength_lt (Nat.lt_of_not_le h)
      simp only [List.length_take]
      omega
    · have := leftLength_pos bytes.length
      simp only [List.length_drop]
      omega

/-- The 32 bytes of the digest. -/
def digest (bytes : List UInt8) : List UInt8 :=
  let (low, high) := (treeNode 0 bytes).output root
  (low.toList ++ high.toList).flatMap fun w => Bytes.ofNat 4 w.toNat

end ConversionRules.Digest
