/-!
Four words of 32 bits that are worked on side by side, and the mixing of a
state of four such rows: first down the columns, then down the diagonals,
which are columns once the rows are turned.
-/
namespace ConversionRules

structure Lanes where
  w0 : UInt32
  w1 : UInt32
  w2 : UInt32
  w3 : UInt32
  deriving DecidableEq, Inhabited

namespace Lanes

def map (f : UInt32 → UInt32) (x : Lanes) : Lanes := ⟨f x.w0, f x.w1, f x.w2, f x.w3⟩

def map₂ (f : UInt32 → UInt32 → UInt32) (x y : Lanes) : Lanes :=
  ⟨f x.w0 y.w0, f x.w1 y.w1, f x.w2 y.w2, f x.w3 y.w3⟩

def add (x y : Lanes) : Lanes := map₂ (· + ·) x y

def xor (x y : Lanes) : Lanes := map₂ (· ^^^ ·) x y

/-- Turns every word right by `k` bits, where 0 < k < 32. -/
def rotate (k : UInt32) (x : Lanes) : Lanes :=
  x.map fun w => (w >>> k) ||| (w <<< (32 - k))

/-- Moves every word one lane down, the first one to the end. -/
def turn (x : Lanes) : Lanes := ⟨x.w1, x.w2, x.w3, x.w0⟩

def toList (x : Lanes) : List UInt32 := [x.w0, x.w1, x.w2, x.w3]

end Lanes

/-- Sixteen words in four rows. -/
structure Grid where
  a : Lanes
  b : Lanes
  c : Lanes
  d : Lanes
  deriving DecidableEq, Inhabited

namespace Grid

def map₂ (f : UInt32 → UInt32 → UInt32) (x y : Grid) : Grid :=
  ⟨Lanes.map₂ f x.a y.a, Lanes.map₂ f x.b y.b, Lanes.map₂ f x.c y.c, Lanes.map₂ f x.d y.d⟩

def toList (g : Grid) : List UInt32 := g.a.toList ++ g.b.toList ++ g.c.toList ++ g.d.toList

/-- Half of the mixing of the columns: an input is added to the first row, and
the words are turned by the two given distances. -/
def mixHalf (input : Lanes) (j k : UInt32) (g : Grid) : Grid :=
  let a := (g.a.add g.b).add input
  let d := (g.d.xor a).rotate j
  let c := g.c.add d
  let b := (g.b.xor c).rotate k
  ⟨a, b, c, d⟩

/-- Brings the diagonals into columns. -/
def slant (g : Grid) : Grid := ⟨g.a, g.b.turn, g.c.turn.turn, g.d.turn.turn.turn⟩

def unslant (g : Grid) : Grid := ⟨g.a, g.b.turn.turn.turn, g.c.turn.turn, g.d.turn⟩

end Grid

end ConversionRules
