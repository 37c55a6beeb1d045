import Reencode.Picture.Basic

/-!
# Samples in PNG files

A PNG file says how it stores samples by a kind and a depth: the bits of a channel. Of the possible
pairs only some are known. Rows are stored one after the other, each starting a new byte; in an
interlaced file they are the rows of seven smaller pictures, which between them hold every sample
once.
-/
namespace Reencode.Png

/-- What the channels of a sample are. -/
inductive Kind where
  | grey
  | rgb
  | indexed
  | greyAlpha
  | rgba
deriving DecidableEq

namespace Kind

/-- The number of a kind in files. -/
def code : Kind → Nat
  | grey => 0
  | rgb => 2
  | indexed => 3
  | greyAlpha => 4
  | rgba => 6

/-- The kind of a number. -/
def ofCode? (n : Nat) : Option Kind := [grey, rgb, indexed, greyAlpha, rgba].find? (·.code = n)

/-- How many channels a sample has. -/
def channels : Kind → Nat
  | grey | indexed => 1
  | greyAlpha => 2
  | rgb => 3
  | rgba => 4

/-- The depths a kind may have. -/
def depths : Kind → List Nat
  | grey => [1, 2, 4, 8, 16]
  | indexed => [1, 2, 4, 8]
  | _ => [8, 16]

end Kind

/-- How samples are stored. -/
structure Layout where
  kind : Kind
  depth : Nat
deriving DecidableEq

namespace Layout

/-- The layout of two numbers, if it is known. -/
def ofCodes? (depth kind : Nat) : Option Layout :=
  (Kind.ofCode? kind).bind fun k => if depth ∈ k.depths then some ⟨k, depth⟩ else none

/-- The bits of a sample. -/
def sampleBits (l : Layout) : Nat := l.kind.channels * l.depth

/-- The bytes of a row. -/
def rowBytes (l : Layout) (width : Nat) : Nat := (l.sampleBits * width + 7) / 8

/-- How far back the byte stands that belongs to the same channel of the sample before. -/
def stride (l : Layout) : Nat := (l.sampleBits + 7) / 8

/-- The mode of pictures with the layout. -/
def mode (l : Layout) : Mode :=
  match l.kind, l.depth with
  | .grey, 1 => .bilevel
  | .grey, 16 => .word
  | .grey, _ => .grey
  | .rgb, _ => .rgb
  | .indexed, _ => .indexed
  | .greyAlpha, 16 => .rgba
  | .greyAlpha, _ => .greyAlpha
  | .rgba, _ => .rgba

end Layout

/-! ## Interlacing -/

/-- Every so many columns and rows of a picture, from a first one on. -/
structure Grid where
  left : Nat
  top : Nat
  across : Nat
  down : Nat
deriving DecidableEq

namespace Grid

/-- All samples. -/
def all : List Grid := [⟨0, 0, 1, 1⟩]

/-- The seven parts of an interlaced picture. -/
def interlaced : List Grid := [⟨0, 0, 8, 8⟩, ⟨4, 0, 8, 8⟩, ⟨0, 4, 4, 8⟩, ⟨2, 0, 4, 4⟩, ⟨0, 2, 2, 4⟩,
  ⟨1, 0, 2, 2⟩, ⟨0, 1, 1, 2⟩]

/-- How many samples from a first one fit. -/
def fit (first step size : Nat) : Nat := (size + step - 1 - first) / step

/-- The columns of the grid in a picture. -/
def columns (g : Grid) (width : Nat) : Nat := fit g.left g.across width

/-- The rows of the grid in a picture. -/
def rows (g : Grid) (height : Nat) : Nat := fit g.top g.down height

/-- Whether a sample is of the grid. -/
def holds (g : Grid) (x y : Nat) : Bool :=
  g.left ≤ x && g.top ≤ y && (x - g.left) % g.across = 0 && (y - g.top) % g.down = 0

end Grid
end Reencode.Png
