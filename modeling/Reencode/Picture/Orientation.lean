import Reencode.Picture.Basic

/-!
# Orientation

A camera stores its samples as they come and notes how the picture is to be held. The note is a
number from 1 to 8: 1 is upright, and the others say which corner of the stored raster is the upper
left one of the picture. The numbers from 5 on exchange width and height.
-/
namespace Reencode

/-- How a stored raster is to be held. -/
inductive Orientation where
  | reversed
  | halfTurn
  | flipped
  | transposed
  | clockwise
  | transverse
  | anticlockwise
deriving DecidableEq

namespace Orientation

/-- The orientation of a number; upright and what is no orientation give none. -/
def ofNumber? : Int → Option Orientation
  | 2 => some reversed
  | 3 => some halfTurn
  | 4 => some flipped
  | 5 => some transposed
  | 6 => some clockwise
  | 7 => some transverse
  | 8 => some anticlockwise
  | _ => none

/-- The upright raster of a stored one. -/
def upright {α : Type} [Inhabited α] (o : Orientation) (r : Raster α) : Raster α :=
  match o with
  | reversed => r.reversed
  | halfTurn => r.reversed.flipped
  | flipped => r.flipped
  | transposed => r.transposed
  | clockwise => r.flipped.transposed
  | transverse => r.reversed.flipped.transposed
  | anticlockwise => r.reversed.transposed

end Orientation

/-- The picture held upright. -/
def Picture.upright (p : Picture) (o : Option Orientation) : Picture :=
  match o with
  | none => p
  | some o => { p with canvas := p.canvas.rearrange fun r => o.upright r }

end Reencode
