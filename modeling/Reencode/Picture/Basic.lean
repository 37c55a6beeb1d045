import Reencode.Failure
import Reencode.Picture.Colour
import Reencode.Picture.Raster

/-!
# Pictures

A picture is a canvas, that is a raster of one of the known kinds of samples, and possibly an entry
that says what is transparent: an index, a table of opacities, or a colour. The entry stands beside
the canvas because files keep it there; whether it has an effect is up to whoever converts the
picture.
-/
namespace Reencode

/-- The colours of a palette, three bytes each. Colours that a palette does not have are black. -/
structure Palette where
  bytes : ByteArray

namespace Palette

/-- The palette of bytes; a colour that is cut short is left out. -/
def ofBytes (b : ByteArray) : Palette := ⟨b.extract 0 (b.size / 3 * 3)⟩

/-- The palette without colours. -/
def empty : Palette := ⟨ByteArray.empty⟩

instance : Inhabited Palette := ⟨empty⟩

/-- One byte, zero beyond the end. -/
def byte (p : Palette) (i : Nat) : UInt8 := if h : i < p.bytes.size then p.bytes[i] else 0

/-- The colour of an index. -/
def colour (p : Palette) (index : UInt8) : Rgb :=
  ⟨p.byte (3 * index.toNat), p.byte (3 * index.toNat + 1), p.byte (3 * index.toNat + 2)⟩

/-- The number of whole colours. -/
def size (p : Palette) : Nat := p.bytes.size / 3

end Palette

/-- The spaces of three channels besides red, green and blue: luminance with two colour differences,
hue with saturation and value, lightness with two opponent colours. -/
inductive Space where
  | luminance
  | hue
  | lightness
deriving DecidableEq

/-- The kind of a canvas. The fourth byte of a padded one means nothing; the colours of a
premultiplied one are multiplied by the opacity. -/
inductive Mode where
  | bilevel
  | grey
  | greyAlpha
  | indexed
  | indexedAlpha
  | rgb
  | rgba
  | padded
  | premultiplied
  | cmyk
  | space (s : Space)
  | integer
  | word
  | real
deriving DecidableEq

namespace Mode

/-- Every mode. -/
def all : List Mode := [bilevel, grey, greyAlpha, indexed, indexedAlpha, rgb, rgba, padded,
  premultiplied, cmyk, space .luminance, space .hue, space .lightness, integer, word, real]

/-- The name of a mode. -/
def name : Mode → String
  | bilevel => "1"
  | grey => "L"
  | greyAlpha => "LA"
  | indexed => "P"
  | indexedAlpha => "PA"
  | rgb => "RGB"
  | rgba => "RGBA"
  | padded => "RGBX"
  | premultiplied => "RGBa"
  | cmyk => "CMYK"
  | space .luminance => "YCbCr"
  | space .hue => "HSV"
  | space .lightness => "LAB"
  | integer => "I"
  | word => "I;16"
  | real => "F"

/-- The mode of a name. -/
def ofName? (s : String) : Option Mode := all.find? (·.name = s)

end Mode

/-- A raster of one of the kinds of samples. In a bilevel one, white is true. -/
inductive Canvas where
  | bilevel (r : Raster Bool)
  | grey (r : Raster UInt8)
  | greyAlpha (r : Raster Toned)
  | indexed (r : Raster UInt8) (palette : Palette)
  | indexedAlpha (r : Raster Toned) (palette : Palette)
  | rgb (r : Raster Rgb)
  | rgba (r : Raster Rgba)
  | padded (r : Raster Rgba)
  | premultiplied (r : Raster Rgba)
  | cmyk (r : Raster Cmyk)
  | space (s : Space) (r : Raster Triple)
  | integer (r : Raster Int32)
  | word (r : Raster UInt16)
  | real (r : Raster Binary32)

namespace Canvas

/-- The kind of a canvas. -/
def mode : Canvas → Mode
  | bilevel _ => .bilevel
  | grey _ => .grey
  | greyAlpha _ => .greyAlpha
  | indexed _ _ => .indexed
  | indexedAlpha _ _ => .indexedAlpha
  | rgb _ => .rgb
  | rgba _ => .rgba
  | padded _ => .padded
  | premultiplied _ => .premultiplied
  | cmyk _ => .cmyk
  | space s _ => .space s
  | integer _ => .integer
  | word _ => .word
  | real _ => .real

/-- The size of a canvas: width and height. -/
def size : Canvas → Nat × Nat
  | bilevel r => (r.width, r.height)
  | grey r => (r.width, r.height)
  | greyAlpha r => (r.width, r.height)
  | indexed r _ => (r.width, r.height)
  | indexedAlpha r _ => (r.width, r.height)
  | rgb r => (r.width, r.height)
  | rgba r => (r.width, r.height)
  | padded r => (r.width, r.height)
  | premultiplied r => (r.width, r.height)
  | cmyk r => (r.width, r.height)
  | space _ r => (r.width, r.height)
  | integer r => (r.width, r.height)
  | word r => (r.width, r.height)
  | real r => (r.width, r.height)

/-- The samples in a column or a row. -/
def width (c : Canvas) : Nat := c.size.1

/-- The number of rows. -/
def height (c : Canvas) : Nat := c.size.2

/-- Whether a side is zero. -/
def isEmpty (c : Canvas) : Bool := c.width = 0 || c.height = 0

/-- The palette, if the samples are plain indexes. -/
def palette? : Canvas → Option Palette
  | indexed _ p => some p
  | _ => none

/-- Rearranges the samples, whatever they are. -/
def rearrange (f : {α : Type} → [Inhabited α] → Raster α → Raster α) : Canvas → Canvas
  | bilevel r => bilevel (f r)
  | grey r => grey (f r)
  | greyAlpha r => greyAlpha (f r)
  | indexed r p => indexed (f r) p
  | indexedAlpha r p => indexedAlpha (f r) p
  | rgb r => rgb (f r)
  | rgba r => rgba (f r)
  | padded r => padded (f r)
  | premultiplied r => premultiplied (f r)
  | cmyk r => cmyk (f r)
  | space s r => space s (f r)
  | integer r => integer (f r)
  | word r => word (f r)
  | real r => real (f r)

end Canvas

/-- What a picture says to be transparent: one index or shade, one colour, or the opacities of the
first indexes. -/
inductive Transparency where
  | index (i : Int)
  | table (alphas : ByteArray)
  | colour (channels : List Int)

/-- A picture: its samples, and what is transparent if that is said. -/
structure Picture where
  canvas : Canvas
  transparency : Option Transparency

namespace Picture

/-- A picture that says nothing of transparency. -/
def plain (c : Canvas) : Picture := ⟨c, none⟩

instance : Inhabited Picture := ⟨plain (.rgb (Raster.solid 0 0 default))⟩

/-- The kind of a picture. -/
def mode (p : Picture) : Mode := p.canvas.mode

end Picture
end Reencode
