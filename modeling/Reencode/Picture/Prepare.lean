import Reencode.Params.Format
import Reencode.Picture.Basic

/-!
# Pictures for a format

A format takes only some kinds of pictures. JPEG takes colours without opacity, so that whatever has
an opacity is laid on white first; WEBP takes colours with or without one; PNG takes nearly
everything, and only inks and transparent palettes are turned into colours.

A palette picture is transparent where it says so, either at one index or by a table of opacities;
it then becomes a picture with opacities. The transparent shade or colour of other pictures is only
an entry beside the canvas: it is carried along and changes no sample.

How lightness and opponent colours become red, green and blue is left to a colour engine, which
gives a new picture without any entry.
-/
namespace Reencode

namespace Palette

/-- The opacity an entry gives to an index. -/
def alphaOf (t : Transparency) (index : UInt8) : UInt8 :=
  match t with
  | .index i => if i = index.toNat then 0 else 255
  | .table alphas => if h : index.toNat < alphas.size then alphas[index.toNat] else 255
  | .colour _ => 255

/-- The refusal of an index that no palette has. -/
def outside : Failure := .value "palette index out of range"

/-- Whether an entry says which colours of a palette are transparent. -/
def accepts : Transparency → Except Failure Unit
  | .index i => if 0 ≤ i ∧ i < 256 then .ok () else .error outside
  | .table alphas => if alphas.size ≤ 256 then .ok () else .error outside
  | .colour _ => .error (.value "Transparency for P mode should be bytes or int")

end Palette

namespace Picture

/-- The entry for a picture of colours that was grey. -/
def colourEntry : Option Transparency → Except Failure (Option Transparency)
  | none => .ok none
  | some (.table _) => .ok none
  | some (.index i) | some (.colour [i]) =>
    let v : Int := (clipByte i).toNat
    .ok (some (.colour [v, v, v]))
  | some (.colour _) => .error (.type "color must be int or single-element tuple")

/-- The picture in colours with opacities, if it has palette or opacities. -/
def withAlpha (p : Picture) : Except Failure Picture :=
  match p.canvas, p.transparency with
  | .indexed r palette, none => .ok ⟨.rgba (r.map fun i => (palette.colour i).withAlpha 255), none⟩
  | .indexed r palette, some t => do
    Palette.accepts t
    return plain (.rgba (r.map fun i => (palette.colour i).withAlpha (Palette.alphaOf t i)))
  | .greyAlpha r, t => .ok ⟨.rgba (r.map Toned.grey), t⟩
  | .indexedAlpha r palette, t =>
    .ok ⟨.rgba (r.map fun c => (palette.colour c.tone).withAlpha c.alpha), t⟩
  | _, _ => .ok p

/-- The picture on white ground, if it has opacities. -/
def onWhite (p : Picture) : Picture :=
  match p.canvas with
  | .rgba r => plain (.rgb (r.map Rgba.overWhite))
  | _ => p

section

variable (engine : ColourEngine)

/-- The picture in colours. What has opacities should be laid on a ground instead. -/
def colours (p : Picture) : Except Failure Picture :=
  match p.canvas with
  | .bilevel r => .ok { p with canvas := .rgb (r.map fun b => Rgb.grey (if b then 255 else 0)) }
  | .grey r => do
    let entry ← colourEntry p.transparency
    return ⟨.rgb (r.map Rgb.grey), entry⟩
  | .greyAlpha r => .ok { p with canvas := .rgb (r.map fun c => Rgb.grey c.tone) }
  | .indexed r palette => .ok { p with canvas := .rgb (r.map palette.colour) }
  | .indexedAlpha r palette => .ok { p with canvas := .rgb (r.map fun c => palette.colour c.tone) }
  | .rgb _ => .ok p
  | .rgba r | .padded r => .ok { p with canvas := .rgb (r.map Rgba.rgb) }
  | .premultiplied r => .ok { p with canvas := .rgb (r.map Rgba.divided) }
  | .cmyk r => .ok { p with canvas := .rgb (r.map Cmyk.toRgb) }
  | .space .luminance r => .ok { p with canvas := .rgb (r.map Triple.ofLuminance) }
  | .space .hue r => .ok { p with canvas := .rgb (r.map Triple.ofHue) }
  | .space .lightness r => .ok (plain (.rgb (r.map engine)))
  | .integer r => .ok { p with canvas := .rgb (r.map fun n => Rgb.grey (clipByte n.toInt)) }
  | .word r => .ok { p with canvas := .rgb (r.map fun n => Rgb.grey (clipByte n.toNat)) }
  | .real r => .ok { p with canvas := .rgb (r.map fun x => Rgb.grey x.toByte) }

/-- The picture as WEBP takes it. -/
def forWebp (p : Picture) : Except Failure Picture :=
  match p.canvas, p.transparency with
  | .indexed _ _, some _ | .greyAlpha _, _ | .indexedAlpha _ _, _ => p.withAlpha
  | .rgba _, _ => .ok p
  | _, _ => p.colours engine

/-- The picture as JPEG takes it: what has opacities is laid on white. -/
def forJpeg (p : Picture) : Except Failure Picture :=
  match p.canvas, p.transparency with
  | .indexed _ _, some _ | .greyAlpha _, _ | .indexedAlpha _ _, _ | .rgba _, _ =>
    onWhite <$> p.withAlpha
  | _, _ => p.colours engine

/-- The picture as PNG takes it. -/
def forPng (p : Picture) : Except Failure Picture :=
  match p.canvas, p.transparency with
  | .cmyk _, _ => p.colours engine
  | .indexed _ _, some _ => p.withAlpha
  | _, _ => .ok p

/-- The picture as a format takes it. -/
def prepare (p : Picture) : Format → Except Failure Picture
  | .jpeg => p.forJpeg engine
  | .webp => p.forWebp engine
  | .png => p.forPng engine

end

end Picture
end Reencode
