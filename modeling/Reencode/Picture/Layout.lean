import Reencode.Bytes.Words
import Reencode.Picture.Basic

/-!
# Rows of bytes

Pictures as plain bytes, row by row without gaps between rows. Every kind of sample has a fixed
number of bytes, numbers least significant byte first; only black and white samples are packed,
eight to a byte from the high bit on, and each row then starts a new byte.
-/
namespace Reencode

open Bytes (byteAt)

namespace Raster

variable {α : Type}

/-- The bytes of all samples, one after the other. -/
def flatten (r : Raster α) (bytes : α → List UInt8) : ByteArray :=
  r.samples.foldl (fun b a => (bytes a).foldl ByteArray.push b) (.emptyWithCapacity r.samples.size)

/-- A raster read from bytes; `read` is given the place of each sample. -/
def read (width height size : Nat) (read : Nat → α) : Raster α :=
  ofFn width height fun x y => read ((y * width + x) * size)

/-- The number in which the bits of up to eight samples stand, the first one highest. -/
def bitsFrom (row : Array Bool) (i : Nat) : Nat :=
  (List.range 8).foldl (fun n k => 2 * n + (row.getD (8 * i + k) false).toNat) 0

/-- Samples of one bit, eight to a byte, each row on its own. -/
def packed (r : Raster Bool) : ByteArray :=
  (List.range r.height).foldl (fun b y =>
    let row := r.row y
    (List.range ((r.width + 7) / 8)).foldl
      (fun b i => b.push (UInt8.ofNat (bitsFrom row i))) b) ByteArray.empty

/-- Reads samples of one bit. -/
def unpacked (width height : Nat) (b : ByteArray) : Raster Bool :=
  ofFn width height fun x y =>
    (byteAt b (y * ((width + 7) / 8) + x / 8)).testBit (7 - x % 8)

end Raster

namespace Canvas

/-- The bytes of a canvas. -/
def toBytes : Canvas → ByteArray
  | bilevel r => r.packed
  | grey r | indexed r _ => r.flatten fun v => [v]
  | greyAlpha r | indexedAlpha r _ => r.flatten fun c => [c.tone, c.alpha]
  | rgb r => r.flatten fun c => [c.red, c.green, c.blue]
  | rgba r | padded r | premultiplied r => r.flatten fun c => [c.red, c.green, c.blue, c.alpha]
  | cmyk r => r.flatten fun c => [c.cyan, c.magenta, c.yellow, c.black]
  | space _ r => r.flatten fun c => [c.first, c.second, c.third]
  | integer r => r.flatten fun n => Bytes.le32 n.toUInt32.toNat
  | word r => r.flatten fun n => Bytes.le16 n.toNat
  | real r => r.flatten fun x => Bytes.le32 x.bits.toNat

/-- The byte at a place. -/
def byteOf (b : ByteArray) (i : Nat) : UInt8 := UInt8.ofNat (byteAt b i)

/-- The canvas of a mode in bytes; missing bytes count as zero. The palette is used where there
is one. -/
def ofBytes (m : Mode) (width height : Nat) (b : ByteArray) (palette : Palette) : Canvas :=
  let sample := byteOf b
  let toned (i : Nat) : Toned := ⟨sample i, sample (i + 1)⟩
  let coloured (i : Nat) : Rgba := ⟨sample i, sample (i + 1), sample (i + 2), sample (i + 3)⟩
  match m with
  | .bilevel => bilevel (Raster.unpacked width height b)
  | .grey => grey (Raster.read width height 1 sample)
  | .greyAlpha => greyAlpha (Raster.read width height 2 toned)
  | .indexed => indexed (Raster.read width height 1 sample) palette
  | .indexedAlpha => indexedAlpha (Raster.read width height 2 toned) palette
  | .rgb => rgb (Raster.read width height 3 fun i => ⟨sample i, sample (i + 1), sample (i + 2)⟩)
  | .rgba => rgba (Raster.read width height 4 coloured)
  | .padded => padded (Raster.read width height 4 coloured)
  | .premultiplied => premultiplied (Raster.read width height 4 coloured)
  | .cmyk => cmyk (Raster.read width height 4 fun i =>
      ⟨sample i, sample (i + 1), sample (i + 2), sample (i + 3)⟩)
  | .space s => space s (Raster.read width height 3 fun i =>
      ⟨sample i, sample (i + 1), sample (i + 2)⟩)
  | .integer => integer (Raster.read width height 4 fun i =>
      (UInt32.ofNat (Bytes.le32At b i)).toInt32)
  | .word => word (Raster.read width height 2 fun i => UInt16.ofNat (Bytes.le16At b i))
  | .real => real (Raster.read width height 4 fun i => ⟨UInt32.ofNat (Bytes.le32At b i)⟩)

end Canvas

/-! ## One colour everywhere -/

namespace Mode

/-- The bytes of a sample of a colour, given by its channels. Bytes are cut to their range, and an
opacity that is not given is full. One number for several channels holds them from its low byte on.
Opponent colours are stored with their high bit turned over. -/
def ink (m : Mode) (channels : List Int) : List UInt8 :=
  let padded (n : Nat) : List UInt8 := ((channels.map clipByte) ++ List.replicate n 255).take n
  let spread (n : Nat) : List UInt8 :=
    match channels with
    | [i] => (List.range n).map fun k => UInt8.ofNat ((i.fdiv (twoTo (8 * k))).emod 256).toNat
    | _ => padded n
  match m, channels with
  | .bilevel, _ | .grey, _ | .indexed, _ => padded 1
  | .greyAlpha, [i] | .indexedAlpha, [i] => [clipByte i, 255]
  | .greyAlpha, _ | .indexedAlpha, _ => padded 2
  | .space .lightness, _ =>
    match spread 3 with
    | l :: rest => l :: rest.map (· ^^^ 0x80)
    | [] => []
  | .rgb, _ | .space _, _ => spread 3
  | .rgba, _ | .padded, _ | .premultiplied, _ | .cmyk, _ => spread 4
  | .integer, _ | .real, _ => Bytes.le32 ((channels.headD 0).emod (twoTo 32)).toNat
  | .word, _ => Bytes.le16 (min 65535 (channels.headD 0).toNat)

end Mode

/-- The canvas with one colour everywhere. -/
def Canvas.solid (m : Mode) (width height : Nat) (channels : List Int) (palette : Palette) :
    Canvas :=
  match m with
  | .bilevel => .bilevel (Raster.solid width height (channels.headD 0 != 0))
  | m =>
    let sample := m.ink channels
    Canvas.ofBytes m width height
      ((List.range (width * height)).foldl (fun b _ => sample.foldl ByteArray.push b)
        ByteArray.empty) palette

end Reencode
