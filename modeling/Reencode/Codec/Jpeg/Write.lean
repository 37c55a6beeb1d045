import Reencode.Bytes.PrefixCode
import Reencode.Codec.Jpeg.Segments
import Reencode.Codec.Jpeg.Transform
import Reencode.Number.Power
import Reencode.Picture.Basic

/-!
# Writing JPEG files

Colours are written as luminance and colour differences, the differences thinned out as told, in one
scan with the usual codes. The quality decides the steps in which frequencies are given.
-/
namespace Reencode.Jpeg

open Bytes

/-! ## Components -/

/-- Luminance and colour differences of a colour, in 65536ths. -/
def ofRgb (c : Rgb) : Nat × Nat × Nat :=
  let r : Int := c.red.toNat
  let g : Int := c.green.toNat
  let b : Int := c.blue.toNat
  let part (x y z : Int) (offset : Int) : Nat :=
    (clipByte ((x * r + y * g + z * b + offset) / 65536)).toNat
  (part 19595 38470 7471 32768, part (-11059) (-21709) 32768 8421375,
    part 32768 (-27439) (-5329) 8421375)

/-- The samples that one sample of colour differences stands for: across and down. -/
def thinning : Sampling → Nat × Nat
  | .halfWidth => (2, 1)
  | .quarter => (2, 2)

/-- The mean of a channel over some samples from a place on. -/
def meanOver (across down : Nat) (f : Nat → Nat → Nat) (x y : Nat) : Nat :=
  let count := across * down
  let sum := (List.range count).foldl
    (fun n i => n + f (x * across + i % across) (y * down + i / across)) 0
  (2 * sum + count) / (2 * count)

/-- The frequencies of the block at a place, in steps, in storage order. -/
def blockOf (steps : Array Nat) (f : Nat → Nat → Nat) (left top : Nat) : Array Int :=
  let frequencies := forward ((Array.range 64).map fun i =>
    (f (left + i % 8) (top + i / 8) : Int) - 128)
  storageOrder.map fun i => inSteps (frequencies.getD i 0) (steps.getD i 1)

/-! ## Codes -/

/-- Bits on their way into bytes: the bytes that are full, and the other bits as a number. -/
structure BitWriter where
  bytes : ByteArray
  value : Nat
  count : Nat

namespace BitWriter

/-- Moves full bytes out; a byte of ones is followed by zero. -/
def flush : Nat → BitWriter → BitWriter
  | 0, w => w
  | fuel + 1, w =>
    if w.count < 8 then w
    else
      let unit := twoTo (w.count - 8)
      let byte := UInt8.ofNat (w.value / unit)
      let bytes := w.bytes.push byte
      flush fuel ⟨if byte = 255 then bytes.push 0 else bytes, w.value % unit, w.count - 8⟩

/-- Writes a number in so many bits. -/
def put (w : BitWriter) (length value : Nat) : BitWriter :=
  flush 8 ⟨w.bytes, w.value * twoTo length + value, w.count + length⟩

/-- Fills the last byte with ones. -/
def finish (w : BitWriter) : ByteArray :=
  (w.put ((8 - w.count % 8) % 8) (twoTo ((8 - w.count % 8) % 8) - 1)).bytes

end BitWriter

/-- The codewords by symbol: length and codeword. -/
def CodeTable.encoder (t : CodeTable) : Array (Nat × Nat) :=
  (PrefixCode.mk t.counts t.symbols.toArray).codewords.foldl
    (fun a (symbol, length, code) => a.setIfInBounds symbol (length, code))
    (Array.replicate 256 (0, 0))

/-- The number of bits of a number without its sign. -/
def sizeOf (v : Int) : Nat := if v = 0 then 0 else v.natAbs.log2 + 1

/-- Writes a symbol that ends in a size, and the number of that size. -/
def putSized (codes : Array (Nat × Nat)) (zeros : Nat) (v : Int) (w : BitWriter) : BitWriter :=
  let size := sizeOf v
  let (length, code) := codes.getD (16 * zeros + size) (0, 0)
  (w.put length code).put size (if v < 0 then v + twoTo size - 1 else v).toNat

/-- Writes a symbol alone. -/
def putSymbol (codes : Array (Nat × Nat)) (symbol : Nat) (w : BitWriter) : BitWriter :=
  let (length, code) := codes.getD symbol (0, 0)
  w.put length code

/-- Writes the frequencies after the mean: each with the number of zeros before it, sixteen zeros as
a symbol of their own, and a mark when only zeros are left. -/
def putDetails (codes : Array (Nat × Nat)) : List Int → Nat → BitWriter → BitWriter
  | [], zeros, w => if zeros = 0 then w else putSymbol codes 0 w
  | v :: rest, zeros, w =>
    if v = 0 then putDetails codes rest (zeros + 1) w
    else
      let w := (zeros / 16).fold (fun _ _ w => putSymbol codes 0xF0 w) w
      putDetails codes rest 0 (putSized codes (zeros % 16) v w)

/-! ## Files -/

/-- A component as it is written, with its blocks in a group, the codewords of its means and those
of its other frequencies. -/
structure Channel where
  across : Nat
  down : Nat
  sample : Nat → Nat → Nat
  steps : Array Nat
  means : Array (Nat × Nat)
  rest : Array (Nat × Nat)

/-- Writes one block and gives its mean. -/
def putBlock (c : Channel) (left top : Nat) (before : Int) (w : BitWriter) : Int × BitWriter :=
  let block := blockOf c.steps c.sample left top
  let mean := block.getD 0 0
  (mean, putDetails c.rest (block.toList.drop 1) 0 (putSized c.means 0 (mean - before) w))

/-- Writes one group of blocks. -/
def putGroup (channels : List Channel) (column row : Nat) (means : List Int) (w : BitWriter) :
    List Int × BitWriter :=
  (channels.zip means).foldl (fun (acc : List Int × BitWriter) (c, mean) =>
    let (mean, w) := (List.range (c.across * c.down)).foldl
      (fun (m, w) i => putBlock c (8 * (column * c.across + i % c.across))
        (8 * (row * c.down + i / c.across)) m w) (mean, acc.2)
    (acc.1 ++ [mean], w)) ([], w)

/-- The bytes of the scan. -/
def scanOf (channels : List Channel) (groupsAcross groupsDown : Nat) : ByteArray :=
  ((List.range (groupsAcross * groupsDown)).foldl
    (fun (means, w) i => putGroup channels (i % groupsAcross) (i / groupsAcross) means w)
    (channels.map fun _ => 0, ⟨.empty, 0, 0⟩)).2.finish

/-- One segment. -/
def segment (marker : UInt8) (body : List UInt8) : ByteArray :=
  ofList ([0xFF, marker] ++ be16 (body.length + 2) ++ body)

/-- The body of a table of steps. -/
def stepsBody (number : UInt8) (steps : List Nat) : List UInt8 :=
  number :: storageOrder.toList.map fun i => UInt8.ofNat (steps.toArray.getD i 1)

/-- The body of a code. -/
def codeBody (number : UInt8) (t : CodeTable) : List UInt8 :=
  number :: (t.counts ++ t.symbols).map UInt8.ofNat

/-- The greatest side of a picture. -/
def sideLimit : Nat := 65500

/-- The file of colours. -/
def fileOf (r : Raster Rgb) (quality : Nat) (sampling : Sampling) : ByteArray :=
  let (across, down) := thinning sampling
  let luminance := scaleSteps quality luminanceSteps
  let chrominance := scaleSteps quality chrominanceSteps
  let converted := r.map ofRgb
  let channel (f : Nat × Nat × Nat → Nat) (x y : Nat) : Nat :=
    f (converted.samples.getD
      (min y (r.height - 1) * r.width + min x (r.width - 1)) default)
  let difference (f : Nat × Nat × Nat → Nat) : Channel :=
    ⟨1, 1, meanOver across down (channel f), chrominance.toArray, chrominanceMeans.encoder,
      chrominanceDetails.encoder⟩
  let channels := [
    ⟨across, down, channel (·.1), luminance.toArray, luminanceMeans.encoder,
      luminanceDetails.encoder⟩,
    difference (·.2.1), difference (·.2.2)]
  let groups (size step : Nat) : Nat := (size + 8 * step - 1) / (8 * step)
  ofList [0xFF, 0xD8] ++
    segment 0xE0 (ascii "JFIF" ++ [0, 1, 1, 0, 0, 1, 0, 1, 0, 0]) ++
    segment 0xDB (stepsBody 0 luminance) ++ segment 0xDB (stepsBody 1 chrominance) ++
    segment 0xC0 ([8] ++ be16 r.height ++ be16 r.width ++
      [3, 1, UInt8.ofNat (16 * across + down), 0, 2, 0x11, 1, 3, 0x11, 1]) ++
    segment 0xC4 (codeBody 0 luminanceMeans) ++ segment 0xC4 (codeBody 0x10 luminanceDetails) ++
    segment 0xC4 (codeBody 1 chrominanceMeans) ++ segment 0xC4 (codeBody 0x11 chrominanceDetails) ++
    segment 0xDA [3, 1, 0, 2, 0x11, 3, 0x11, 0, 63, 0] ++
    scanOf channels (groups r.width across) (groups r.height down) ++ ofList [0xFF, 0xD9]

/-- The file of a picture, whose quality must be an integer. -/
def write (c : Canvas) (quality : Number) (sampling : Sampling) : Except Failure ByteArray :=
  if c.isEmpty then .error (.value "cannot write empty image")
  else
    match quality, c with
    | .real _, _ => .error (.value "Invalid quality setting")
    | .int q, .rgb r =>
      if sideLimit < max r.width r.height then
        .error (.outside .io "broken data stream when writing image file")
      else .ok (fileOf r q.toNat sampling)
    | _, _ => .error (.outside .io ("cannot write mode " ++ c.mode.name ++ " as JPEG"))

end Reencode.Jpeg
