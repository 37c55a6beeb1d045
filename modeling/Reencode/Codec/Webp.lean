import Reencode.Bytes.Words
import Reencode.Codec.Exif
import Reencode.Number.Power

/-!
# WEBP files

A WEBP file is a container of chunks around one picture, which is stored either by frequencies or
without loss. An extended file begins with a chunk of its own that tells the size, whether there are
opacities, and which other chunks count.

Pictures are written without loss, one sample after the other with eight bits for each channel. Of
files that are read the size and the mode are known, and the attributes; their samples are not
restored: they are black, and transparent where there are opacities.
-/
namespace Reencode.Webp

open Bytes

/-! ## Reading -/

/-- A chunk: the four bytes of its name, and where its body is. -/
structure Chunk where
  name : List UInt8
  start : Nat
  size : Nat

/-- The chunks of a container up to its end, each of which must be whole. -/
def chunks? (b : ByteArray) (stop : Nat) : Nat → Nat → Option (List Chunk)
  | 0, _ => some []
  | fuel + 1, place =>
    if stop < place + 8 then some []
    else
      let c : Chunk := ⟨(slice b place 4).data.toList, place + 8, le32At b (place + 4)⟩
      let after := c.start + c.size + c.size % 2
      if stop < c.start + c.size then none
      else (chunks? b stop fuel after).map (c :: ·)

/-- What a picture is. -/
structure Features where
  width : Nat
  height : Nat
  hasAlpha : Bool

/-- What a picture stored by frequencies is. -/
def lossy? (b : ByteArray) (c : Chunk) : Option Features :=
  let start := c.start
  let width := le16At b (start + 6) % 16384
  let height := le16At b (start + 8) % 16384
  if 10 ≤ c.size && byteAt b start % 2 = 0 && hasAt b (start + 3) [0x9D, 0x01, 0x2A] &&
      width ≠ 0 && height ≠ 0 then some ⟨width, height, false⟩
  else none

/-- What a picture stored without loss is. -/
def lossless? (b : ByteArray) (c : Chunk) : Option Features :=
  let bits := le32At b (c.start + 1)
  if 5 ≤ c.size && byteAt b c.start = 0x2F && bits / twoTo 29 = 0 then
    some ⟨bits % 16384 + 1, bits / 16384 % 16384 + 1, bits / twoTo 28 % 2 = 1⟩
  else none

/-- A number of three bytes, least significant first. -/
def le24At (b : ByteArray) (i : Nat) : Nat := le16At b i + 65536 * byteAt b (i + 2)

/-- What a file is, and its attributes. -/
def inspect? (b : ByteArray) : Option (Features × Option ByteArray) := do
  let stop := le32At b 4 + 8
  if b.size < 20 || b.size < stop || stop < 16 then none
  let all ← chunks? b stop b.size 12
  let first ← all.head?
  if first.name = ascii "VP8 " then return (← lossy? b first, none)
  else if first.name = ascii "VP8L" then return (← lossless? b first, none)
  else
    if first.size < 10 then none
    let flags := byteAt b first.start
    let features : Features := ⟨le24At b (first.start + 4) + 1, le24At b (first.start + 7) + 1,
      flags / 16 % 2 = 1⟩
    let picture (c : Chunk) : Bool :=
      if c.name = ascii "VP8 " then
        (lossy? b c).any fun f => f.width = features.width && f.height = features.height
      else if c.name = ascii "VP8L" then
        (lossless? b c).any fun f => f.width = features.width && f.height = features.height
      else c.name = ascii "ANMF"
    if !all.any picture then none
    let attributes := if flags / 8 % 2 = 1 then
      (all.find? (·.name = ascii "EXIF")).map fun c => slice b c.start c.size else none
    return (features, attributes)

/-- Whether bytes start like a file. -/
def startsFile (b : ByteArray) : Bool :=
  hasAt b 0 (ascii "RIFF") && hasAt b 8 (ascii "WEBP") &&
    ["VP8 ", "VP8L", "VP8X"].any fun name => hasAt b 12 (ascii name)

/-- The picture of a file, upright. -/
def read (b : ByteArray) : Except Unreadable Picture := do
  if !startsFile b then throw .unknown
  match inspect? b with
  | none => throw .noReader
  | some (f, attributes) =>
    if Unreadable.pixelLimit < f.width * f.height then throw (.tooManyPixels (f.width * f.height))
    let canvas : Canvas :=
      if f.hasAlpha then .rgba (Raster.solid f.width f.height default)
      else .rgb (Raster.solid f.width f.height default)
    let o ← match attributes with
      | some a => Exif.orientation? a
      | none => pure none
    return (Picture.plain canvas).upright o

/-! ## Writing -/

/-- The greatest side of a picture. -/
def sideLimit : Nat := 16383

/-- The bits of a number, the lowest first. -/
def bitsOf : Nat → Nat → List Bool
  | 0, _ => []
  | n + 1, v => (v % 2 = 1) :: bitsOf n (v / 2)

/-- Puts bits behind bytes, the first bit of each byte lowest; missing ones are zero. -/
def packBits : List Bool → ByteArray → ByteArray
  | [], b => b
  | bit :: rest, b =>
    packBits (rest.drop 7)
      (b.push (UInt8.ofNat (((bit :: rest).take 8).foldr (fun bit n => bit.toNat + 2 * n) 0)))
termination_by bits => bits.length
decreasing_by simp only [List.length_drop, List.length_cons]; omega

/-- The code in which each of 256 symbols has eight bits, and so many further symbols none: a code
for lengths with one bit for zero and for eight, and the length of every symbol. -/
def plainCode (further : Nat) : List Bool :=
  [false] ++ bitsOf 4 8 ++
    [0, 0, 1, 0, 0, 0, 0, 0, 0, 0, 0, 1].flatMap (bitsOf 3) ++
    [false] ++ List.replicate 256 true ++ List.replicate further false

/-- The code with a single symbol, zero. -/
def emptyCode : List Bool := [true, false, false, false]

/-- The codeword of a byte: its bits, the highest first. -/
def codeword (v : UInt8) : List Bool := (bitsOf 8 v.toNat).reverse

/-- The bits of a sample. -/
def sampleBits (c : Rgba) : List Bool :=
  codeword c.green ++ codeword c.red ++ codeword c.blue ++ codeword c.alpha

/-- The bits before the samples: the size, whether there are opacities, that nothing was
transformed, and the codes. -/
def headBits (width height : Nat) (hasAlpha : Bool) : List Bool :=
  bitsOf 14 (width - 1) ++ bitsOf 14 (height - 1) ++ [hasAlpha] ++ bitsOf 3 0 ++
    [false, false, false] ++ plainCode 24 ++ plainCode 0 ++ plainCode 0 ++ plainCode 0 ++ emptyCode

/-- The bytes of a picture. Bits that do not fill a byte wait for those of the next sample. -/
def picture (r : Raster Rgba) (hasAlpha : Bool) : ByteArray :=
  let head := headBits r.width r.height hasAlpha
  let (b, rest) := r.samples.foldl (fun ((b, rest) : ByteArray × List Bool) c =>
    let bits := rest ++ sampleBits c
    let whole := bits.length / 8 * 8
    (packBits (bits.take whole) b, bits.drop whole)) (ofList [0x2F], head)
  packBits rest b

/-- One chunk, made up to an even size. -/
def chunk (name : String) (body : ByteArray) : ByteArray :=
  ofList (ascii name ++ le32 body.size) ++ body ++
    if body.size % 2 = 1 then ofList [0] else .empty

/-- The file of colours with opacities. Where everything is opaque they are left out. -/
def fileOf (r : Raster Rgba) : ByteArray :=
  let body := chunk "VP8L" (picture r (r.samples.any (·.alpha ≠ 255)))
  ofList (ascii "RIFF" ++ le32 (body.size + 4) ++ ascii "WEBP") ++ body

/-- The file of a canvas. -/
def write (c : Canvas) : Except Failure ByteArray :=
  if c.isEmpty || sideLimit < max c.width c.height then
    .error (.value ("encoding error 5: Image size exceeds WebP limit of " ++ toString sideLimit ++
      " pixels"))
  else
    match c with
    | .rgb r => .ok (fileOf (r.map (·.withAlpha 255)))
    | .rgba r => .ok (fileOf r)
    | _ => .error (.outside .io ("cannot write mode " ++ c.mode.name ++ " as WEBP"))

end Reencode.Webp
