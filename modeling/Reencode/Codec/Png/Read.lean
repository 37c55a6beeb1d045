import Reencode.Bytes.Inflate
import Reencode.Codec.Exif
import Reencode.Codec.Png.Layout
import Reencode.Number.Power

/-!
# Reading PNG files

A PNG file is a signature and chunks: a length, a name, a body and a checksum. Chunks up to the
first with samples are the header, and their checksums must be right. The samples are one packed
stream, cut anywhere into the bodies of consecutive chunks. Chunks after them are read for what they
say, but their checksums are not.

Samples are read as long as rows come out: the stream may end early, and the missing rows are then
zero, but it must end where a row does.
-/
namespace Reencode.Png

open Bytes

/-- What every file starts with. -/
def signature : List UInt8 := [0x89, 0x50, 0x4E, 0x47, 0x0D, 0x0A, 0x1A, 0x0A]

/-- What the chunks say. -/
structure Header where
  width : Nat
  height : Nat
  layout : Option Layout
  interlaced : Bool
  palette : Option ByteArray
  transparency : Option Transparency
  attributes : Option ByteArray

/-- The header before any chunk. -/
def Header.initial : Header := ⟨0, 0, none, false, none, none, none⟩

/-- Why a chunk cannot be taken: the whole file is refused, or the numbers of the chunk are cut, or
they make no sense. -/
inductive Refusal where
  | unreadable (u : Unreadable)
  | cutNumbers
  | senseless

/-- The cause while the header is read: what makes no sense there is not this format. -/
def Refusal.inHeader : Refusal → Unreadable
  | unreadable u => u
  | cutNumbers | senseless => .unknown

/-- The cause after the samples. -/
def Refusal.afterSamples : Refusal → Unreadable
  | unreadable u => u
  | cutNumbers => .cutNumbers
  | senseless => .unknownFilter

/-! ## Chunks -/

/-- Whether a byte may stand in the name of a chunk. -/
def isNameByte (b : UInt8) : Bool :=
  let c := Char.ofNat b.toNat
  b < 0x80 && (c.isAlphanum || c = '_')

/-- The head of a chunk: the length and the name, unless there are not enough bytes for a length or
the name is none. -/
inductive ChunkHead where
  | found (length : Nat) (name : List UInt8)
  | cut
  | broken (name : List UInt8)

/-- The head of a chunk at a place. -/
def chunkHead (b : ByteArray) (place : Nat) : ChunkHead :=
  if b.size < place + 4 then .cut
  else
    let name := (slice b (place + 4) 4).data.toList
    if name.length = 4 && name.all isNameByte then .found (be32At b place) name else .broken name

/-- The transparency that a chunk gives to pictures of a layout. Of a palette a single transparent
colour is kept as an index. A line feed at the end does not count for that. -/
def transparencyOf (l : Layout) (body : ByteArray) :
    Except Refusal (Option Transparency) :=
  match l.mode with
  | .indexed =>
    let bytes := body.data.toList
    let bytes := if bytes.getLast? = some 0x0A then bytes.dropLast else bytes
    let before := bytes.takeWhile (· == 0xFF)
    match bytes.drop before.length with
    | 0 :: rest =>
      if rest.all (· == 0xFF) then .ok (some (.index before.length)) else .ok (some (.table body))
    | _ => .ok (some (.table body))
  | .bilevel | .grey | .word =>
    if body.size < 2 then .error .cutNumbers else .ok (some (.index (be16At body 0)))
  | .rgb =>
    if body.size < 6 then .error .cutNumbers
    else .ok (some (.colour [be16At body 0, be16At body 2, be16At body 4]))
  | _ => .ok none

/-- A body that must not be shorter than so many bytes. -/
def atLeast (size : Nat) (start : String) (body : ByteArray) : Except Refusal Unit :=
  if body.size < size then .error (.unreadable (.shortChunk start)) else .ok ()

/-- What the header is after a chunk. -/
def Header.take (h : Header) (name : List UInt8) (body : ByteArray) : Except Refusal Header :=
  match String.ofList (name.map fun b => Char.ofNat b.toNat) with
  | "IHDR" => do
    atLeast 13 "Truncated IHDR" body
    if byteAt body 11 ≠ 0 then throw .senseless
    return { h with
      width := be32At body 0
      height := be32At body 4
      layout := (Layout.ofCodes? (byteAt body 8) (byteAt body 9)).or h.layout
      interlaced := h.interlaced || byteAt body 12 ≠ 0 }
  | "PLTE" =>
    .ok (if h.layout.any (·.mode = .indexed) then { h with palette := some body } else h)
  | "tRNS" =>
    match h.layout with
    | none => .ok h
    | some l => do
      let t ← transparencyOf l body
      return { h with transparency := t.or h.transparency }
  | "eXIf" => .ok { h with attributes := some body }
  | "gAMA" => if body.size < 4 then .error .cutNumbers else .ok h
  | "cHRM" => if body.size % 4 ≠ 0 then .error .cutNumbers else .ok h
  | "sRGB" => do atLeast 1 "Truncated sRGB" body; return h
  | "pHYs" => do atLeast 9 "Truncated pHYs" body; return h
  | "acTL" => do atLeast 8 "APNG contains truncated acTL" body; return h
  | _ => .ok h

/-- The name of chunks with samples. -/
def samplesName : List UInt8 := ascii "IDAT"

/-- The name of the last chunk. -/
def lastName : List UInt8 := ascii "IEND"

/-- Reads chunks from a place on, up to the first with samples; gives its place and length, or
none when the last chunk comes first. -/
def readHeader (b : ByteArray) : Nat → Nat → Header →
    Except Unreadable (Header × Option (Nat × Nat))
  | 0, _, _ => .error .unknown
  | fuel + 1, place, h =>
    match chunkHead b place with
    | .cut | .broken _ => .error .unknown
    | .found length name =>
      let start := place + 8
      if name = samplesName then .ok (h, some (start, length))
      else if name = lastName then .ok (h, none)
      else if b.size < start + length then .error .cutPart
      else
        let body := slice b start length
        match h.take name body with
        | .error r => .error r.inHeader
        | .ok h =>
          if b.size < start + length + 4 ||
              be32At b (start + length) ≠ (crc32 (ofList name ++ body)).toNat then .error .unknown
          else readHeader b fuel (start + length + 4) h

/-- Reads the chunks after the samples, from the checksum before them on. Reading ends at the last
chunk, or where no chunk can be found. -/
def readTrailer (b : ByteArray) : Nat → Nat → Header → Except Unreadable Header
  | 0, _, h => .ok h
  | fuel + 1, place, h =>
    match chunkHead b (place + 4) with
    | .cut | .broken _ => .ok h
    | .found length name =>
      let start := place + 12
      if name = lastName then .ok h
      else if b.size < start + length then .error .cutPart
      else
        match h.take name (slice b start length) with
        | .error r => .error r.afterSamples
        | .ok h => readTrailer b fuel (start + length) h

/-! ## Packed samples -/

/-- The most bytes taken from a chunk at a time. -/
def pieceLimit : Nat := 65536

/-- A piece of the packed samples: how many bytes there are up to its end, where the rest of its
chunk begins, and how many bytes that rest should have. -/
structure Piece where
  upTo : Nat
  place : Nat
  left : Nat

/-- All packed samples, the pieces they come in, and the cause when they are not enough. -/
structure Packed where
  bytes : ByteArray
  pieces : List Piece
  shortage : Unreadable

/-- Collects the pieces: the rest of the chunk at a place, then the chunks that follow. -/
def collect (b : ByteArray) : Nat → Nat → Nat → ByteArray → List Piece → Packed
  | 0, _, _, bytes, pieces => ⟨bytes, pieces.reverse, .missingSamples 0⟩
  | fuel + 1, place, 0, bytes, pieces =>
    match chunkHead b (place + 4) with
    | .cut => ⟨bytes, pieces.reverse, .cutSamples⟩
    | .broken name => ⟨bytes, pieces.reverse, .brokenChunk name⟩
    | .found length name =>
      if name = samplesName || name = ascii "DDAT" then
        collect b fuel (place + 12) length bytes pieces
      else ⟨bytes, pieces.reverse, .missingSamples 0⟩
  | fuel + 1, place, left + 1, bytes, pieces =>
    let asked := min pieceLimit (left + 1)
    let piece := slice b place asked
    if piece.size = 0 then ⟨bytes, pieces.reverse, .missingSamples 0⟩
    else
      let bytes := bytes ++ piece
      let p : Piece := ⟨bytes.size, place + piece.size, left + 1 - asked⟩
      collect b fuel p.place p.left bytes (p :: pieces)

/-! ## Rows -/

/-- The rows of a grid: how many, and the bytes of each. -/
structure Band where
  grid : Grid
  rows : Nat
  rowBytes : Nat

/-- The bands of a picture; those without samples are left out. -/
def Header.bands (h : Header) (l : Layout) : List Band :=
  (if h.interlaced then Grid.interlaced else Grid.all).filterMap fun g =>
    let columns := g.columns h.width
    let rows := g.rows h.height
    if columns = 0 || rows = 0 then none else some ⟨g, rows, l.rowBytes columns⟩

/-- The nearest of three neighbours to left plus up minus the corner. -/
def nearestNeighbour (left up corner : Nat) : Nat :=
  let guess : Int := (left : Int) + up - corner
  let a := (guess - left).natAbs
  let b := (guess - up).natAbs
  let c := (guess - corner).natAbs
  if a ≤ b ∧ a ≤ c then left else if b ≤ c then up else corner

/-- Undoes the filter of a row: each byte was stored as its difference from what its neighbours let
expect. The row is put behind the rows before it. -/
def restore (filter stride rowBytes : Nat) (first : Bool) (stored : ByteArray) (start : Nat)
    (rows : ByteArray) : ByteArray :=
  rowBytes.fold (fun i _ rows =>
    let back (n : Nat) : Nat := byteAt rows (rows.size - n)
    let left := if i < stride then 0 else back stride
    let up := if first then 0 else back rowBytes
    let corner := if first || i < stride then 0 else back (rowBytes + stride)
    let expected := match filter with
      | 1 => left
      | 2 => up
      | 3 => (left + up) / 2
      | 4 => nearestNeighbour left up corner
      | _ => 0
    rows.push (UInt8.ofNat (byteAt stored (start + i) + expected))) rows

/-- How far the rows have come out: the place of the next one in the unpacked bytes, the restored
ones, the pieces from the one in use on, and how many packed bytes have been taken. -/
structure Progress where
  place : Nat
  rows : ByteArray
  pieces : List Piece
  taken : Nat
  isOver : Bool

/-- What the rows are taken from, how the stream ended, and the cause when rows are missing. -/
structure Supply where
  unpacked : Unpacked
  ending : StreamEnd
  shortage : Unreadable

/-- How many packed bytes the stream took up to its end. -/
def Supply.takenAtEnd (s : Supply) : Nat := (s.unpacked.bits + 7) / 8

/-- Takes one row. It comes out of a piece of which bytes are left, and unpacking stops as soon as
the row is there; but the code that follows is taken with it, so that the end of the stream, or a
break in it, is noticed if the piece at hand reaches so far. -/
def takeRow (s : Supply) (stride rowBytes : Nat) (first : Bool) (p : Progress) :
    Except Unreadable Progress :=
  let output := s.unpacked.output
  let stop := p.place + rowBytes + 1
  let fresh := p.pieces.dropWhile (·.upTo ≤ p.taken)
  if output.size < stop then
    .error (if s.ending = .broken || s.ending = .tooFar then .brokenStream else s.shortage)
  else
    let pieces := fresh.dropWhile (·.upTo < s.unpacked.taken.getD (stop - 1) 0)
    match pieces with
    | [] => .error s.shortage
    | piece :: _ =>
      let atOnce := output.size = stop && s.takenAtEnd ≤ piece.upTo
      if atOnce && s.ending = .broken then .error .brokenStream
      else
        let filter := byteAt output p.place
        if 4 < filter then .error .senselessStream
        else .ok ⟨stop, restore filter stride rowBytes first output (p.place + 1) p.rows, pieces,
          min piece.upTo (s.unpacked.taken.getD stop s.takenAtEnd), atOnce && s.ending = .finished⟩

/-- Takes so many rows of a band. -/
def takeBand (s : Supply) (stride rowBytes : Nat) : Nat → Bool → Progress →
    Except Unreadable Progress
  | 0, _, p => .ok p
  | n + 1, first, p =>
    if p.isOver then .ok p
    else do
      let p ← takeRow s stride rowBytes first p
      takeBand s stride rowBytes n false p

/-- Takes the rows of all bands. -/
def takeBands (s : Supply) (stride : Nat) (bands : List Band) (p : Progress) :
    Except Unreadable Progress :=
  bands.foldlM (fun p band => takeBand s stride band.rowBytes band.rows true p) p

/-! ## Samples -/

/-- The first byte of each band in the restored rows. -/
def starts (bands : List Band) : List (Band × Nat) :=
  (bands.foldl (fun (acc : List (Band × Nat) × Nat) band =>
    (acc.1 ++ [(band, acc.2)], acc.2 + band.rows * band.rowBytes)) ([], 0)).1

/-- The place of the row that holds a sample, and the column of the sample in that row. -/
def placeOf (bands : List (Band × Nat)) (x y : Nat) : Nat × Nat :=
  match bands.find? fun (band, _) => band.grid.holds x y with
  | some (band, start) =>
    let g := band.grid
    (start + (y - g.top) / g.down * band.rowBytes, (x - g.left) / g.across)
  | none => (0, 0)

/-- The canvas in restored rows; rows that are missing are zero. -/
def canvasOf (l : Layout) (width height : Nat) (palette : Palette) (bands : List Band)
    (rows : ByteArray) : Canvas :=
  let bands := starts bands
  let raster {α : Type} (read : Nat → Nat → α) : Raster α :=
    Raster.ofFn width height fun x y =>
      let (row, column) := placeOf bands x y
      read row column
  let bits (row column : Nat) : Nat :=
    byteAt rows (row + column * l.depth / 8) / twoTo (8 - l.depth - column * l.depth % 8) %
      twoTo l.depth
  let channel (row column i : Nat) : UInt8 :=
    UInt8.ofNat (byteAt rows (row + (column * l.kind.channels + i) * (l.depth / 8)))
  match l.mode with
  | .bilevel => .bilevel (raster fun r c => bits r c = 1)
  | .word => .word (raster fun r c => UInt16.ofNat (be16At rows (r + 2 * c)))
  | .indexed => .indexed (raster fun r c => UInt8.ofNat (bits r c)) palette
  | .rgb => .rgb (raster fun r c => ⟨channel r c 0, channel r c 1, channel r c 2⟩)
  | .greyAlpha => .greyAlpha (raster fun r c => ⟨channel r c 0, channel r c 1⟩)
  | .rgba =>
    if l.kind = .greyAlpha then
      .rgba (raster fun r c => (Rgb.grey (channel r c 0)).withAlpha (channel r c 1))
    else
      .rgba (raster fun r c => ⟨channel r c 0, channel r c 1, channel r c 2, channel r c 3⟩)
  | _ => .grey (raster fun r c => UInt8.ofNat (bits r c * 255 / (twoTo l.depth - 1)))

/-- The picture of a file, upright. -/
def read (b : ByteArray) : Except Unreadable Picture := do
  let (h, samples) ← readHeader b (b.size + 1) signature.length .initial
  match h.layout with
  | none => throw .unknown
  | some l =>
    if h.width = 0 || h.height = 0 then throw .unknown
    if Unreadable.pixelLimit < h.width * h.height then
      throw (.tooManyPixels (h.width * h.height))
    match samples with
    | none => throw .noSamples
    | some (place, length) =>
      let palette := Palette.ofBytes (h.palette.getD .empty)
      if l.mode = .indexed && 256 < palette.size then throw .largePalette
      let packed := collect b (2 * b.size + 2) place length .empty []
      let bands := h.bands l
      let (u, ending) := inflate packed.bytes
        (bands.foldl (fun n band => n + band.rows * (band.rowBytes + 1)) 0)
      let p ← takeBands ⟨u, ending, packed.shortage⟩ l.stride bands
        ⟨0, .empty, packed.pieces, 0, false⟩
      let rest := (p.pieces.head?.map fun p => p.place + p.left).getD b.size
      let h ← readTrailer b b.size rest h
      let o ← match h.attributes with
        | some a => Exif.orientation? a
        | none => pure none
      let canvas := canvasOf l h.width h.height palette bands p.rows
      return Picture.upright ⟨canvas, h.transparency⟩ o

end Reencode.Png
