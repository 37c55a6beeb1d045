import Reencode.Codec.Jpeg.Scan
import Reencode.Codec.Jpeg.Transform

/-!
# Reading JPEG files

A file whose header can be read is a picture; its samples are those of its scans. Components with
fewer samples than the finest one are spread between neighbours, and luminance with colour
differences becomes red, green and blue. All of that is done with the roundings that readers agree
on.

Only sequential scans with prefix codes are read. Of other files the size and the mode are known,
and their samples are black.
-/
namespace Reencode.Jpeg

open Bytes

/-- The tables that scans refer to by number, and the groups between two restarts. -/
structure Tables where
  means : List (Nat × CodeTable)
  rest : List (Nat × CodeTable)
  steps : List (Nat × List Nat)
  restartInterval : Nat

/-- Reads the codes of a segment. -/
def Tables.takeCodes (b : ByteArray) : Nat → Nat → Tables → Option Tables
  | 0, _, t => some t
  | fuel + 1, place, t =>
    if b.size = place then some t
    else if b.size < place + 17 then none
    else
      let counts := (List.range 16).map fun i => byteAt b (place + 1 + i)
      let total := counts.foldl (· + ·) 0
      if 256 < total || b.size < place + 17 + total then none
      else
        let table : CodeTable :=
          ⟨counts, (List.range total).map fun i => byteAt b (place + 17 + i)⟩
        let number := byteAt b place
        let after := place + 17 + total
        if number < 4 then takeCodes b fuel after { t with means := (number, table) :: t.means }
        else if 16 ≤ number && number < 20 then
          takeCodes b fuel after { t with rest := (number - 16, table) :: t.rest }
        else none

/-- Reads whatever tables a segment has. -/
def Tables.take (t : Tables) (s : Segment) : Option Tables :=
  match s.marker with
  | 0xC4 => takeCodes s.body (s.body.size + 1) 0 t
  | 0xDB => (stepTables s.body s.body.size 0 t.steps).map fun steps => { t with steps }
  | 0xDD => if s.body.size = 2 then some { t with restartInterval := be16At s.body 0 } else none
  | _ => some t

/-! ## Frames -/

/-- A quotient rounded up. -/
def ceilDiv (n d : Nat) : Nat := (n + d - 1) / d

/-- The most samples across that a component has. -/
def Header.finestAcross (h : Header) : Nat := h.components.foldl (fun n c => max n c.across) 1

/-- The most samples down that a component has. -/
def Header.finestDown (h : Header) : Nat := h.components.foldl (fun n c => max n c.down) 1

/-- The samples in a row of a component. -/
def Header.samplesAcross (h : Header) (c : Component) : Nat :=
  ceilDiv (h.width * c.across) h.finestAcross

/-- The rows of samples of a component. -/
def Header.samplesDown (h : Header) (c : Component) : Nat :=
  ceilDiv (h.height * c.down) h.finestDown

/-- Groups of all components in a row. -/
def Header.groupsAcross (h : Header) : Nat := ceilDiv h.width (8 * h.finestAcross)

/-- Rows of groups of all components. -/
def Header.groupsDown (h : Header) : Nat := ceilDiv h.height (8 * h.finestDown)

/-- Whether the components can be read. -/
def Header.isRegular (h : Header) : Bool :=
  h.components.length = h.layers &&
    h.components.all fun c => 1 ≤ c.across && c.across ≤ 4 && 1 ≤ c.down && c.down ≤ 4 &&
      h.finestAcross % c.across = 0 && h.finestDown % c.down = 0

/-- The blocks of all components before any scan. -/
def Header.emptyBlocks (h : Header) : Array Blocks :=
  (h.components.map fun c =>
    let across := h.groupsAcross * c.across
    ⟨across, Array.replicate (across * (h.groupsDown * c.down)) #[]⟩).toArray

/-- The plan of a scan, if its segment and the tables it refers to make sense. -/
def planOf? (h : Header) (t : Tables) (body : ByteArray) : Option Plan := do
  let n := byteAt body 0
  if n < 1 || 4 < n || body.size ≠ 2 * n + 4 then none
  let parts ← (List.range n).mapM fun i => do
    let id := byteAt body (1 + 2 * i)
    let codes := byteAt body (2 + 2 * i)
    let index ← h.components.findIdx? (·.id = id)
    let c ← h.components[index]?
    let means ← t.means.lookup (codes / 16)
    let _ ← t.steps.lookup c.table
    if means.symbols.any (15 < ·) then none
    let means ← Decoder.ofTable? means
    let rest ← Decoder.ofTable? (← t.rest.lookup (codes % 16))
    return (⟨index, means, rest, c.across, c.down⟩, c)
  match parts with
  | [(p, c)] =>
    return ⟨[{ p with across := 1, down := 1 }], ceilDiv (h.samplesAcross c) 8,
      ceilDiv (h.samplesDown c) 8, t.restartInterval⟩
  | _ =>
    if 10 < parts.foldl (fun n (p, _) => n + p.across * p.down) 0 then none
    return ⟨parts.map (·.1), h.groupsAcross, h.groupsDown, t.restartInterval⟩

/-- The place from which on the bytes are of no use when no marker is found. -/
def beforeOnes (b : ByteArray) : Nat → Nat
  | 0 => 0
  | n + 1 => if byteAt b n = 0xFF then beforeOnes b n else n + 1

/-- The scans that were read: the blocks of all components, and the steps they are in, which a
component has once a scan needs them. -/
structure Frame where
  blocks : Array Blocks
  steps : List (Nat × List Nat)

/-- Notes the steps of the components of a scan. -/
def Frame.latch (f : Frame) (h : Header) (t : Tables) (p : Plan) : Frame :=
  { f with steps := f.steps ++ p.parts.map fun part =>
      (part.index, (t.steps.lookup ((h.components[part.index]?).map (·.table) |>.getD 0)).getD []) }

mutual

/-- Reads the scan that starts at a place and all that follow. When the first one has all components
there must be no other. -/
def readFrom (h : Header) (b : ByteArray) (fuel place : Nat) (body : ByteArray) (t : Tables)
    (f : Frame) (isFirst : Bool) : Except Stop Frame :=
  match fuel with
  | 0 => .ok f
  | fuel + 1 =>
    match planOf? h t body with
    | none => .error .broken
    | some plan =>
      match readScan plan b place f.blocks with
      | .error e => .error e
      | .ok s =>
        let f := { f.latch h t plan with blocks := s.blocks }
        readMarkers h b fuel s.bits.place s.bits.marker t f
          (isFirst && plan.parts.length = h.components.length)

/-- Reads markers and segments after a scan. -/
def readMarkers (h : Header) (b : ByteArray) (fuel place : Nat) (marker : Option Nat) (t : Tables)
    (f : Frame) (isWhole : Bool) : Except Stop Frame :=
  match fuel with
  | 0 => .ok f
  | fuel + 1 =>
    match marker.map ((place, ·)) |>.or (findMarker b b.size place) with
    | none => .error (.starved (max place (beforeOnes b b.size)))
    | some (place, marker) =>
      if marker = 0xD9 then .ok f
      else if standsAlone marker || marker < 0xC0 then readMarkers h b fuel place none t f isWhole
      else
        let after := place + be16At b place
        if b.size < place + 2 || b.size < after then .error (.starved place)
        else
          let body := b.extract (place + 2) after
          if marker = scanMarker then
            if isWhole then .error .broken else readFrom h b fuel after body t f false
          else
            match t.take ⟨marker, body⟩ with
            | none => .error .broken
            | some t => readMarkers h b fuel after none t f isWhole

end

/-! ## Samples -/

/-- The samples of a component block by block, and how many samples of the finest component stand
across and down for each. -/
structure Plane where
  width : Nat
  height : Nat
  across : Nat
  blocks : Array (Array UInt8)
  spreadAcross : Nat
  spreadDown : Nat
deriving Inhabited

/-- The plane of a component. -/
def planeOf (h : Header) (f : Frame) (index : Nat) : Plane :=
  let c := (h.components[index]?).getD default
  let blocks := f.blocks.getD index default
  let steps := ((f.steps.lookup index).getD []).toArray
  ⟨h.samplesAcross c, h.samplesDown c, blocks.across,
    blocks.all.map fun block =>
      inverse (block.mapIdx fun i (v : Int) => v * (steps.getD i 0 : Nat)),
    h.finestAcross / max 1 c.across, h.finestDown / max 1 c.down⟩

namespace Plane

/-- A sample. -/
def sample (p : Plane) (x y : Nat) : Nat :=
  ((p.blocks.getD (y / 8 * p.across + x / 8) #[]).getD (8 * (y % 8) + x % 8) 0).toNat

/-- The nearer of the neighbours, in a row or column of so many, of a sample that is spread to two:
the one before for the first, the one after for the second. -/
def neighbour (i size : Nat) : Nat :=
  if i % 2 = 0 then i / 2 - 1 else min (i / 2 + 1) (size - 1)

/-- A sample of the picture: three parts of the nearest sample and one of the next neighbour, across
and down, where a component has half the samples of the finest one. Narrow components are spread
without regard to neighbours. -/
def spread (p : Plane) (x y : Nat) : Nat :=
  let across := p.spreadAcross
  let down := p.spreadDown
  let column := x / across
  let row := y / down
  let next := neighbour x p.width
  if across = 2 && down = 1 && 2 < p.width then
    (3 * p.sample column row + p.sample next row + (if x % 2 = 0 then 1 else 2)) / 4
  else if across = 2 && down = 2 && 2 < p.width then
    let other := neighbour y p.height
    let sum (c : Nat) : Nat := 3 * p.sample c row + p.sample c other
    (3 * sum column + sum next + (if x % 2 = 0 then 8 else 7)) / 16
  else if across = 1 && down = 2 then
    (3 * p.sample column row + p.sample column (neighbour y p.height) +
      (if y % 2 = 0 then 1 else 2)) / 4
  else p.sample column row

end Plane

/-- Luminance and colour differences as red, green and blue, in 65536ths. -/
def toRgb (y cb cr : Nat) : Rgb :=
  let b : Int := cb - 128
  let r : Int := cr - 128
  ⟨clipByte (y + (91881 * r + 32768) / 65536),
    clipByte (y + (-22554 * b - 46802 * r + 32768) / 65536),
    clipByte (y + (116130 * b + 32768) / 65536)⟩

/-- Whether three components are luminance and colour differences. -/
def Header.hasLuminance (h : Header) : Bool :=
  if h.usual then true
  else
    match h.announced with
    | some transform => transform ≠ 0
    | none => h.components.map (·.id) ≠ [82, 71, 66]

/-- The canvas of the scans. Inks are stored as what they leave of the light. -/
def canvasOf (h : Header) (f : Frame) : Canvas :=
  let planes := (List.range h.layers).map (planeOf h f) |>.toArray
  let at_ (i x y : Nat) : Nat := (planes.getD i default).spread x y
  let byte (i x y : Nat) : UInt8 := UInt8.ofNat (at_ i x y)
  match h.layers with
  | 1 => .grey (Raster.ofFn h.width h.height (byte 0))
  | 3 => .rgb (Raster.ofFn h.width h.height fun x y =>
      if h.hasLuminance then toRgb (at_ 0 x y) (at_ 1 x y) (at_ 2 x y)
      else ⟨byte 0 x y, byte 1 x y, byte 2 x y⟩)
  | _ => .cmyk (Raster.ofFn h.width h.height fun x y =>
      if h.announced = some 2 then
        let c := toRgb (at_ 0 x y) (at_ 1 x y) (at_ 2 x y)
        ⟨c.red, c.green, c.blue, 255 - byte 3 x y⟩
      else ⟨255 - byte 0 x y, 255 - byte 1 x y, 255 - byte 2 x y, 255 - byte 3 x y⟩)

/-- The black canvas of a header. -/
def blank (h : Header) : Canvas :=
  match h.layers with
  | 1 => .grey (Raster.solid h.width h.height 0)
  | 3 => .rgb (Raster.solid h.width h.height default)
  | _ => .cmyk (Raster.solid h.width h.height ⟨0, 0, 0, 255⟩)

/-- The canvas of a file with a header. -/
def readCanvas (b : ByteArray) (h : Header) (segments : List Segment) (place : Nat) :
    Except Unreadable Canvas :=
  match segments.find? fun s => startsFrame s.marker with
  | none => .error .unknown
  | some frame =>
    if [0xC2, 0xC9, 0xCA].contains frame.marker then .ok (blank h)
    else if frame.marker ≠ 0xC0 && frame.marker ≠ 0xC1 || !h.isRegular then .error .brokenStream
    else
      match segments.foldlM Tables.take ⟨[], [], [], 0⟩, segments.getLast? with
      | some tables, some scan =>
        match readFrom h b (b.size + 2) place scan.body tables ⟨h.emptyBlocks, []⟩ true with
        | .ok f => .ok (canvasOf h f)
        | .error (.starved place) => .error (.missingSamples (b.size - place))
        | .error .broken => .error .brokenStream
      | _, _ => .error .brokenStream

/-- The picture of a file, upright. -/
def read (b : ByteArray) : Except Unreadable Picture := do
  let (h, segments, place) ← readHeader b
  let canvas ← readCanvas b h segments place
  let o ← h.orientation?
  return (Picture.plain canvas).upright o

end Reencode.Jpeg
