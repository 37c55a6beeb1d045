import Reencode.Bytes.Words
import Reencode.Codec.Exif
import Reencode.Codec.Jpeg.Tables
import Reencode.Params.Save

/-!
# Segments of JPEG files

A JPEG file is a sequence of markers, most of them followed by a segment. The segments before the
first scan are its header: they hold the size, the components, the tables and the attributes.
-/
namespace Reencode.Jpeg

open Bytes

/-- What every file starts with. -/
def signature : List UInt8 := [0xFF, 0xD8, 0xFF]

/-- A marker and its segment. -/
structure Segment where
  marker : Nat
  body : ByteArray

/-- Whether a marker stands on its own. -/
def standsAlone (marker : Nat) : Bool :=
  (0xD0 ≤ marker && marker ≤ 0xD9) || marker = 0xC8 || (0xF0 ≤ marker && marker ≤ 0xFD)

/-- The marker of a scan. -/
def scanMarker : Nat := 0xDA

/-- Whether a marker starts a frame, which tells size and components. -/
def startsFrame (marker : Nat) : Bool :=
  marker = 0xDE ||
    (0xC0 ≤ marker && marker ≤ 0xCF && marker ≠ 0xC4 && marker ≠ 0xC8 && marker ≠ 0xCC)

/-- One component of a picture: its number in the file, its samples across and down for as many as
the finest component has, and the number of its table of steps. -/
structure Component where
  id : Nat
  across : Nat
  down : Nat
  table : Nat
deriving DecidableEq, Inhabited

/-- What the segments say: no layers before a frame, tables of steps by number, whether the header
itself tells the resolution, whether the marker of the usual colours was seen, and the colours that
an application announced. -/
structure Header where
  width : Nat
  height : Nat
  layers : Nat
  components : List Component
  steps : List (Nat × List Nat)
  attributes : Option ByteArray
  hasResolution : Bool
  usual : Bool
  announced : Option Nat

/-- The header before any segment. -/
def Header.initial : Header := ⟨0, 0, 0, [], [], none, false, false, none⟩

/-- The components in a frame, of which none may be cut. -/
def componentsOf : List UInt8 → Option (List Component)
  | [] => some []
  | id :: sampling :: table :: rest =>
    (componentsOf rest).map fun later =>
      ⟨id.toNat, sampling.toNat / 16, sampling.toNat % 16, table.toNat⟩ :: later
  | _ => none

/-- The numbers of a table in storage order, row by row. -/
def unstore (stored : List Nat) : List Nat :=
  let placed := storageOrder.toList.zip stored
  (List.range 64).map fun i => (placed.lookup i).getD 0

/-- Tables of steps, later ones first in the result. -/
def stepTables (b : ByteArray) : Nat → Nat → List (Nat × List Nat) →
    Option (List (Nat × List Nat))
  | 0, _, found => some found
  | fuel + 1, place, found =>
    if b.size ≤ place then some found
    else
      let mark := byteAt b place
      let wide := mark / 16 ≠ 0
      let size := if wide then 128 else 64
      if b.size < place + 1 + size then none
      else
        let stored := (List.range 64).map fun i =>
          if wide then be16At b (place + 1 + 2 * i) else byteAt b (place + 1 + i)
        stepTables b fuel (place + 1 + size) ((mark % 16, unstore stored) :: found)

/-- What the header is after a segment, if the segment makes sense. -/
def Header.take (h : Header) (s : Segment) : Option Header :=
  let b := s.body
  if startsFrame s.marker then
    if b.size < 6 || byteAt b 0 ≠ 8 || !([1, 3, 4].contains (byteAt b 5)) then none
    else
      (componentsOf (b.extract 6 b.size).data.toList).map fun components =>
        { h with
          width := be16At b 3
          height := be16At b 1
          layers := byteAt b 5
          components := h.components ++ components }
  else
    match s.marker with
    | 0xDB => (stepTables b b.size 0 h.steps).map fun steps => { h with steps }
    | 0xE0 =>
      if hasAt b 0 (ascii "JFIF") then
        if b.size < 7 then none
        else some { h with
          hasResolution := h.hasResolution || (12 ≤ b.size && [1, 2].contains (byteAt b 7))
          usual := h.usual || 14 ≤ b.size && byteAt b 4 = 0 }
      else some h
    | 0xE1 =>
      if hasAt b 0 Exif.mark then
        some { h with attributes := match h.attributes with
          | none => some b
          | some a => some (a ++ b.extract 6 b.size) }
      else some h
    | 0xEE =>
      if hasAt b 0 (ascii "Adobe") then
        if b.size < 7 then none
        else some { h with announced := if 12 ≤ b.size then some (byteAt b 11) else h.announced }
      else some h
    | _ => some h

/-- Reads segments from a place on up to the first scan; gives the header, the segments and the
place after them. -/
def readSegments (b : ByteArray) : Nat → Nat → Header → List Segment →
    Except Unreadable (Header × List Segment × Nat)
  | 0, _, _, _ => .error .unknown
  | fuel + 1, place, h, found =>
    if b.size ≤ place then .error .unknown
    else if byteAt b place ≠ 0xFF then readSegments b fuel (place + 1) h found
    else if b.size ≤ place + 1 then .error .unknown
    else
      let marker := byteAt b (place + 1)
      if marker = 0xFF then readSegments b fuel (place + 1) h found
      else if marker = 0 || standsAlone marker then readSegments b fuel (place + 2) h found
      else if marker < 0xC0 then .error .unknown
      else if b.size < place + 4 then .error .unknown
      else
        let length := be16At b (place + 2) - 2
        let after := place + 4 + length
        if b.size < after then .error .cutPart
        else
          let segment : Segment := ⟨marker, slice b (place + 4) length⟩
          match h.take segment with
          | none => .error .unknown
          | some h =>
            if marker = scanMarker then .ok (h, (segment :: found).reverse, after)
            else readSegments b fuel after h (segment :: found)

/-- The header of a file, its segments, and the place of the first scan. -/
def readHeader (b : ByteArray) : Except Unreadable (Header × List Segment × Nat) := do
  let (h, segments, place) ← readSegments b (b.size + 1) 2 .initial []
  if h.layers = 0 || h.width = 0 || h.height = 0 then throw .unknown
  if Unreadable.pixelLimit < h.width * h.height then throw (.tooManyPixels (h.width * h.height))
  return (h, segments, place)

/-- The orientation. Attributes that make no sense count only if they were not needed for the
resolution before. -/
def Header.orientation? (h : Header) : Except Unreadable (Option Orientation) :=
  match h.attributes with
  | none => .ok none
  | some a =>
    match Exif.orientation? a with
    | .ok o => .ok o
    | .error e => if h.hasResolution then .error e else .ok none

/-- How the colour components are thinned out, if that is one of the known ways. -/
def Header.sampling? (h : Header) : Option Sampling :=
  match h.components.map fun c => (c.across, c.down) with
  | [(2, 1), (1, 1), (1, 1)] => some .halfWidth
  | [(2, 2), (1, 1), (1, 1)] => some .quarter
  | _ => none

/-- A table of steps. -/
def Header.stepTable (h : Header) (number : Nat) : List Nat := (h.steps.lookup number).getD []

end Reencode.Jpeg
