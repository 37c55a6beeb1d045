import Reencode.Bytes.Stored
import Reencode.Codec.Png.Read
import Reencode.Picture.Layout

/-!
# Writing PNG files

A picture is written with the kind and depth that hold its samples exactly; indexes get as few bits
as their palette allows. Rows are stored as they are, without filters, in a stream without
compression: such a file is as good as any other, only longer.
-/
namespace Reencode.Png

open Bytes

/-- One chunk. -/
def chunk (name : String) (body : ByteArray) : ByteArray :=
  let part := ofList (ascii name) ++ body
  ofList (be32 body.size) ++ part ++ ofList (be32 (crc32 part).toNat)

/-- The number of colours that are written of a palette. -/
def paletteSize (p : Palette) : Nat := max 1 (min 256 p.size)

/-- The bits of an index into so many colours. -/
def indexDepth (colours : Nat) : Nat :=
  if colours ≤ 2 then 1 else if colours ≤ 4 then 2 else if colours ≤ 16 then 4 else 8

/-- The colours of a palette, made up with black. -/
def paletteBody (p : Palette) : ByteArray :=
  (3 * paletteSize p).fold (fun i _ b => b.push (p.byte i)) .empty

/-- Indexes in so many bits each, the first one highest, each row on its own. A single bit tells
zero from the rest; otherwise an index with more bits reaches into the one before. -/
def packIndexes (depth : Nat) (r : Raster UInt8) : ByteArray :=
  let each := 8 / depth
  r.height.fold (fun y _ b =>
    let row := r.row y
    ((r.width + each - 1) / each).fold (fun i _ b =>
      b.push (each.fold (fun k _ byte =>
        let index := row.getD (i * each + k) 0
        let index := if depth = 1 then (if index = 0 then 0 else 1) else index
        byte ||| index <<< UInt8.ofNat (8 - depth * (k + 1))) 0)) b) .empty

/-- The layout of a canvas and its rows, without gaps; some canvases cannot be stored. -/
def rowsOf? (c : Canvas) : Option (Layout × ByteArray) :=
  match c with
  | .bilevel r => some (⟨.grey, 1⟩, r.packed)
  | .grey _ => some (⟨.grey, 8⟩, c.toBytes)
  | .greyAlpha _ => some (⟨.greyAlpha, 8⟩, c.toBytes)
  | .indexed r p =>
    let depth := indexDepth (paletteSize p)
    some (⟨.indexed, depth⟩, packIndexes depth r)
  | .rgb _ => some (⟨.rgb, 8⟩, c.toBytes)
  | .rgba _ => some (⟨.rgba, 8⟩, c.toBytes)
  | .word r => some (⟨.grey, 16⟩, r.flatten fun n => be16 n.toNat)
  | .integer r => some (⟨.grey, 16⟩, r.flatten fun n => be16 (min 65535 n.toInt.toNat))
  | _ => none

/-- The rows, each after the mark that it has no filter. -/
def marked (rowBytes height : Nat) (rows : ByteArray) : ByteArray :=
  height.fold (fun y _ b => b.push 0 ++ slice rows (y * rowBytes) rowBytes) .empty

/-- The body of the chunk that says what is transparent, if a picture of the layout may say so. -/
def transparencyBody (l : Layout) : Option Transparency → Except Failure (Option ByteArray)
  | none => .ok none
  | some t =>
    let uneven (kind : String) : Failure :=
      .type ("'<' not supported between instances of '" ++ kind ++ "' and 'int'")
    match l.kind, t with
    | _, .table alphas =>
      if alphas.size = 0 then .ok none
      else
        match l.kind, alphas.data.toList with
        | .grey, _ => .error (uneven "bytes")
        | .rgb, [r, g, b] => .ok (some (ofList [0, r, 0, g, 0, b]))
        | .rgb, bytes => .error (.value (
            if bytes.length < 3 then
              "not enough values to unpack (expected 3, got " ++ toString bytes.length ++ ")"
            else "too many values to unpack (expected 3)"))
        | _, _ => .ok none
    | .grey, .index i => .ok (some (ofList (be16 (min 65535 i.toNat))))
    | .grey, .colour [] | .rgb, .colour [] => .ok none
    | .grey, .colour _ => .error (uneven "tuple")
    | .rgb, .index _ => .error (.type "cannot unpack non-iterable int object")
    | .rgb, .colour channels =>
      if channels.length < 3 then
        .error (.value ("not enough values to unpack (expected 3, got " ++
          toString channels.length ++ ")"))
      else if 3 < channels.length then .error (.value "too many values to unpack (expected 3)")
      else if channels.all fun i => 0 ≤ i ∧ i ≤ 65535 then
        .ok (some (ofList (channels.flatMap fun i => be16 i.toNat)))
      else .error (.outside .layout "'H' format requires 0 <= number <= 65535")
    | _, _ => .ok none

/-- The file of a picture. -/
def write (p : Picture) : Except Failure ByteArray := do
  let c := p.canvas
  match rowsOf? c with
  | none => throw (.outside .io ("cannot write mode " ++ c.mode.name ++ " as PNG"))
  | some (l, rows) =>
    if c.isEmpty then throw (.value "cannot write empty image")
    let transparency ← transparencyBody l p.transparency
    let header := be32 c.width ++ be32 c.height ++
      [UInt8.ofNat l.depth, UInt8.ofNat l.kind.code, 0, 0, 0]
    let palette := match c.palette? with
      | some p => chunk "PLTE" (paletteBody p)
      | none => .empty
    return ofList signature ++ chunk "IHDR" (ofList header) ++ palette ++
      (transparency.map (chunk "tRNS")).getD .empty ++
      chunk "IDAT" (zlibStored (marked (l.rowBytes c.width) c.height rows)) ++
      chunk "IEND" .empty

end Reencode.Png
