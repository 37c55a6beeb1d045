import Reencode.Bytes.PrefixCode
import Reencode.Codec.Jpeg.Segments
import Reencode.Number.Power

/-!
# Scans of JPEG files

A scan holds the frequencies of the blocks of some components, in prefix codes. Bits are taken from
the high end of each byte; a zero byte follows each byte of ones, because anything else would be a
marker. A reader fills its buffer of bits well ahead, and goes on after a block group only when the
group is whole; so, when the bytes run out, it is the last whole group that tells how many bytes
were of no use.
-/
namespace Reencode.Jpeg

open Bytes

/-- Why reading a scan stops: the bytes from a place on were of no use, or the scan makes no sense.
-/
inductive Stop where
  | starved (place : Nat)
  | broken
deriving DecidableEq, Inhabited

/-! ## Bits -/

/-- Bits read ahead, the next one highest, and where the next byte is. After a marker bits are made
up. -/
structure BitBuffer where
  place : Nat
  value : Nat
  count : Nat
  marker : Option Nat
  isShort : Bool
deriving Inhabited

/-- Reading from a scan. -/
abbrev ScanM (α : Type) := ReaderT ByteArray (StateT BitBuffer (Except Stop)) α

namespace BitBuffer

/-- The number of bits that a full buffer has at least. -/
def full : Nat := 57

/-- The place of the first byte from one on that is not all ones. -/
def pastOnes (b : ByteArray) : Nat → Nat → Nat
  | 0, place => place
  | fuel + 1, place =>
    if place < b.size && byteAt b place = 0xFF then pastOnes b fuel (place + 1) else place

/-- Fills the buffer, byte by byte, until it is full or a marker is met. -/
def fill (b : ByteArray) : Nat → BitBuffer → Except Stop BitBuffer
  | 0, s => .ok s
  | fuel + 1, s =>
    if s.marker.isSome || full ≤ s.count then .ok s
    else if b.size ≤ s.place then .error (.starved s.place)
    else
      let c := byteAt b s.place
      let next := if c = 0xFF then pastOnes b b.size (s.place + 1) else s.place
      if b.size ≤ next then .error (.starved s.place)
      else if c = 0xFF && byteAt b next ≠ 0 then
        .ok { s with place := next + 1, marker := some (byteAt b next) }
      else
        fill b fuel { s with
          place := next + 1, value := s.value * 256 + c, count := s.count + 8 }

end BitBuffer

/-- Fills the buffer if there are fewer bits than needed; after a marker the rest is zeros. -/
def ensure (needed : Nat) : ScanM Unit := fun b => do
  let s ← get
  if s.count < needed then
    let s ← (BitBuffer.fill b 8 s : Except Stop BitBuffer)
    if s.count < needed then
      set { s with
        value := s.value * twoTo (BitBuffer.full - s.count)
        count := BitBuffer.full
        isShort := true }
    else set s

/-- Fills the buffer if there are fewer bits than would be good, but makes nothing up. -/
def prefer (wanted : Nat) : ScanM Unit := fun b => do
  let s ← get
  if s.count < wanted then set (← (BitBuffer.fill b 8 s : Except Stop BitBuffer))

/-- Takes bits that are there. -/
def takeBits (n : Nat) : ScanM Nat := modifyGet fun s =>
  let unit := twoTo (s.count - n)
  (s.value / unit, { s with value := s.value % unit, count := s.count - n })

/-- A number of so many bits. -/
def number (n : Nat) : ScanM Nat := do
  ensure n
  takeBits n

/-- A signed number of so many bits: the lower half of the range is negative. -/
def signedNumber (n : Nat) : ScanM Int := do
  if n = 0 then return 0
  let v ← number n
  return if v < twoTo (n - 1) then (v : Int) - twoTo n + 1 else v

/-! ## Symbols -/

/-- A code ready for reading: for each length the first codeword, the number of codewords, and the
number of shorter ones. -/
structure Decoder where
  levels : Array (Nat × Nat × Nat)
  symbols : Array Nat
deriving Inhabited

/-- Makes a code ready, if there is room for its codewords. -/
def Decoder.ofTable? (t : CodeTable) : Option Decoder :=
  if t.counts.length = 16 && (PrefixCode.room? t.counts).isSome then
    let step (acc : Array (Nat × Nat × Nat) × Nat × Nat) (n : Nat) :=
      let (levels, first, shorter) := acc
      (levels.push (first, n, shorter), 2 * (first + n), shorter + n)
    some ⟨(t.counts.foldl step (#[], 0, 0)).1, t.symbols.toArray⟩
  else none

namespace Decoder

/-- The symbol of a codeword of a length, if it is one. -/
def symbol? (d : Decoder) (length code : Nat) : Option Nat :=
  match d.levels[length - 1]? with
  | some (first, n, shorter) =>
    if first ≤ code ∧ code < first + n then some (d.symbols.getD (shorter + (code - first)) 0)
    else none
  | none => none

/-- The symbol of a codeword of eight bits at most at the head of eight bits, with its length. -/
def short? (d : Decoder) (byte : Nat) : Option (Nat × Nat) :=
  (List.range 8).findSome? fun k =>
    (d.symbol? (k + 1) (byte / twoTo (7 - k))).map fun s => (k + 1, s)

/-- Lengthens a codeword bit by bit until it is one; what is never one counts as zero. -/
def lengthen (d : Decoder) : Nat → Nat → Nat → ScanM Nat
  | 0, _, _ => pure 0
  | fuel + 1, length, code =>
    match d.symbol? length code with
    | some s => pure s
    | none => do
      let next ← number 1
      lengthen d fuel (length + 1) (2 * code + next)

/-- One symbol. -/
def read (d : Decoder) : ScanM Nat := do
  prefer 8
  let s ← get
  if 8 ≤ s.count then
    match d.short? (s.value / twoTo (s.count - 8)) with
    | some (length, symbol) =>
      let _ ← takeBits length
      return symbol
    | none =>
      let code ← number 9
      d.lengthen 8 9 code
  else
    let code ← number 1
    d.lengthen 16 1 code

end Decoder

/-! ## Blocks -/

/-- The frequencies of a block after the mean, from a place in storage order on. -/
def details (d : Decoder) : Nat → Nat → Array Int → ScanM (Array Int)
  | 0, _, block => pure block
  | fuel + 1, k, block =>
    if 64 ≤ k then pure block
    else do
      let symbol ← d.read
      let zeros := symbol / 16
      let size := symbol % 16
      if size ≠ 0 then
        let v ← signedNumber size
        let place := storageOrder.getD (k + zeros) 63
        details d fuel (k + zeros + 1) (block.setIfInBounds place v)
      else if zeros = 15 then details d fuel (k + 16) block
      else return block

/-- One block after a block with a mean. -/
def readBlock (means rest : Decoder) (before : Int) : ScanM (Array Int) := do
  let difference ← signedNumber (← means.read)
  details rest 64 1 ((Array.replicate 64 0).setIfInBounds 0 (before + difference))

/-! ## Groups of blocks -/

/-- A component as a scan sees it. -/
structure Part where
  index : Nat
  means : Decoder
  rest : Decoder
  across : Nat
  down : Nat
deriving Inhabited

/-- What a scan consists of. An interval of zero means that there are no restarts. -/
structure Plan where
  parts : List Part
  groupsAcross : Nat
  groupsDown : Nat
  restartInterval : Nat

/-- The blocks of a component: how many in a row, and all of them by row. -/
structure Blocks where
  across : Nat
  all : Array (Array Int)
deriving Inhabited

/-- What has been read of a scan. -/
structure ScanState where
  bits : BitBuffer
  means : Array Int
  blocks : Array Blocks
  untilRestart : Nat
  nextRestart : Nat
deriving Inhabited

/-- One block of a group. -/
def readInGroup (p : Part) (column row : Nat) (s : ScanState) (b : ByteArray) :
    Except Stop ScanState := do
  let (block, bits) ← ((readBlock p.means p.rest (s.means.getD p.index 0)).run b).run s.bits
  return { s with
    bits
    means := s.means.setIfInBounds p.index (block.getD 0 0)
    blocks := s.blocks.modify p.index fun c =>
      { c with all := c.all.setIfInBounds (row * c.across + column) block } }

/-- One group of blocks. -/
def readGroup (plan : Plan) (column row : Nat) (b : ByteArray) (s : ScanState) :
    Except Stop ScanState :=
  plan.parts.foldlM (fun s p =>
    (List.range p.down).foldlM (fun s y =>
      (List.range p.across).foldlM (fun s x =>
        readInGroup p (column * p.across + x) (row * p.down + y) s b) s) s) s

/-- The place after the next marker, and the marker. -/
def findMarker (b : ByteArray) : Nat → Nat → Option (Nat × Nat)
  | 0, _ => none
  | fuel + 1, place =>
    if b.size ≤ place + 1 then none
    else if byteAt b place = 0xFF then
      let next := BitBuffer.pastOnes b b.size (place + 1)
      if b.size ≤ next then none
      else if byteAt b next = 0 then findMarker b fuel (next + 1)
      else some (next + 1, byteAt b next)
    else findMarker b fuel (place + 1)

/-- Goes past a restart marker; any other marker stays where it is, and ends the scan. -/
def restart (plan : Plan) (b : ByteArray) (s : ScanState) : Except Stop ScanState := do
  let (place, marker) ← match s.bits.marker with
    | some m => pure (s.bits.place, m)
    | none =>
      match findMarker b b.size s.bits.place with
      | some found => pure found
      | none => throw (.starved b.size)
  let expected := marker = 0xD0 + s.nextRestart
  return { s with
    bits := ⟨place, 0, 0, if expected then none else some marker, s.bits.isShort && !expected⟩
    means := s.means.map fun _ => 0
    untilRestart := plan.restartInterval
    nextRestart := (s.nextRestart + 1) % 8 }

/-- Reads so many groups from one on. A group that cannot be read whole leaves the bytes from its
place on. Once bits had to be made up, groups stay as they are. -/
def readGroups (plan : Plan) (b : ByteArray) : Nat → Nat → ScanState → Except Stop ScanState
  | 0, _, s => .ok s
  | n + 1, i, s => do
    let s ← if plan.restartInterval ≠ 0 && s.untilRestart = 0 then restart plan b s else pure s
    let next ←
      if s.bits.isShort then pure s
      else
        match readGroup plan (i % plan.groupsAcross) (i / plan.groupsAcross) b s with
        | .error (.starved _) => throw (.starved s.bits.place)
        | r => r
    readGroups plan b n (i + 1) { next with untilRestart := s.untilRestart - 1 }

/-- Reads a scan from a place on. -/
def readScan (plan : Plan) (b : ByteArray) (place : Nat) (blocks : Array Blocks) :
    Except Stop ScanState :=
  readGroups plan b (plan.groupsAcross * plan.groupsDown) 0
    ⟨⟨place, 0, 0, none, false⟩, blocks.map fun _ => 0, blocks, plan.restartInterval, 0⟩

end Reencode.Jpeg
