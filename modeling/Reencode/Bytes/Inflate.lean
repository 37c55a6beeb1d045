import Reencode.Bytes.Checksum
import Reencode.Bytes.PrefixCode
import Reencode.Bytes.Words
import Reencode.Number.Power

/-!
# Unpacking deflate streams

A deflate stream in its zlib frame: a header of two bytes, blocks of stored bytes or of literals and
references back, and the Adler sum of everything. Bits are taken from the low end of each byte.

Whoever unpacks a stream wants a certain number of bytes at most, and may get the packed bytes in
pieces. So unpacking stops when a byte more than wanted would come out, and notes for each byte how
many packed bytes it took.
-/
namespace Reencode.Bytes

/-- How unpacking ended: the stream was complete, it is broken, it refers back to before its first
byte (which shows only when those bytes are wanted), its packed bytes ended, or another byte would
have come out than was wanted. -/
inductive StreamEnd where
  | finished
  | broken
  | tooFar
  | starved
  | full
deriving DecidableEq, Inhabited

/-- What has been unpacked: how many bits were taken, the bytes that came out, and for each of them
how many packed bytes had been taken by then. -/
structure Unpacked where
  bits : Nat
  output : ByteArray
  taken : Array Nat
deriving Inhabited

namespace Inflate

/-- The packed bytes, and how many bytes are wanted. -/
structure Source where
  packed : ByteArray
  wanted : Nat

/-- Unpacking, which may end at any time. -/
abbrev Unpack (α : Type) := ReaderT Source (ExceptT StreamEnd (StateM Unpacked)) α

/-- One bit. -/
def bit : Unpack Nat := fun s => do
  let u ← get
  if h : u.bits / 8 < s.packed.size then
    let b := s.packed[u.bits / 8].toNat / twoTo (u.bits % 8) % 2
    set { u with bits := u.bits + 1 }
    return b
  else throw .starved

/-- A number of so many bits, the lowest first. -/
def bits : Nat → Unpack Nat
  | 0 => pure 0
  | n + 1 => do
    let low ← bit
    return low + 2 * (← bits n)

/-- Lets a byte come out. -/
def emit (b : UInt8) : Unpack Unit := do
  let s ← read
  let full ← modifyGet fun u =>
    if u.output.size < s.wanted then
      (false, { u with output := u.output.push b, taken := u.taken.push ((u.bits + 7) / 8) })
    else (true, u)
  if full then throw .full

/-- Repeats the byte at a distance back, so many times. -/
def copy (distance : Nat) : Nat → Unpack Unit
  | 0 => pure ()
  | n + 1 => do
    let b ← modifyGet fun u => (byteAt u.output (u.output.size - distance), u)
    emit (UInt8.ofNat b)
    copy distance n

/-- The symbol of a code, if the bits are one. -/
def symbol (c : PrefixCode) : Unpack Nat := do
  match ← c.decode bit with
  | some s => return s
  | none => throw .broken

/-- The first length of each symbol above 256 and the number of bits that refine it. -/
def lengthRanges : Array (Nat × Nat) := #[(3, 0), (4, 0), (5, 0), (6, 0), (7, 0), (8, 0), (9, 0),
  (10, 0), (11, 1), (13, 1), (15, 1), (17, 1), (19, 2), (23, 2), (27, 2), (31, 2), (35, 3), (43, 3),
  (51, 3), (59, 3), (67, 4), (83, 4), (99, 4), (115, 4), (131, 5), (163, 5), (195, 5), (227, 5),
  (258, 0)]

/-- The first distance of each symbol and the number of bits that refine it. -/
def distanceRanges : Array (Nat × Nat) := #[(1, 0), (2, 0), (3, 0), (4, 0), (5, 1), (7, 1), (9, 2),
  (13, 2), (17, 3), (25, 3), (33, 4), (49, 4), (65, 5), (97, 5), (129, 6), (193, 6), (257, 7),
  (385, 7), (513, 8), (769, 8), (1025, 9), (1537, 9), (2049, 10), (3073, 10), (4097, 11),
  (6145, 11), (8193, 12), (12289, 12), (16385, 13), (24577, 13)]

/-- A number of a range. -/
def ranged (ranges : Array (Nat × Nat)) (i : Nat) : Unpack Nat := do
  match ranges[i]? with
  | some (first, extra) => return first + (← bits extra)
  | none => throw .broken

/-- Literals and references until the end of a block. -/
def codes (literals distances : PrefixCode) : Nat → Unpack Unit
  | 0 => throw .starved
  | fuel + 1 => do
    let s ← symbol literals
    if s < 256 then
      emit (UInt8.ofNat s)
      codes literals distances fuel
    else if s = 256 then return
    else
      let length ← ranged lengthRanges (s - 257)
      let distance ← ranged distanceRanges (← symbol distances)
      if (← modifyGet fun u => (u.output.size, u)) < distance then throw .tooFar
      copy distance length
      codes literals distances fuel

/-- The code for literals where a block does not bring its own. -/
def fixedLiterals : PrefixCode := .ofLengths
  (List.replicate 144 8 ++ List.replicate 112 9 ++ List.replicate 24 7 ++ List.replicate 8 8)

/-- The code for distances where a block does not bring its own. -/
def fixedDistances : PrefixCode := .ofLengths (List.replicate 32 5)

/-- Skips to the next byte. -/
def align : Unpack Unit := modify fun u => { u with bits := (u.bits + 7) / 8 * 8 }

/-- A byte at the start of a byte. -/
def byte : Unpack Nat := fun s => do
  let u ← get
  if h : u.bits / 8 < s.packed.size then
    set { u with bits := u.bits + 8 }
    return s.packed[u.bits / 8].toNat
  else throw .starved

/-- Stored bytes. -/
def stored : Nat → Unpack Unit
  | 0 => pure ()
  | n + 1 => do
    emit (UInt8.ofNat (← byte))
    stored n

/-- The order in which the lengths of the code for lengths come. -/
def lengthOrder : List Nat := [16, 17, 18, 0, 8, 7, 9, 6, 10, 5, 11, 4, 12, 3, 13, 2, 14, 1, 15]

/-- So many code lengths, the last one so far given. -/
def codeLengths (c : PrefixCode) (wanted : Nat) : Nat → Array Nat → Unpack (Array Nat)
  | 0, found => return found
  | fuel + 1, found => do
    if wanted ≤ found.size then return found
    let s ← symbol c
    if s < 16 then codeLengths c wanted fuel (found.push s)
    else
      let (value, times) ←
        if s = 16 then
          if found.isEmpty then
            let _ ← bits 2
            throw .broken
          pure (found.back?.getD 0, 3 + (← bits 2))
        else if s = 17 then pure (0, 3 + (← bits 3))
        else pure (0, 11 + (← bits 7))
      if wanted < found.size + times then throw .broken
      codeLengths c wanted fuel (found ++ Array.replicate times value)

/-- Whether a code may be used: it is complete, or a single codeword, or there is none. -/
def isUsable (c : PrefixCode) : Bool := c.isComplete || c.isSingle || c.isEmpty

/-- The codes that a block brings. -/
def ownCodes : Unpack (PrefixCode × PrefixCode) := do
  let literalCount := 257 + (← bits 5)
  let distanceCount := 1 + (← bits 5)
  let lengthCount := 4 + (← bits 4)
  if 286 < literalCount || 30 < distanceCount then throw .broken
  let lengths ← (List.range lengthCount).mapM fun _ => bits 3
  let ofSymbol (i : Nat) : Nat := ((lengthOrder.zip lengths).lookup i).getD 0
  let c := PrefixCode.ofLengths ((List.range 19).map ofSymbol)
  if !c.isComplete then throw .broken
  let found := (← codeLengths c (literalCount + distanceCount) 400 #[]).toList
  if found[256]? = some 0 then throw .broken
  let literals := PrefixCode.ofLengths (found.take literalCount)
  let distances := PrefixCode.ofLengths (found.drop literalCount)
  if !isUsable literals || !isUsable distances then throw .broken
  return (literals, distances)

/-- One block. -/
def block (fuel : Nat) : Unpack Unit := do
  match ← bits 2 with
  | 0 => do
    align
    let length ← bits 16
    let check ← bits 16
    if length + check ≠ 65535 then throw .broken
    stored length
  | 1 => codes fixedLiterals fixedDistances fuel
  | 2 => do
    let (literals, distances) ← ownCodes
    codes literals distances fuel
  | _ => throw .broken

/-- Blocks up to the last. -/
def blocks (symbols : Nat) : Nat → Unpack Unit
  | 0 => throw .starved
  | fuel + 1 => do
    let last ← bit
    block symbols
    if last = 1 then return
    blocks symbols fuel

/-- A whole stream: its header, its blocks and its checksum. Every block and every symbol takes at
least one bit, which bounds their number. -/
def stream : Unpack Unit := do
  let method ← bits 8
  let flags ← bits 8
  if (256 * method + flags) % 31 ≠ 0 || method % 16 ≠ 8 || 7 < method / 16 ||
      flags / 32 % 2 = 1 then
    throw .broken
  let fuel := 8 * (← read).packed.size + 1
  blocks fuel fuel
  align
  let a ← byte
  let b ← byte
  let c ← byte
  let d ← byte
  let sum ← modifyGet fun u => ((adler32 u.output).toNat, u)
  if ((a * 256 + b) * 256 + c) * 256 + d ≠ sum then throw .broken

end Inflate

/-- Unpacks a stream, so many bytes at most. -/
def inflate (packed : ByteArray) (wanted : Nat) : Unpacked × StreamEnd :=
  let (result, u) := Inflate.stream ⟨packed, wanted⟩ ⟨0, .empty, #[]⟩
  (u, match result with
    | .ok () => .finished
    | .error e => e)

end Reencode.Bytes
