import Reencode.Bytes.Checksum
import Reencode.Bytes.Words

/-!
# Deflate streams without compression

A deflate stream may hold its data as it is, in blocks of at most 65535 bytes. Any reader of deflate
streams can read it.
-/
namespace Reencode.Bytes

/-- The most bytes of a stored block. -/
def storedLimit : Nat := 65535

/-- One stored block. -/
def storedBlock (last : Bool) (data : ByteArray) : ByteArray :=
  ofList ((if last then 1 else 0) :: le16 data.size ++ le16 (65535 - data.size)) ++ data

/-- So many full blocks and a last one, from a position on. -/
def storedBlocks (data : ByteArray) (start : Nat) : Nat → ByteArray
  | 0 => storedBlock true (data.extract start data.size)
  | full + 1 =>
    storedBlock false (slice data start storedLimit) ++
      storedBlocks data (start + storedLimit) full

/-- A deflate stream of data. -/
def deflateStored (data : ByteArray) : ByteArray :=
  storedBlocks data 0 ((data.size - 1) / storedLimit)

/-- A deflate stream with the header and checksum of the zlib format. -/
def zlibStored (data : ByteArray) : ByteArray :=
  ofList [0x78, 0x01] ++ deflateStored data ++ ofList (be32 (adler32 data).toNat)

end Reencode.Bytes
