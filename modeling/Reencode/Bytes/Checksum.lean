/-!
# Checksums

The two checksums of packed data: the cyclic redundancy check with the polynomial `EDB88320`, and
the Adler sum modulo 65521.
-/
namespace Reencode.Bytes

/-- One bit of the redundancy check. -/
def crcBit (crc : UInt32) : UInt32 :=
  if crc &&& 1 = 1 then (crc >>> 1) ^^^ 0xEDB88320 else crc >>> 1

/-- One byte of the redundancy check. -/
def crcByte (crc : UInt32) (b : UInt8) : UInt32 :=
  crcBit (crcBit (crcBit (crcBit (crcBit (crcBit (crcBit (crcBit (crc ^^^ b.toUInt32))))))))

/-- The cyclic redundancy check of bytes. -/
def crc32 (b : ByteArray) : UInt32 := b.foldl crcByte 0xFFFFFFFF ^^^ 0xFFFFFFFF

/-- One byte of the Adler sums. -/
def adlerByte (sums : UInt32 × UInt32) (b : UInt8) : UInt32 × UInt32 :=
  let low := (sums.1 + b.toUInt32) % 65521
  (low, (sums.2 + low) % 65521)

/-- The Adler sum of bytes. -/
def adler32 (b : ByteArray) : UInt32 :=
  let (low, high) := b.foldl adlerByte (1, 0)
  high * 65536 + low

end Reencode.Bytes
