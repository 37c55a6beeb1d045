/-!
# Words in bytes

Numbers of two and four bytes, the most or the least significant byte first. Reading beyond the end
reads zeros; callers that care compare sizes first.
-/
namespace Reencode.Bytes

/-- The byte at a position, zero beyond the end. -/
def byteAt (b : ByteArray) (i : Nat) : Nat := if h : i < b.size then b[i].toNat else 0

/-- Two bytes, least significant first. -/
def le16At (b : ByteArray) (i : Nat) : Nat := byteAt b i + 256 * byteAt b (i + 1)

/-- Four bytes, least significant first. -/
def le32At (b : ByteArray) (i : Nat) : Nat := le16At b i + 65536 * le16At b (i + 2)

/-- Two bytes, most significant first. -/
def be16At (b : ByteArray) (i : Nat) : Nat := 256 * byteAt b i + byteAt b (i + 1)

/-- Four bytes, most significant first. -/
def be32At (b : ByteArray) (i : Nat) : Nat := 65536 * be16At b i + be16At b (i + 2)

/-- A number in two bytes, least significant first. -/
def le16 (n : Nat) : List UInt8 := [UInt8.ofNat n, UInt8.ofNat (n / 256)]

/-- A number in four bytes, least significant first. -/
def le32 (n : Nat) : List UInt8 := le16 n ++ le16 (n / 65536)

/-- A number in two bytes, most significant first. -/
def be16 (n : Nat) : List UInt8 := [UInt8.ofNat (n / 256), UInt8.ofNat n]

/-- A number in four bytes, most significant first. -/
def be32 (n : Nat) : List UInt8 := be16 (n / 65536) ++ be16 n

/-- Bytes of a list. -/
def ofList (l : List UInt8) : ByteArray := ⟨l.toArray⟩

/-- The bytes of an ASCII text. -/
def ascii (s : String) : List UInt8 := s.toUTF8.data.toList

/-- The bytes from a position on, at most so many. -/
def slice (b : ByteArray) (start length : Nat) : ByteArray := b.extract start (start + length)

/-- Whether given bytes stand at a position. -/
def hasAt (b : ByteArray) (i : Nat) (expected : List UInt8) : Bool :=
  (slice b i expected.length).data.toList == expected

end Reencode.Bytes
