import Reencode.Bytes.Stored
import Reencode.Failure

/-!
# Archives

An archive takes files one after the other and is finished once; after that it takes no more. A
member's name ends where the requested name has a NUL; it must neither be empty nor be longer than
two bytes can tell. The compression level is looked at when a member is packed. A file that is
refused leaves the archive as it was.
-/
namespace Reencode

/-- A file in an archive. -/
structure ArchiveMember where
  name : String
  data : ByteArray

/-- An archive that is being built, or is finished, with the names its members were added under. -/
structure Archive where
  level : Int
  members : List ArchiveMember
  names : List String
  finished : Bool

namespace Archive

/-- The number of the packing method in archives: deflate. -/
def method : Nat := 8

/-- An archive without members. -/
def empty (level : Int) : Archive := ⟨level, [], [], false⟩

/-- Whether there is such a compression level. -/
def isLevel (level : Int) : Bool := decide (-1 ≤ level ∧ level ≤ 9)

/-- The name a member gets for a requested one. -/
def memberName (name : String) : String :=
  String.ofList (name.toList.takeWhile (· != '\x00'))

/-- The longest name of a member, in bytes. -/
def longestMemberName : Nat := 65535

/-- Adds a file. -/
def add (a : Archive) (name : String) (data : ByteArray) : Except Failure Unit × Archive :=
  if a.finished then (.error (.runtime "归档已完成，不能继续添加"), a)
  else if memberName name = "" then (.error (.outside .index "string index out of range"), a)
  else if longestMemberName < (memberName name).utf8ByteSize then
    (.error (.outside .layout "ushort format requires 0 <= number <= 65535"), a)
  else if !isLevel a.level then (.error (.value "Invalid initialization option"), a)
  else
    (.ok (), { a with
      members := a.members ++ [⟨memberName name, data⟩]
      names := a.names ++ [name] })

/-- Finishes the archive; a finished one stays as it is. -/
def finalize (a : Archive) : Except Failure Unit × Archive := (.ok (), { a with finished := true })

/-- Adds files in order. -/
def addAll (a : Archive) : List (String × ByteArray) → Except Failure Archive
  | [] => .ok a
  | (name, data) :: rest =>
    match a.add name data with
    | (.ok _, a) => a.addAll rest
    | (.error e, _) => .error e

/-! ## Bytes -/

/-- The fields that the headers of a member have in common. -/
def commonHeader (m : ArchiveMember) (packed : ByteArray) : List UInt8 :=
  let name := m.name.toUTF8
  let isAscii := name.data.all (· < 128)
  Bytes.le16 20 ++ Bytes.le16 (if isAscii then 0 else 0x800) ++ Bytes.le16 method ++
    Bytes.le16 0 ++ Bytes.le16 0x21 ++ Bytes.le32 (Bytes.crc32 m.data).toNat ++
    Bytes.le32 packed.size ++ Bytes.le32 m.data.size ++ Bytes.le16 name.size ++ Bytes.le16 0

/-- A member with its header. -/
def localRecord (m : ArchiveMember) : ByteArray :=
  let packed := Bytes.deflateStored m.data
  Bytes.ofList (Bytes.le32 0x04034B50 ++ commonHeader m packed) ++ m.name.toUTF8 ++ packed

/-- A member's line in the directory of the archive. -/
def directoryRecord (m : ArchiveMember) (offset : Nat) : ByteArray :=
  Bytes.ofList (Bytes.le32 0x02014B50 ++ Bytes.le16 0x0314 ++
    commonHeader m (Bytes.deflateStored m.data) ++ Bytes.le16 0 ++ Bytes.le16 0 ++ Bytes.le16 0 ++
    Bytes.le32 0x01800000 ++ Bytes.le32 offset) ++ m.name.toUTF8

/-- The members' records, and their lines in the directory, from an offset on. -/
def records : Nat → List ArchiveMember → ByteArray × ByteArray
  | _, [] => (.empty, .empty)
  | offset, m :: rest =>
    let record := localRecord m
    let (others, directory) := records (offset + record.size) rest
    (record ++ others, directoryRecord m offset ++ directory)

/-- The archive as bytes. -/
def toBytes (a : Archive) : ByteArray :=
  let (files, directory) := records 0 a.members
  let count := Bytes.le16 a.members.length
  files ++ directory ++ Bytes.ofList (Bytes.le32 0x06054B50 ++ Bytes.le16 0 ++ Bytes.le16 0 ++
    count ++ count ++ Bytes.le32 directory.size ++ Bytes.le32 files.size ++ Bytes.le16 0)

end Archive
end Reencode
