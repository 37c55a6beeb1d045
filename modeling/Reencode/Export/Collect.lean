import Reencode.Export.Archive
import Reencode.Naming.Unique
import Reencode.Session.Outcomes

/-!
# Exporting

What is exported are the outputs that are there at that moment, each under the name of its image
with the extension of the format it was made in. Files exported together get different names.
Entries without an output are skipped.
-/
namespace Reencode

/-- A file to be exported. -/
structure ExportedFile where
  name : String
  data : ByteArray

/-- What an entry exports, if it has an output that can be read. -/
def Entry.exported? (e : Entry) : Option ExportedFile :=
  match e.readOutput with
  | .ok (some (data, params)) => some ⟨exportName e.name params.format, data⟩
  | _ => none

/-- Gives files different names. -/
def ExportedFile.rename (u : UniqueNames) : List ExportedFile → List ExportedFile
  | [] => []
  | f :: rest =>
    let (name, u) := u.allocate f.name
    ⟨name, f.data⟩ :: rename u rest

/-- What the entries of a collection export, under different names. -/
def Collection.exported {S : Type} (c : Collection S) : List ExportedFile :=
  ExportedFile.rename .empty (c.entries.filterMap Entry.exported?)

/-- The number of entries that export nothing. -/
def Collection.skipped {S : Type} (c : Collection S) : Nat :=
  (c.entries.filter (·.exported?.isNone)).length

namespace Session

variable {S O : Type}

/-- The files to export, and a word on what is skipped. -/
def collect : Act S O (List ExportedFile) := do
  let c ← collection?
  if c.skipped ≠ 0 then
    log .info ("导出时跳过 " ++ toString c.skipped ++ " 张尚未完成压缩的图片")
  return c.exported

/-- An archive of the files to export, and their names. -/
def buildArchive (level : Int) : Act S O (Archive × List String) := do
  let files ← collect
  let archive ← lift ((Archive.empty level).addAll (files.map fun f => (f.name, f.data)))
  log .debug ("导出归档，共 " ++ toString files.length ++ " 个文件")
  let (result, archive) := archive.finalize
  lift result
  return (archive, files.map (·.name))

/-- An archive of everything there is to export. -/
def exportAll : Act S O Archive := do
  return (← buildArchive Settings.compressionLevel).1

/-- The file of one entry. -/
def exportOne (id : EntryId) : Act S O ExportedFile := do
  match (← collection?).get? id with
  | none => throw (.own .notFound (Message.entryNotFound id) (some id))
  | some e =>
    match e.exported? with
    | none => throw (.own .notReady (Message.entryNotReady id e.name) (some id))
    | some f => return f

/-- An archive that was written. -/
structure WrittenArchive where
  path : FilePath
  archive : Archive
  names : List String

/-- Makes a directory and those that lead to it. What was made before one is refused stays. -/
def makeDirectories (p : FilePath) : Act S O Unit := do
  let made := (← get).files.tryDirectories p
  modify fun s => { s with files := made.2 }
  lift made.1

/-- Writes a file. -/
def writeFile (p : FilePath) (data : ByteArray) : Act S O Unit := do
  let files ← lift ((← get).files.write p data)
  modify fun s => { s with files }

/-- Writes an archive of everything there is to export, under the usual name if a directory is
given. -/
def writeArchive (destination : FilePath) : Act S O WrittenArchive := do
  let s ← get
  let isDirectory ← lift (s.files.isDirectory destination)
  let path :=
    if isDirectory then destination.join (FilePath.ofString s.settings.archiveName) else destination
  makeDirectories path.parent
  let (archive, names) ← buildArchive Settings.compressionLevel
  writeFile path archive.toBytes
  log .info ("归档已写入: " ++ path.text ++ " (" ++ toString names.length ++ " 个文件)")
  return ⟨path, archive, names⟩

/-- Writes the file of one entry into a directory. -/
def writeOne (id : EntryId) (directory : FilePath) : Act S O FilePath := do
  let f ← exportOne id
  makeDirectories directory
  let path := directory.join (FilePath.ofString f.name)
  writeFile path f.data
  log .info ("文件已写入: " ++ path.text)
  return path

end Session
end Reencode
