import Reencode.Files.Tree
import Reencode.Log
import Reencode.Message
import Reencode.Naming.ImageName

/-!
# Finding and reading images

Images are read from files and directories. From a directory come the files with the extension of a
picture, in the order of their paths; a file that is named itself is read whatever its name. What is
not there, or cannot be read, is reported and left out, and the rest is read all the same. Only a
path that is too long to be looked at ends the reading: it is not reported but fails.
-/
namespace Reencode

/-- What a search gives one after the other, before it ends or fails. -/
structure Found where
  paths : List FilePath
  failure : Option Failure
  records : List LogRecord

/-- All that a search gives, if it does not fail. -/
def Found.result (found : Found) : Except Failure (List FilePath) :=
  found.failure.elim (.ok found.paths) .error

/-- What reading gives, and what it reports, be it that it fails in the end. -/
abbrev Reading : Type := Except Failure (List (String × ByteArray)) × List LogRecord

/-- Goes on reading, unless what came before has failed. -/
def Reading.andThen (first second : Reading) : Reading :=
  match first with
  | (.error e, records) => (.error e, records)
  | (.ok files, records) => (second.1.map (files ++ ·), records ++ second.2)

namespace FileTree

/-- The failure of looking at the first of some paths that is too long. -/
def refusal? (t : FileTree) (paths : List FilePath) : Option Failure :=
  paths.findSome? fun p =>
    match t.lookup p with
    | .error e => some e
    | .ok _ => none

/-- The directories among some paths in a directory, or below it. -/
def subdirectories (t : FileTree) (directory : FilePath) : List FilePath :=
  match t.locate directory with
  | .error _ => []
  | .ok place =>
    let names := (t.below place).filter fun names =>
      match t.node? (place ++ names) with
      | some .directory => true
      | _ => false
    names.map fun names => directory.join ⟨"", names⟩

/-- The images in a directory, and what there is to report. Going down lists every directory before
anything is found; then the paths are looked at one by one. -/
def findImages (t : FileTree) (directory : FilePath) (recursive : Bool) : Found :=
  match t.isDirectory directory with
  | .error e => ⟨[], some e, []⟩
  | .ok false => ⟨[], none, [⟨.warning, Message.directoryNotFound directory.text⟩]⟩
  | .ok true =>
    match t.refusal? (if recursive then t.subdirectories directory else []) with
    | some e => ⟨[], some e, []⟩
    | none =>
      let paths := t.entries directory recursive
      let seen := paths.takeWhile fun p => (t.lookup p).isOk
      ⟨seen.filter fun p => (t.isFile p).toOption.getD false && p.isImage, t.refusal? paths, []⟩

/-- Reads files; each gives its name and bytes, or a report. -/
def readFiles (t : FileTree) : List FilePath → List (String × ByteArray) × List LogRecord
  | [] => ([], [])
  | p :: rest =>
    let (files, records) := t.readFiles rest
    match t.read p with
    | .ok data => ((p.name, data) :: files, records)
    | .error e =>
      (files, ⟨.error, Message.operationFailed "读取文件" p.text (some e.text)⟩ :: records)

/-- Reads what one path stands for: the images of a directory, or a file. What is found before the
search fails is read before it does. -/
def readPath (t : FileTree) (recursive : Bool) (p : FilePath) : Reading :=
  match t.isDirectory p with
  | .error e => (.error e, [])
  | .ok true =>
    let found := t.findImages p recursive
    let (files, records) := t.readFiles found.paths
    (found.result.map fun _ => files, found.records ++ records)
  | .ok false =>
    match t.isFile p with
    | .error e => (.error e, [])
    | .ok true =>
      let (files, records) := t.readFiles [p]
      (.ok files, records)
    | .ok false => (.ok [], [⟨.warning, Message.fileNotFound p.text⟩])

/-- Reads what paths stand for, in order. -/
def readImages (t : FileTree) (recursive : Bool) : List FilePath → Reading
  | [] => (.ok [], [])
  | p :: rest => (t.readPath recursive p).andThen (t.readImages recursive rest)

end FileTree
end Reencode
