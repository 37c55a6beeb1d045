import Reencode.Failure
import Reencode.Files.Path

/-!
# File trees

A file tree is a set of directories and files under one root, and a working directory for paths
without a root. Names that lead through something that is not there, or through a file, fail; two
points lead up. Refusals carry the number and wording of the system, and the path as it was given.
-/
namespace Reencode

/-- What a name in a tree stands for. -/
inductive FileNode where
  | directory
  | file (data : ByteArray)

/-- Directories and files. Paths without a root start in the working directory. The nodes are
everything but the root, by the names that lead there, in order of creation. Files of an unreadable
name cannot be read; those in a locked place may not be. -/
structure FileTree where
  workingDirectory : List String
  nodes : List (List String × FileNode)
  unreadable : List String
  locked : List (List String)

/-- Why a step in the tree is refused: nothing is there, something is there already, the way leads
through a file, the path or a name in it is too long, or the file may not be read. -/
inductive FileRefusal where
  | missing
  | present
  | throughFile
  | directory
  | nameTooLong
  | denied
deriving DecidableEq

/-- The failure of a refused step at a path. -/
def FileRefusal.failure (r : FileRefusal) (path : FilePath) : Failure :=
  let (kind, wording) : OutsideKind × String := match r with
    | missing => (.fileMissing, "[Errno 2] No such file or directory")
    | present => (.fileExists, "[Errno 17] File exists")
    | throughFile => (.notDirectory, "[Errno 20] Not a directory")
    | directory => (.isDirectory, "[Errno 21] Is a directory")
    | nameTooLong => (.io, "[Errno 36] File name too long")
    | denied => (.io, "[Errno 13] Permission denied")
  .outside kind (wording ++ ": " ++ Text.quoted path.text)

namespace FileTree

/-- A tree with nothing but the directories that lead to the working directory. -/
def initial (workingDirectory : List String) : FileTree where
  workingDirectory := workingDirectory
  nodes := (List.range workingDirectory.length).map fun n =>
    (workingDirectory.take (n + 1), .directory)
  unreadable := []
  locked := []

/-- What stands at a place given by names from the root; the root is a directory. -/
def node? (t : FileTree) (place : List String) : Option FileNode :=
  if place.isEmpty then some .directory else t.nodes.lookup place

/-- The longest name the tree takes, in bytes. -/
def longestName : Nat := 255

/-- Follows names from a place, which must be a directory as long as names are left. -/
def follow (t : FileTree) (place : List String) : List String → Except FileRefusal (List String)
  | [] => .ok place
  | name :: rest =>
    match t.node? place with
    | none => .error .missing
    | some (.file _) => .error .throughFile
    | some .directory =>
      if longestName < name.utf8ByteSize then .error .nameTooLong
      else t.follow (if name = ".." then place.dropLast else place ++ [name]) rest

/-- The longest path the system takes, in bytes. -/
def longestPath : Nat := 4095

/-- Whether a path is longer than the system takes. -/
def isTooLong (p : FilePath) : Bool := longestPath < p.text.utf8ByteSize

/-- The place a path leads to; its last name need not be there. -/
def locate (t : FileTree) (p : FilePath) : Except FileRefusal (List String) :=
  if isTooLong p then .error .nameTooLong
  else t.follow (if p.root = "" then t.workingDirectory else []) p.names

/-- Whether a path holds a character the system takes for its end. -/
def holdsNul (p : FilePath) : Bool := p.names.any (·.toList.contains '\x00')

/-- What a path leads to, if anything. A path that is too long is refused and not just missing; one
that the system would take to end early leads nowhere. -/
def lookup (t : FileTree) (p : FilePath) : Except Failure (Option FileNode) :=
  if holdsNul p then .ok none
  else
    match t.locate p with
    | .ok place => .ok (t.node? place)
    | .error .nameTooLong => .error (FileRefusal.nameTooLong.failure p)
    | .error _ => .ok none

/-- Whether a path leads to a directory. -/
def isDirectory (t : FileTree) (p : FilePath) : Except Failure Bool :=
  (t.lookup p).map fun
    | some .directory => true
    | _ => false

/-- Whether a path leads to a file. -/
def isFile (t : FileTree) (p : FilePath) : Except Failure Bool :=
  (t.lookup p).map fun
    | some (.file _) => true
    | _ => false

/-- The size of the file that a path leads to, if any. -/
def sizeAt (t : FileTree) (p : FilePath) : Nat :=
  match t.lookup p with
  | .ok (some (.file data)) => data.size
  | _ => 0

/-- Sets what stands at a place. -/
def put (t : FileTree) (place : List String) (n : FileNode) : FileTree :=
  if (t.node? place).isSome then
    { t with nodes := t.nodes.map fun (other, old) => (other, if other = place then n else old) }
  else { t with nodes := t.nodes ++ [(place, n)] }

/-! ## Reading -/

/-- The bytes of a file. -/
def read (t : FileTree) (p : FilePath) : Except Failure ByteArray :=
  if p.name ∈ t.unreadable then .error (.outside .io "unreadable")
  else
    match t.locate p with
    | .error r => .error (r.failure p)
    | .ok place =>
      match t.node? place with
      | some (.file data) =>
        if place ∈ t.locked then .error (FileRefusal.denied.failure p) else .ok data
      | some .directory => .error (FileRefusal.directory.failure p)
      | none => .error (FileRefusal.missing.failure p)

/-- Whether a text comes before another one, by code points. -/
def nameLt (a b : String) : Bool := decide (a < b)

/-- Whether a list of names comes before another one: name by name, a shorter list first. -/
def namesLe : List String → List String → Bool
  | [], _ => true
  | _ :: _, [] => false
  | a :: as, b :: bs => nameLt a b || (a == b && namesLe as bs)

/-- The names that lead from a place to everything below it, in order. -/
def below (t : FileTree) (place : List String) : List (List String) :=
  let inside := t.nodes.filterMap fun (other, _) =>
    if other.length ≤ place.length then none
    else if other.take place.length = place then some (other.drop place.length)
    else none
  inside.mergeSort namesLe

/-- What stands below a directory, or directly in it, in order, as paths that start with its own. -/
def entries (t : FileTree) (p : FilePath) (recursive : Bool) : List FilePath :=
  match t.locate p with
  | .error _ => []
  | .ok place =>
    let names := (t.below place).filter fun names => recursive || names.length == 1
    names.map fun names => p.join ⟨"", names⟩

/-- Everything below a place as text, directories with a slash at their end, sorted. -/
def listing (t : FileTree) (place : List String) : List String :=
  let line (names : List String) : String := "/".intercalate names ++
    match t.node? (place ++ names) with
    | some .directory => "/"
    | _ => ""
  ((t.below place).map line).mergeSort fun a b => !nameLt b a

/-! ## Writing -/

/-- The failure of writing to a path that the system would take to end early. -/
def nulFailure : Failure := .value "embedded null byte"

/-- Makes one directory. -/
def makeDirectory (t : FileTree) (p : FilePath) : Except FileRefusal FileTree := do
  let place ← t.locate p
  match t.node? place with
  | some _ => throw .present
  | none => return t.put place .directory

/-- Whether a directory that was refused to be made is there all the same. -/
def keptDirectory (t : FileTree) (p : FilePath) (r : FileRefusal) : Except Failure Unit := do
  if !(← t.isDirectory p) then throw (r.failure p)

/-- Makes a directory, and those that lead to it, unless it is there. Missing ones are made from
the outside in: `depth` bounds how far up to go. Those that were made before one is refused stay. -/
def makeDirectoriesWithin (t : FileTree) (p : FilePath) : Nat → Except Failure Unit × FileTree
  | 0 => (.ok (), t)
  | depth + 1 =>
    match t.makeDirectory p with
    | .ok t => (.ok (), t)
    | .error .missing =>
      if p.names.isEmpty then (.error (FileRefusal.missing.failure p), t)
      else
        match t.makeDirectoriesWithin p.parent depth with
        | (.error failure, t) => (.error failure, t)
        | (.ok (), t) =>
          match t.makeDirectory p with
          | .ok t => (.ok (), t)
          | .error r => (t.keptDirectory p r, t)
    | .error r => (t.keptDirectory p r, t)

/-- Makes a directory, and those that lead to it, unless it is there; gives the tree as it is left
also when that is refused. -/
def tryDirectories (t : FileTree) (p : FilePath) : Except Failure Unit × FileTree :=
  if holdsNul p then (.error nulFailure, t) else t.makeDirectoriesWithin p (p.names.length + 1)

/-- Makes a directory, and those that lead to it, unless it is there. -/
def makeDirectories (t : FileTree) (p : FilePath) : Except Failure FileTree :=
  (t.tryDirectories p).1.map fun _ => (t.tryDirectories p).2

/-- Writes a file, replacing one that is there. -/
def write (t : FileTree) (p : FilePath) (data : ByteArray) : Except Failure FileTree :=
  if holdsNul p then .error nulFailure
  else
    match t.locate p with
    | .error r => .error (r.failure p)
    | .ok place =>
      match t.node? place with
      | some .directory => .error (FileRefusal.directory.failure p)
      | _ => .ok (t.put place (.file data))

/-- Writes files, making the directories that lead to them; what cannot be written is left out. -/
def withFiles (t : FileTree) (files : List (FilePath × ByteArray)) : FileTree :=
  files.foldl (fun t (p, data) =>
    match t.makeDirectories p.parent >>= (·.write p data) with
    | .ok t => t
    | .error _ => t) t

end FileTree
end Reencode
