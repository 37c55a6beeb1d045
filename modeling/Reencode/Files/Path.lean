/-!
# Paths

A path is a root and the names that lead down from it. Empty names and single points say nothing
and are dropped when a path is read; two points are kept, because only the file tree knows what
they mean. Three or more leading slashes count as one, exactly two are a root of their own.
-/
namespace Reencode

/-- A path of a file or directory: the names from the root down. The root is empty for a relative
path, and else one or two slashes. -/
structure FilePath where
  root : String
  names : List String
deriving DecidableEq, Inhabited

namespace FilePath

/-- The number of slashes a text starts with. -/
def leadingSlashes (s : List Char) : Nat := (s.takeWhile (· == '/')).length

/-- Splits a list of characters at every slash. -/
def splitSlashes : List Char → List (List Char)
  | [] => [[]]
  | c :: rest =>
    if c = '/' then [] :: splitSlashes rest
    else
      match splitSlashes rest with
      | first :: more => (c :: first) :: more
      | [] => [[c]]

/-- Reads a path. -/
def ofString (s : String) : FilePath :=
  let chars := s.toList
  let root := match leadingSlashes chars with
    | 0 => ""
    | 2 => "//"
    | _ => "/"
  ⟨root, ((splitSlashes chars).filter fun n => n ≠ [] && n ≠ ['.']).map String.ofList⟩

/-- The text of a path; a path that says nothing is a single point. -/
def text (p : FilePath) : String :=
  if p.root = "" && p.names.isEmpty then "." else p.root ++ "/".intercalate p.names

/-- The last name, nothing for a root. -/
def name (p : FilePath) : String := p.names.getLast?.getD ""

/-- A path followed by another one, which wins when it has a root. -/
def join (p q : FilePath) : FilePath :=
  if q.root = "" then ⟨p.root, p.names ++ q.names⟩ else q

/-- A path without its last name. -/
def parent (p : FilePath) : FilePath := ⟨p.root, p.names.dropLast⟩

end FilePath
end Reencode
