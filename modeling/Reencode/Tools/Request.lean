import Reencode.Bytes.Hex
import Reencode.Tools.Call
import Reencode.Value.Json

/-!
# Requests

A remote caller sends one JSON record a line: the tool, its arguments, and the files that the tool
may come across, by path. The answer is one JSON record again: the tool's response, and the files
that came about meanwhile. Files are carried along in both directions because a session knows no
other files than those of its own tree.
-/
namespace Reencode

namespace FileTree

/-- The files that are in a tree, but not with the same bytes in an earlier one. -/
def filesSince (t earlier : FileTree) : List (FilePath × ByteArray) :=
  t.nodes.filterMap fun (place, node) =>
    match node, earlier.node? place with
    | .file data, some (.file old) =>
      if data.data = old.data then none else some (⟨"/", place⟩, data)
    | .file data, _ => some (⟨"/", place⟩, data)
    | .directory, _ => none

end FileTree

namespace Tools

/-- What a remote caller asks for, with the files that come with the request. -/
structure Request where
  tool : String
  arguments : List (String × Value)
  files : List (FilePath × ByteArray)

namespace Request

variable {S O : Type}

/-- The fields of a record; anything else has none. -/
def fieldsOf : Option Value → List (String × Value)
  | some (.record fields) => fields
  | _ => []

/-- The request of a record that names a tool. Files are given in hexadecimal. -/
def ofValue? (v : Value) : Option Request :=
  match v.field? "tool" with
  | some (.text tool) => some {
      tool
      arguments := fieldsOf (v.field? "arguments")
      files := (fieldsOf (v.field? "files")).map fun (path, data) =>
        (FilePath.ofString path, Bytes.ofHex data.display) }
  | _ => none

/-- The answer to a request that makes no sense. -/
def refused (message : String) : Value :=
  ErrorResponse.toValue ⟨message, "general", []⟩

/-- Files by path, in hexadecimal. -/
def filesField (files : List (FilePath × ByteArray)) : List (String × Value) :=
  if files.isEmpty then []
  else [("written", .record (files.map fun (path, data) => (path.text, .text (Bytes.toHex data))))]

/-- Does what a request asks for. A failure that the tool does not answer itself is answered all
the same, so that the caller may go on. -/
def answer (w : Surroundings S O) (r : Request) : Act S O Value := do
  modify fun s => { s with files := s.files.withFiles r.files }
  let before := (← get).files
  match call? w r.tool r.arguments with
  | none => return refused ("unknown tool: " ++ r.tool)
  | some act =>
    let response ← tryCatch (do Session.lift (← act).toValue) fun e => return refused e.text
    let written := (← get).files.filesSince before
    return .record (fieldsOf (some response) ++ filesField written)

end Request

/-- Answers one line of a remote caller: the line to send back, and the session afterwards. -/
def answerLine {S O : Type} (w : Surroundings S O) (session : Session S O) (line : String) :
    String × Session S O :=
  match (Value.ofJson? line).bind Request.ofValue? with
  | none => ((Request.refused "not a request").toJson, session)
  | some request =>
    match (request.answer w).run.run session with
    | (.ok answer, session) => (answer.toJson, session)
    | (.error e, session) => ((Request.refused e.text).toJson, session)

end Tools
end Reencode
