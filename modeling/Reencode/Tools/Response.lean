import Reencode.Snapshot.Basic
import Reencode.Tools.ErrorResponse

/-!
# Responses of tools

A tool answers with the state of the collection, with what it wrote, or with an error response. The
state of the collection says whether all jobs have ended, so that a caller knows whether the sizes
it lists are final.
-/
namespace Reencode

/-- What a tool answers: the state of the collection, and of an import the new entries and how many
files were skipped, an archive or a file that was written, or that the tool could not do its work.
-/
inductive ToolResponse where
  | state (snapshot : CollectionSnapshot) (settled : Bool) (imported : Option (List EntryId × Nat))
  | archive (settled : Bool) (path : String) (size : Nat) (names : List String)
  | file (path : String) (size : Nat)
  | failed (response : ErrorResponse)

namespace ToolResponse

/-- A value, or none unless a condition holds. -/
def orNull (condition : Bool) (v : Value) : Value := if condition then v else .null

/-- An entry as it is listed. -/
def listed (e : EntrySnapshot) : Except Failure Value := do
  let output ← e.outputSizeText
  return .record [
    ("id", .text e.id.text), ("name", .text e.name), ("format", .text e.params.format.name),
    ("quality", .int e.params.quality), ("original_size", .int e.sourceSize),
    ("original_size_human", .text (← e.sourceSizeText)),
    ("compressed_size", orNull e.hasOutput (.int e.outputSize)),
    ("compressed_size_human", orNull e.hasOutput (.text output)),
    ("savings_percent", orNull e.hasOutput (.real (e.savings.roundPlaces 2))),
    ("savings_label", orNull e.hasOutput (.text e.savingsLabel)), ("selected", .bool e.selected),
    ("error", .ofOption (e.fault.map fun f => .text f.message))]

/-- The new entries and the skipped files of an import. -/
def importFields : Option (List EntryId × Nat) → List (String × Value)
  | none => []
  | some (ids, skipped) =>
    [("imported", .list (ids.map fun id => .text id.text)), ("skipped", .int skipped)]

/-- The response as a record. -/
def toValue : ToolResponse → Except Failure Value
  | state snapshot settled imported => do
    let summary ← snapshot.summary
    let images ← snapshot.entries.mapM listed
    return .record ([("success", .bool true), ("settled", .bool settled),
      ("selected_id", .ofOption (snapshot.selected.map fun id => .text id.text)),
      ("global_format", .text snapshot.globalFormat), ("summary", .text summary),
      ("images", .list images)] ++ importFields imported)
  | archive settled path size names => .ok (.record [
      ("success", .bool true), ("settled", .bool settled), ("archive_path", .text path),
      ("archive_size", .int size), ("file_count", .int names.length),
      ("files", .list (names.map .text))])
  | file path size => .ok (.record [
      ("success", .bool true), ("output_path", .text path), ("size", .int size)])
  | failed response => .ok response.toValue

end ToolResponse
end Reencode
