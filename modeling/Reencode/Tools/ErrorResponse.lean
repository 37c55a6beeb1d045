import Reencode.Entry.Id
import Reencode.Value.Basic

/-!
# Error responses

A tool that cannot do its work answers with an error response: a message, a type of error, and
details where there are any.
-/
namespace Reencode

/-- The answer of a tool that failed; there are no details when they are empty. -/
structure ErrorResponse where
  message : String
  type : String
  details : List (String × Value)

namespace ErrorResponse

/-- One detail, or none when it is empty. -/
def detail (name text : String) : List (String × Value) :=
  if text = "" then [] else [(name, .text text)]

/-- Parameters were refused. -/
def validation (message field : String) : ErrorResponse :=
  ⟨message, "validation", detail "field" field⟩

/-- There is no such image. -/
def notFound (message image : String) : ErrorResponse :=
  ⟨message, "not_found", detail "image_id" image⟩

/-- The image has no output yet. -/
def notReady (message image : String) : ErrorResponse :=
  ⟨message, "not_ready", detail "image_id" image⟩

/-- An operation failed. -/
def processing (message operation : String) : ErrorResponse :=
  ⟨message, "processing", detail "operation" operation⟩

/-- The response as a record. -/
def toValue (r : ErrorResponse) : Value :=
  .record ([("success", .bool false), ("error", .text r.message), ("error_type", .text r.type)] ++
    if r.details.isEmpty then [] else [("details", .record r.details)])

end ErrorResponse
end Reencode
