import Reencode.Tools.Basic

/-!
# Calling tools by name

A remote caller names a tool and gives its arguments by name. Arguments with a default may be left
out.
-/
namespace Reencode.Tools

variable {S O : Type}

/-- Whether a value counts as a yes: all do but nothing, zero and what is empty. -/
def isYes : Value → Bool
  | .null => false
  | .bool b => b
  | .int n => n != 0
  | .real x => !(x.equal Binary64.zero)
  | .text s => s != ""
  | .list items => !items.isEmpty
  | .record fields => !fields.isEmpty
  | .other o => o.isYes

/-- Calls a tool; there may be none of the name. -/
def call? (w : Surroundings S O) (name : String) (arguments : List (String × Value)) :
    Option (Act S O ToolResponse) :=
  let value (field : String) : Value := (arguments.lookup field).getD .null
  let text (field : String) : String := (value field).display
  let image : EntryId := ⟨text "image_id"⟩
  match name with
  | "import_images" =>
    some (importImages w (value "paths") (((arguments.lookup "recursive").map isYes).getD true))
  | "list_images" => some (listImages w)
  | "select_image" => some (selectImage w image)
  | "set_image_params" => some (setImageParams w image (value "quality") (value "format"))
  | "reset_image_quality" => some (resetImageQuality w image)
  | "set_global_format" => some (setFormat w (value "format"))
  | "remove_image" => some (removeImage w image)
  | "clear_images" => some (clearImages w)
  | "export_archive" => some (exportArchive w (text "output_path"))
  | "export_image" => some (exportImage w image (text "output_dir"))
  | _ => none

end Reencode.Tools
