import Reencode.Text.Case
import Reencode.Text.Blank
import Reencode.Value.Basic

/-!
# Target formats

An image is re-encoded as JPEG, WEBP or PNG. A format is named in any case, with blanks around it,
or by the alias JPG. Other words for formats have an alias and a media type, but are no targets.
-/
namespace Reencode

/-- A format images are re-encoded in: JPEG is lossy, WEBP lossy with transparency, PNG lossless. -/
inductive Format where
  | jpeg
  | webp
  | png
deriving DecidableEq, Inhabited

namespace Format

/-- Every format, in the order they are offered. -/
def all : List Format := [jpeg, webp, png]

/-- The name of a format. -/
def name : Format → String
  | jpeg => "JPEG"
  | webp => "WEBP"
  | png => "PNG"

/-- The format with exactly this name. -/
def ofName? (s : String) : Option Format := all.find? (·.name = s)

/-- The extension of exported files, without the point. -/
def extension : Format → String
  | jpeg => "jpg"
  | webp => "webp"
  | png => "png"

theorem ofName?_name (f : Format) : ofName? f.name = some f := by cases f <;> decide

/-- The standard spelling of a format's word: upper case, JPG as JPEG. -/
def canonicalWord (word : String) : String :=
  let upper := Text.upper word
  if upper = "JPG" then "JPEG" else upper

/-- The media type for a format's word. -/
def mimeTypeOf (word : String) : String := "image/" ++ Text.lower (canonicalWord word)

/-- The media type of a format. -/
def mimeType (f : Format) : String := mimeTypeOf f.name

/-- The format as a record. -/
def toValue (f : Format) : Value := .record [
  ("format", .text f.name), ("extension", .text f.extension), ("mime_type", .text f.mimeType)]

end Format

/-- Why a value names no format: it is not a text or nothing but blanks, or it is a word for
something else. -/
inductive FormatError where
  | blank (value : Value)
  | unsupported (word : String)

/-- The wording of the reason. -/
def FormatError.message : FormatError → String
  | blank value =>
    if value.isWritable then "格式不能为空: " ++ value.quoted else Value.lengthMessage
  | unsupported word =>
    "不支持的格式: " ++ word ++ "，支持的格式: " ++ ", ".intercalate (Format.all.map Format.name)

/-- The format a value names. -/
def Format.read (value : Value) : Except FormatError Format :=
  match value with
  | .text word =>
    if (Text.trimChars word.toList).isEmpty then .error (.blank value)
    else
      match ofName? (canonicalWord (Text.trim word)) with
      | some f => .ok f
      | none => .error (.unsupported word)
  | _ => .error (.blank value)

end Reencode
