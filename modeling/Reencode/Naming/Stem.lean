import Reencode.Params.Format

/-!
# Stems and extensions

The stem of a file name is what stands before its last point; a name without a point, or with none
but a leading one, is all stem. An exported file keeps the stem and takes the extension of its
format.
-/
namespace Reencode

/-- What stands before the last point; all of the name if that is nothing. -/
def stemChars (name : List Char) : List Char :=
  match name.reverse.dropWhile (· != '.') with
  | _ :: c :: rest => (c :: rest).reverse
  | _ => name

/-- The stem of a file name. -/
def fileStem (name : String) : String := String.ofList (stemChars name.toList)

/-- What stands from the last point on, nothing if there is no point. -/
def lastExtension (name : String) : String :=
  match name.toList.reverse.dropWhile (· != '.') with
  | [] => ""
  | back => String.ofList (name.toList.drop (back.length - 1))

/-- The name of an image exported in a format. -/
def exportName (name : String) (format : Format) : String :=
  fileStem name ++ "." ++ format.extension

/-- The name of an image exported in the format that a value names. -/
def exportNameAs (name : String) (target : Value) : Except FormatError String :=
  (Format.read target).map (exportName name)

end Reencode
