import Reencode.Params.Format
import Reencode.Params.Quality

/-!
# Encoding parameters

The parameters of one image: a quality and a target format. They are built from values of unknown
kind, and changed by building them anew from the old ones and the values given, so that a change
checks both fields again.
-/
namespace Reencode

/-- How an image is to be re-encoded. -/
structure Params where
  quality : Int
  format : Format
deriving DecidableEq, Inhabited

/-- Why parameters could not be built: the values of some fields are refused, the quality is
infinite, or a change names a field that parameters do not have. -/
inductive ParamsError where
  | fields (errors : List FieldError)
  | infiniteQuality
  | unknownField (name : String)

namespace Params

/-- The parameters nothing was said about. -/
def default : Params := ⟨defaultQuality, .jpeg⟩

/-- Builds parameters from a value for each field. -/
def ofValues (reader : IntegerReader) (quality format : Value) : Except ParamsError Params :=
  let formatField := Checked.field "format"
    ((Format.read format).mapError fun e => .refused e.message)
  let build (qualityField : Checked Int) : Except ParamsError Params :=
    match mk <$> qualityField <*> formatField with
    | .valid params => .ok params
    | .invalid errors => .error (.fields errors)
  match readQuality reader quality with
  | .ok q => build (.valid q)
  | .error (.problem p) => build (.invalid [⟨["quality"], p⟩])
  | .error .infinite => .error .infiniteQuality

/-- Builds parameters from named values; other names are ignored and absent fields have their
defaults. -/
def ofRecord (reader : IntegerReader) (fields : List (String × Value)) :
    Except ParamsError Params :=
  ofValues reader ((fields.lookup "quality").getD (.int defaultQuality))
    ((fields.lookup "format").getD (.text Format.jpeg.name))

/-- Builds changed parameters; a field without a value stays as it is. -/
def change (p : Params) (reader : IntegerReader) (quality format : Value) :
    Except ParamsError Params :=
  ofValues reader (if quality.isNull then .int p.quality else quality)
    (if format.isNull then .text p.format.name else format)

/-- Builds changed parameters from named values; a name that is no field is refused. -/
def changeRecord (p : Params) (reader : IntegerReader) (fields : List (String × Value)) :
    Except ParamsError Params :=
  match fields.find? fun (name, _) => name != "quality" && name != "format" with
  | some (name, _) => .error (.unknownField name)
  | none =>
    p.change reader ((fields.lookup "quality").getD .null) ((fields.lookup "format").getD .null)

/-- The parameters as a record. -/
def toValue (p : Params) : Value :=
  .record [("quality", .int p.quality), ("format", .text p.format.name)]

/-- The parameters as text. -/
def describe (p : Params) : String :=
  "EncodeParams(quality=" ++ toString p.quality ++ ", format=<ImageFormat." ++ p.format.name ++
    ": '" ++ p.format.name ++ "'>)"

end Params
end Reencode
