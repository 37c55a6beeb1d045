import Reencode.Entry.Id
import Reencode.Params.Basic

/-!
# Failures

Whatever can go wrong ends in a `Failure`. The library's own failures carry a message and, where
one is concerned, the entry; a refused record carries its field errors; everything else comes from
outside (the machine, a codec, a caller's mistake) and is known by its kind and text.
-/
namespace Reencode

/-- The library's own failures: parameters that cannot be used, a source that cannot be decoded, a
picture that cannot be encoded, an entry without a finished output, an unknown entry, a buffer that
was released, and any other. -/
inductive OwnKind where
  | general
  | validation
  | decode
  | encode
  | notReady
  | notFound
  | released
deriving DecidableEq, Inhabited

/-- Failures from outside. -/
inductive OutsideKind where
  | value
  | runtime
  | io
  | fileExists
  | fileMissing
  | isDirectory
  | notDirectory
  | unknownPicture
  | tooManyPixels
  | type
  | overflow
  | attribute
  | key
  | index
  | memory
  | malformed
  | endOfData
  | zeroDivision
  | layout
  | unicode
  | other
deriving DecidableEq, Inhabited

/-- Whether a kind is a refusal by the machine or one of its special cases. -/
def OutsideKind.isIo : OutsideKind → Bool
  | io | fileExists | fileMissing | isDirectory | notDirectory | unknownPicture => true
  | _ => false

/-- Whether a kind is a value that makes no sense, or the special case of one. -/
def OutsideKind.isValue : OutsideKind → Bool
  | value | unicode => true
  | _ => false

/-- What went wrong. -/
inductive Failure where
  | own (kind : OwnKind) (message : String) (entry : Option EntryId)
  | invalid (model : String) (errors : List FieldError)
  | outside (kind : OutsideKind) (message : String)
deriving DecidableEq, Inhabited

namespace Failure

/-- A value that makes no sense. -/
def value (message : String) : Failure := outside .value message

/-- An operation at the wrong time. -/
def runtime (message : String) : Failure := outside .runtime message

/-- A value of the wrong kind. -/
def type (message : String) : Failure := outside .type message

/-- A number too large for a double. -/
def overflow : Failure := outside .overflow "int too large to convert to float"

/-- The report of a refused record: its first line counts the errors. -/
def reportLine (model : String) (errors : List FieldError) : String :=
  toString errors.length ++ " validation error" ++ (if errors.length = 1 then "" else "s") ++
    " for " ++ model

/-- The text of a failure. -/
def text : Failure → String
  | own _ message _ => message
  | invalid model errors => reportLine model errors
  | outside .key message => Text.quoted message
  | outside _ message => message

/-- The failure of building parameters. -/
def ofParamsError : ParamsError → Failure
  | .fields errors => invalid "EncodeParams" errors
  | .infiniteQuality => outside .overflow "cannot convert float infinity to integer"
  | .unknownField name =>
    type ("EncodeParams.with_changes() got an unexpected keyword argument " ++ Text.quoted name)

/-- The result of checking a record of a model. -/
def ofChecked {α : Type} (model : String) : Checked α → Except Failure α
  | .valid value => .ok value
  | .invalid errors => .error (invalid model errors)

end Failure

/-! ## Values in messages -/

namespace Value

/-- The failure of writing out an integer of too many digits. -/
def lengthFailure : Failure := .value lengthMessage

/-- The text of a value in a message. -/
def shown (v : Value) : Except Failure String :=
  if v.isWritable then .ok v.display else .error lengthFailure

end Value

/-- A value as a number; anything else cannot be compared with one. -/
def Value.asNumber (v : Value) : Except Failure Number :=
  match v.asNumber? with
  | some n => .ok n
  | none =>
    .error (.type ("'<' not supported between instances of '" ++ v.kindName ++ "' and 'int'"))

end Reencode
