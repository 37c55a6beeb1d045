import Reencode.Failure
import Reencode.Log
import Reencode.Message

/-!
# Faults

A job that fails leaves a fault: the entry and token it belonged to, whether decoding or encoding
is to blame, and a message. A failure that is neither counts as one of encoding.
-/
namespace Reencode

/-- Which half of the work failed: decoding the source or encoding the picture. -/
inductive FaultKind where
  | decode
  | encode
deriving DecidableEq

/-- The word for a kind. -/
def FaultKind.name : FaultKind → String
  | decode => "decode"
  | encode => "encode"

/-- Reads a kind from its word. -/
def FaultKind.read : Value → Except FieldProblem FaultKind
  | .text "decode" => .ok decode
  | .text "encode" => .ok encode
  | _ => .error (.notOneOf "'decode' or 'encode'")

/-- What a failed job reports, with the token of the job. -/
structure Fault where
  entry : EntryId
  kind : FaultKind
  message : String
  token : Int
deriving DecidableEq

namespace Fault

/-- Builds a fault from the fields of a record. -/
def ofFields (fields : List (String × Value)) : Checked Fault :=
  mk <$> EntryId.mk <$> required fields "entry_id" Value.readText
    <*> required fields "kind" FaultKind.read
    <*> required fields "message" Value.readText
    <*> defaulted fields "token" 0 Value.readInteger

/-- The fault as a record. -/
def toValue (f : Fault) : Value := .record [
  ("entry_id", .text f.entry.text), ("kind", .text f.kind.name), ("message", .text f.message),
  ("token", .int f.token)]

/-- The fault a failure leaves, and the record that tells of it. -/
def ofFailure (failure : Failure) (entry : EntryId) (token : Int) : Fault × LogRecord :=
  match failure with
  | .own .decode message _ =>
    (⟨entry, .decode, message, token⟩,
      ⟨.warning, Message.formatError "图像解码" entry.text message⟩)
  | .own .encode message _ =>
    (⟨entry, .encode, message, token⟩,
      ⟨.warning, Message.formatError "图像编码" entry.text message⟩)
  | other =>
    (⟨entry, .encode, "处理失败: " ++ other.text, token⟩,
      ⟨.error, Message.formatError "重新压缩任务" entry.text other.text⟩)

end Fault

namespace Failure

/-- Failures of picture libraries become failures of the library's own kind given; its own
failures pass, and so does what a picture library does not raise on bad data. -/
def asPictureFailure (kind : OwnKind) (operation : String) (failure : Failure) : Failure :=
  let wrap (message : String) : Failure := own kind message none
  match failure with
  | own .. => failure
  | outside .unknownPicture message => wrap ("不支持的图像格式: " ++ message)
  | outside .tooManyPixels message => wrap ("图像尺寸过大，可能存在安全风险: " ++ message)
  | invalid .. => wrap (operation ++ "失败: " ++ failure.text)
  | outside k _ =>
    if k.isIo || k.isValue || k = .type || k = .key || k = .malformed || k = .endOfData then
      wrap (operation ++ "失败: " ++ failure.text)
    else failure

end Failure
end Reencode
