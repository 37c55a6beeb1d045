import Reencode.Codec.Basic
import Reencode.Codec.Jpeg.Read
import Reencode.Codec.Jpeg.Write
import Reencode.Codec.Png.Write
import Reencode.Codec.Pnm
import Reencode.Codec.Webp
import Reencode.Picture.Prepare

/-!
# The codec for pictures

Reading files, converting pictures and writing files is the affair of an imaging library. The codec
asks it to read, and for encoding to convert for the format and then to write. Whatever goes wrong
there becomes the failure of decoding or encoding, and a record tells of it; a failure that no
imaging library is expected to have passes as it is.

The library at hand finds out the format of bytes from how they start; the format of a file's name
does not matter.
-/
namespace Reencode

namespace Picture

open Bytes (hasAt)

/-- The picture of a file of any known format. -/
def read (b : ByteArray) : Except Unreadable Picture :=
  if hasAt b 0 Png.signature then Png.read b
  else if hasAt b 0 Jpeg.signature then Jpeg.read b
  else if hasAt b 0 (Bytes.ascii "RIFF") then Webp.read b
  else Pnm.read b

/-- The file of a prepared picture. -/
def write (p : Picture) : SaveOptions → Except Failure ByteArray
  | .jpeg quality sampling => Jpeg.write p.canvas quality sampling
  | .webp _ _ => Webp.write p.canvas
  | .png => Png.write p

end Picture

namespace Failure

/-- The record of a failure that is turned into one of the library's own. -/
def pictureRecord (operation : String) (f : Failure) : LogRecord :=
  ⟨.debug, operation ++ " - " ++
    (match f with
      | outside .unknownPicture _ => "无法识别图像格式: "
      | outside .tooManyPixels _ => "图像过大: "
      | _ => "处理失败: ") ++ f.text⟩

end Failure

namespace Attempt

variable {α : Type}

/-- Turns the failures of picture libraries into failures of the library's own, with a record. -/
def owned (kind : OwnKind) (operation : String) (a : Attempt α) : Attempt α :=
  match a.result with
  | .ok _ => a
  | .error e =>
    let made := e.asPictureFailure kind operation
    match e, made with
    | .own .., _ => a
    | _, .own .. => ⟨a.records ++ [e.pictureRecord operation], .error made⟩
    | _, _ => a

/-- A result without a word. -/
def ofExcept : Except Failure α → Attempt α
  | .ok value => ok value
  | .error e => fail e

end Attempt

namespace Picture

/-- The record of a quality that PNG has no use for. -/
def uselessQuality (q : Number) : LogRecord :=
  ⟨.debug, "PNG无损编码，忽略质量值 " ++ q.clampQuality.toValue.display⟩

end Picture

/-- A library for pictures. It may fail in any way. -/
structure Imaging (S : Type) where
  read : ByteArray → Except Failure S
  prepare : S → Format → Except Failure S
  write : S → SaveOptions → Except Failure ByteArray

namespace Imaging

variable {S : Type}

/-- Decodes a file. -/
def decode (L : Imaging S) (b : ByteArray) : Attempt S :=
  if b.size = 0 then .fail (.own .decode "源数据为空" none)
  else (Attempt.ofExcept (L.read b)).owned .decode "图像解码"

/-- Encodes a picture for whatever names a format and whatever counts as a quality. -/
def encode (L : Imaging S) (p : S) (format quality : Value) : Attempt ByteArray :=
  let prepared : Attempt (S × Format × Number) := .ofExcept do
    let f ← (Format.read format).mapError fun e => .value e.message
    let q ← L.prepare p f
    return (q, f, ← quality.asNumber)
  let written := prepared.andThen fun (q, f, n) =>
    (⟨if f = .png then [Picture.uselessQuality n] else [], .ok ()⟩ : Attempt Unit).andThen fun _ =>
      .ofExcept (L.write q (.of f n))
  written.owned .encode "图像编码"

/-- Decoding and encoding with a library. -/
def codec (L : Imaging S) : Codec S where
  decode b := (L.decode b).andThen fun p => .ok (some p)
  encode surface f q :=
    match surface with
    | some p => (L.encode p (.text f.name) (.int q)).andThen fun b => .ok (.bytes b)
    | none => .fail (.outside .attribute "'NoneType' object has no attribute 'mode'")

end Imaging

namespace Picture

/-- The library at hand, with a colour engine. -/
def imaging (engine : ColourEngine) : Imaging Picture where
  read b := (read b).mapError Unreadable.failure
  prepare := prepare engine
  write := write

/-- Decodes a file. -/
def decode (b : ByteArray) : Attempt Picture := (imaging .exact).decode b

/-- Encodes a picture for whatever names a format and whatever counts as a quality. -/
def encode (p : Picture) (format quality : Value) : Attempt ByteArray :=
  (imaging .exact).encode p format quality

/-- Decoding and encoding of pictures. -/
def codec : Codec Picture := (imaging .exact).codec

end Picture

/-! ## What a file shows -/

/-- What can be said of a file without its samples. A JPEG thins out colours and has steps for
luminance and for colour differences, each row by row. -/
structure FileSummary where
  format : Format
  picture : Picture
  sampling : Option Sampling
  steps : List (List Nat)

/-- Looks at a file of one of the formats that are written. -/
def FileSummary.of? (b : ByteArray) : Option FileSummary := do
  let p ← (Picture.read b).toOption
  if Bytes.hasAt b 0 Png.signature then return ⟨.png, p, none, []⟩
  else if Bytes.hasAt b 0 Jpeg.signature then
    let (h, _, _) ← (Jpeg.readHeader b).toOption
    return ⟨.jpeg, p, h.sampling?, [h.stepTable 0, h.stepTable 1]⟩
  else if Webp.startsFile b then return ⟨.webp, p, none, []⟩
  else none

end Reencode
