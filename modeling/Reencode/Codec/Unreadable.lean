import Reencode.Failure

/-!
# Unreadable pictures

Why bytes cannot be read as a picture. The causes differ in how far reading came: the bytes may
belong to no known format at all, a header may be cut or make no sense, or the samples behind a good
header may be cut or broken. Each cause has its kind of failure and its wording.
-/
namespace Reencode

/-- Why bytes are no picture. Where samples are missing, it says how many bytes of them could not be
used. -/
inductive Unreadable where
  | unknown
  | tooManyPixels (count : Nat)
  | cutPart
  | shortChunk (kind : String)
  | cutNumbers
  | brokenChunk (name : List UInt8)
  | unknownFilter
  | noSamples
  | cutSamples
  | missingSamples (unused : Nat)
  | brokenStream
  | senselessStream
  | largePalette
  | cutHeader
  | longHeaderWord (word : List UInt8)
  | badInteger (word : List UInt8)
  | badMaximum
  | badBit (byte : UInt8)
  | longSample (word : List UInt8)
  | negativeSample (n : Int)
  | largeSample (n : Int)
  | fewSamples
  | badAttributes (header : List UInt8)
  | noReader
deriving DecidableEq

namespace Unreadable

/-- The most pixels a picture may have. -/
def pixelLimit : Nat := 178956970

/-- The kind of failure of a cause. -/
def kind : Unreadable → OutsideKind
  | unknown => .unknownPicture
  | tooManyPixels _ => .tooManyPixels
  | cutNumbers => .layout
  | brokenChunk _ | unknownFilter | badAttributes _ => .malformed
  | cutPart | noSamples | cutSamples | missingSamples _ | brokenStream | senselessStream
  | noReader => .io
  | _ => .value

/-- The wording of a cause. -/
def message : Unreadable → String
  | unknown => "cannot identify image file <_io.BytesIO object at ADDR>"
  | tooManyPixels count =>
    "Image size (" ++ toString count ++ " pixels) exceeds limit of " ++ toString pixelLimit ++
      " pixels, could be decompression bomb DOS attack."
  | cutPart => "Truncated File Read"
  | shortChunk kind => kind ++ " chunk"
  | cutNumbers => "unpack requires a buffer of 4 bytes"
  | brokenChunk name => "broken PNG file (chunk " ++ Text.quotedBytes name ++ ")"
  | unknownFilter => "unknown filter category"
  | noSamples => "cannot load this image"
  | cutSamples => "image file is truncated"
  | missingSamples unused =>
    "image file is truncated (" ++ toString unused ++ " bytes not processed)"
  | brokenStream => "broken data stream when reading image file"
  | senselessStream => "unrecognized data stream contents when reading image file"
  | largePalette => "invalid palette size"
  | cutHeader => "Reached EOF while reading header"
  | longHeaderWord word =>
    Text.quotedBytes ("Token too long in file header: ".toUTF8.data.toList ++ word)
  | badInteger word => "invalid literal for int() with base 10: " ++ Text.quotedBytes word
  | badMaximum => "maxval must be greater than 0 and less than 65536"
  | badBit byte =>
    Text.quotedBytes ("Invalid token for this mode: ".toUTF8.data.toList ++ [byte])
  | longSample word =>
    Text.quotedBytes ("Token too long found in data: ".toUTF8.data.toList ++ word)
  | negativeSample n => "Channel value is negative: " ++ toString n
  | largeSample n => "Channel value too large for this mode: " ++ toString n
  | fewSamples => "not enough image data"
  | badAttributes header => "not a TIFF file (header " ++ Text.quotedBytes header ++ " not valid)"
  | noReader => "could not create decoder object"

/-- The failure of a cause. -/
def failure (u : Unreadable) : Failure := .outside u.kind u.message

end Unreadable
end Reencode
