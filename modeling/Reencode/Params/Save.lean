import Reencode.Failure
import Reencode.Params.Basic

/-!
# Writer options

What a quality means to the writer of each format. High qualities keep more colour detail in JPEG
and the exact transparency in WEBP; PNG is lossless and has no quality.
-/
namespace Reencode

/-- How much the colour channels of a JPEG are thinned out: halved across, which is 4:2:2, or across
and down, which is 4:2:0. -/
inductive Sampling where
  | halfWidth
  | quarter
deriving DecidableEq

/-- The number of a sampling in writer options. -/
def Sampling.code : Sampling → Nat
  | halfWidth => 1
  | quarter => 2

/-- What a writer is told. -/
inductive SaveOptions where
  | jpeg (quality : Number) (sampling : Sampling)
  | webp (quality alphaQuality : Number)
  | png
deriving DecidableEq

namespace SaveOptions

/-- Qualities from here on are high. -/
def highQuality : Number := .int 85

/-- Qualities from here on are medium. -/
def mediumQuality : Number := .int 70

/-- The sampling for a quality. -/
def samplingFor (quality : Number) : Sampling :=
  if highQuality.le quality then .halfWidth else .quarter

/-- The quality of the transparency that goes with a quality: all of it for a high one, a little
more for a medium one, the same for a low one. -/
def alphaQualityFor (quality : Number) : Number :=
  if highQuality.le quality then .int 100
  else if mediumQuality.le quality then
    let more := (quality.combine (· + ·) Binary64.add (.int 10)).getD quality
    (Number.int 100).min more
  else quality

/-- The options for a format and a quality, which is clamped first. -/
def of (format : Format) (quality : Number) : SaveOptions :=
  let q := quality.clampQuality
  match format with
  | .jpeg => jpeg q (samplingFor q)
  | .webp => webp q (alphaQualityFor q)
  | .png => png

/-- The options as a record. -/
def toValue : SaveOptions → Value
  | jpeg quality sampling => .record [("quality", quality.toValue), ("optimize", .bool true),
      ("subsampling", .int sampling.code)]
  | webp quality alphaQuality => .record [("quality", quality.toValue), ("method", .int 4),
      ("alpha_quality", alphaQuality.toValue)]
  | png => .record [("optimize", .bool true)]

end SaveOptions

end Reencode
