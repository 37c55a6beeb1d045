import Reencode.Number.Binary32

/-!
# Colours

The kinds of samples a picture may hold, and how each is seen as red, green and blue. Channels are
bytes, 255 at full strength. Products of channels are divided by 255 with rounding to the nearest
byte.
-/
namespace Reencode

/-- Red, green and blue. -/
structure Rgb where
  red : UInt8
  green : UInt8
  blue : UInt8
deriving DecidableEq, Inhabited

/-- Red, green and blue with an opacity, from 0 for transparent to 255 for opaque. -/
structure Rgba where
  red : UInt8
  green : UInt8
  blue : UInt8
  alpha : UInt8
deriving DecidableEq, Inhabited

/-- A grey, or an index into a palette, with an opacity. -/
structure Toned where
  tone : UInt8
  alpha : UInt8
deriving DecidableEq, Inhabited

/-- The four inks of print. -/
structure Cmyk where
  cyan : UInt8
  magenta : UInt8
  yellow : UInt8
  black : UInt8
deriving DecidableEq, Inhabited

/-- Three channels of a space that is not red, green and blue. -/
structure Triple where
  first : UInt8
  second : UInt8
  third : UInt8
deriving DecidableEq, Inhabited

/-! ## Arithmetic of channels -/

/-- A number below 65026 divided by 255, rounded to the nearest. -/
def divide255 (n : Nat) : Nat := (n + 128 + (n + 128) / 256) / 256

/-- A channel over white, at an opacity. -/
def channelOverWhite (channel alpha : UInt8) : UInt8 :=
  UInt8.ofNat (divide255 (255 * (255 - alpha.toNat) + channel.toNat * alpha.toNat))

/-- An integer cut to the range of a byte. -/
def clipByte (n : Int) : UInt8 := UInt8.ofNat (min 255 n.toNat)

/-! ## Seen as red, green and blue -/

namespace Rgb

/-- The grey of a strength. -/
def grey (v : UInt8) : Rgb := ⟨v, v, v⟩

/-- The colour with an opacity. -/
def withAlpha (c : Rgb) (alpha : UInt8) : Rgba := ⟨c.red, c.green, c.blue, alpha⟩

end Rgb

namespace Rgba

/-- The colour without its opacity. -/
def rgb (c : Rgba) : Rgb := ⟨c.red, c.green, c.blue⟩

/-- The colour over a white ground. -/
def overWhite (c : Rgba) : Rgb :=
  ⟨channelOverWhite c.red c.alpha, channelOverWhite c.green c.alpha,
    channelOverWhite c.blue c.alpha⟩

/-- The colour when its channels were multiplied by the opacity before: they are divided again,
unless nothing is left of them or nothing was taken away. -/
def divided (c : Rgba) : Rgb :=
  let channel (v : UInt8) : UInt8 :=
    if c.alpha = 0 || c.alpha = 255 then v else clipByte (255 * v.toNat / c.alpha.toNat : Nat)
  ⟨channel c.red, channel c.green, channel c.blue⟩

end Rgba

/-- A grey with an opacity. -/
def Toned.grey (c : Toned) : Rgba := (Rgb.grey c.tone).withAlpha c.alpha

/-- What is left of white paper under the inks. -/
def Cmyk.toRgb (c : Cmyk) : Rgb :=
  let light := 255 - c.black.toNat
  let channel (ink : UInt8) : UInt8 := UInt8.ofNat (light - divide255 (ink.toNat * light))
  ⟨channel c.cyan, channel c.magenta, channel c.yellow⟩

namespace Triple

/-- The share of a colour difference in a channel, in 64ths: the factor is given in 100000ths. -/
def share (factor : Int) (difference : UInt8) : Int :=
  (2 * (factor * (difference.toNat - 128) * 64) + 100000).tdiv 200000

/-- Luminance and two colour differences, as red, green and blue. -/
def ofLuminance (c : Triple) : Rgb :=
  let y : Int := c.first.toNat
  ⟨clipByte (y + (share 140200 c.third).fdiv 64),
    clipByte (y + (share (-34414) c.second + share (-71414) c.third).fdiv 64),
    clipByte (y + (share 177200 c.second).fdiv 64)⟩

/-- A quotient rounded to the nearest, a half away from zero. -/
def nearest (n d : Nat) : UInt8 := UInt8.ofNat ((2 * n + d) / (2 * d))

/-- Hue, saturation and value, as red, green and blue. The hue goes round the six colours in 255
steps. -/
def ofHue (c : Triple) : Rgb :=
  let v := c.third
  if c.second = 0 then Rgb.grey v
  else
    let sector := c.first.toNat * 6 / 255
    let part := c.first.toNat * 6 % 255
    let s := c.second.toNat
    let low := nearest (v.toNat * (255 - s)) 255
    let falling := nearest (v.toNat * (65025 - s * part)) 65025
    let rising := nearest (v.toNat * (65025 - s * (255 - part))) 65025
    match sector % 6 with
    | 0 => ⟨v, rising, low⟩
    | 1 => ⟨falling, v, low⟩
    | 2 => ⟨low, v, rising⟩
    | 3 => ⟨low, falling, v⟩
    | 4 => ⟨rising, low, v⟩
    | _ => ⟨v, low, falling⟩

end Triple

/-! ## Lightness and opponent colours -/

/-- How lightness and two opponent colours are seen as red, green and blue. That is for colour
management to say, and systems differ in how they round. -/
abbrev ColourEngine : Type := Triple → Rgb

namespace ColourEngine

/-- One, as a place between black and white. -/
def unit : Int := 1479000

/-- Full strength of light. -/
def full : Int := 100000000000 * (unit * unit * unit)

/-- The strength of a stimulus, in cubes of the unit, from its place between black and white. Close
to black it is in proportion to the place, else it is the cube of it. -/
def stimulus (place : Int) : Int :=
  if 6 * unit < 29 * place then place * place * place
  else 108 * (unit / 29) * (unit / 29) * (place - 4 * (unit / 29))

/-- Whether a strength of light is nearer to a byte, or one above it, than to those below it. Bytes
stand for light by a power law, but for the darkest ones. -/
def reaches (light : Int) (byte : Nat) : Bool :=
  -- The middle between two bytes, in 510ths.
  let middle : Int := 2 * byte - 1
  if 100000 * middle ≤ 4045 * 510 then 100 * full * middle ≤ 510 * 1292 * light
  else (1000 * middle + 55 * 510).pow 12 * full.pow 5 ≤ light.pow 5 * (1055 * 510 : Int).pow 12

/-- The byte nearest to a strength of light. -/
def nearestByte (light : Int) : UInt8 :=
  UInt8.ofNat (if light ≤ 0 then 0 else (List.range 255).countP fun n => reaches light (n + 1))

/-- The colours as they are defined, each channel the nearest byte. -/
def exact : ColourEngine := fun c =>
  let place : Int := 50 * (100 * c.first.toNat + 4080)
  let x := 9642 * stimulus (place + 2958 * (c.second.toNat - 128))
  let y := 10000 * stimulus place
  let z := 8249 * stimulus (place - 7395 * (c.third.toNat - 128))
  let channel (a b c : Int) : UInt8 := nearestByte (a * x + b * y + c * z)
  ⟨channel 31338561 (-16168667) (-4906146), channel (-9787684) 19161415 334540,
    channel 719453 (-2289914) 14052427⟩

end ColourEngine
end Reencode
