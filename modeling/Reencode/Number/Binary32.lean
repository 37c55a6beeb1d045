import Reencode.Number.Power

/-!
# Single precision

A number in the interchange format of four bytes: one sign bit, eight exponent bits, 23 fraction
bits. Pictures of real samples hold such numbers; all that is ever asked of one is the byte it
stands for.
-/
namespace Reencode

/-- A number of single precision, by its word of sign, exponent and fraction. -/
structure Binary32 where
  bits : UInt32
deriving DecidableEq, Inhabited

namespace Binary32

/-- Whether the number has the sign bit set. -/
def isNegative (x : Binary32) : Bool := x.bits.toNat / twoTo 31 = 1

/-- The exponent field. -/
def exponent (x : Binary32) : Nat := x.bits.toNat / twoTo 23 % twoTo 8

/-- The fraction field. -/
def fraction (x : Binary32) : Nat := x.bits.toNat % twoTo 23

/-- Whether the bits stand for no number. -/
def isNaN (x : Binary32) : Bool := x.exponent = 255 && x.fraction != 0

/-- The byte nearest below: the whole part, cut to the range of a byte. What is no number counts as
zero. -/
def toByte (x : Binary32) : UInt8 :=
  if x.isNegative || x.isNaN || x.exponent < 127 then 0
  else if 135 ≤ x.exponent then 255
  else UInt8.ofNat ((twoTo 23 + x.fraction) / twoTo (150 - x.exponent))

end Binary32
end Reencode
