import Reencode.Number.Power

/-!
# Binary64 numbers

A double is its 64-bit word. A finite double is an integer, `scaled`, over `2 ^ 1074`; two doubles
are compared through those integers, and the exact result of an operation is a quotient of
integers that one function, `ofMagnitude`, rounds to the nearest double, ties to even. Nothing here
goes through the machine's floating-point unit, so every operation can be computed in a proof.
-/
namespace Reencode

/-- The integer nearest to `num / den`; an exact half goes to the even neighbour. -/
def roundEven (num den : Nat) : Nat :=
  let quotient := num / den
  let rest := num % den
  if 2 * rest < den then quotient
  else if den < 2 * rest then quotient + 1
  else quotient + quotient % 2

theorem roundEven_le (num den : Nat) : roundEven num den ≤ num / den + 1 := by
  unfold roundEven
  dsimp only
  split
  · omega
  · split <;> omega

/-- A double, kept as its word. Equality is that of words: `0.0` and `-0.0` differ, and a NaN
equals itself. -/
structure Binary64 where
  bits : UInt64
deriving DecidableEq, Inhabited

namespace Binary64

/-! ## Fields -/

/-- The word as a number. -/
def word (x : Binary64) : Nat := x.bits.toNat

/-- The double of a word. -/
def ofWord (w : Nat) : Binary64 := ⟨UInt64.ofNat w⟩

/-- Whether the sign bit is set. -/
def negative (x : Binary64) : Bool := decide (twoTo 63 ≤ x.word)

/-- The biased exponent. -/
def exponentField (x : Binary64) : Nat := x.word / twoTo 52 % 2048

/-- The stored part of the significand. -/
def fraction (x : Binary64) : Nat := x.word % twoTo 52

/-- Whether the word stands for no number. -/
def isNaN (x : Binary64) : Bool := x.exponentField == 2047 && x.fraction != 0

/-- Whether the double is one of the two infinities. -/
def isInfinite (x : Binary64) : Bool := x.exponentField == 2047 && x.fraction == 0

/-- Whether the double is a number. -/
def isFinite (x : Binary64) : Bool := x.exponentField != 2047

/-- The significand with its leading bit. -/
def significand (x : Binary64) : Nat :=
  if x.exponentField = 0 then x.fraction else x.fraction + twoTo 52

/-- The exponent of the significand's unit, in steps above the smallest one. -/
def unitExponent (x : Binary64) : Nat := x.exponentField - 1

/-- The absolute value in units of `2 ^ -1074`. The infinities lie above every finite double. -/
def magnitude (x : Binary64) : Nat := x.significand * twoTo x.unitExponent

/-- The value in units of `2 ^ -1074`. -/
def scaled (x : Binary64) : Int := if x.negative then -(x.magnitude : Int) else x.magnitude

/-! ## Rounding -/

/-- The word of positive infinity. -/
def infinityWord : Nat := 2047 * twoTo 52

/-- The word of the magnitude nearest to `num / den` units of `2 ^ -1074`. A significand that
carries into the next power of two carries into the exponent by itself, because the two fields are
added. -/
def magnitudeWord (num den : Nat) : Nat :=
  let unit := (num / den).log2 - 52
  min infinityWord (unit * twoTo 52 + roundEven num (den * twoTo unit))

/-- The double nearest to `num / den` units of `2 ^ -1074`, with the sign given. -/
def ofMagnitude (negative : Bool) (num den : Nat) : Binary64 :=
  ofWord ((if negative then twoTo 63 else 0) + magnitudeWord num den)

/-- The double nearest to `num / den`. -/
def ofRatio (negative : Bool) (num den : Nat) : Binary64 :=
  ofMagnitude negative (num * twoTo 1074) den

/-- The double nearest to an integer, an infinity when it is too large. -/
def ofInt (n : Int) : Binary64 := ofRatio (decide (n < 0)) n.natAbs 1

/-- The double nearest to an integer; `none` when the integer is too large for a finite one. -/
def ofInt? (n : Int) : Option Binary64 :=
  let x := ofInt n
  if x.isFinite then some x else none

/-! ## Constants -/

/-- Positive zero. -/
def zero : Binary64 := ⟨0⟩

/-- The number one. -/
def one : Binary64 := ⟨0x3FF0000000000000⟩

/-- The number one hundred. -/
def hundred : Binary64 := ⟨0x4059000000000000⟩

/-- The value of an operation without one. -/
def nan : Binary64 := ⟨0x7FF8000000000000⟩

/-- The infinity of a sign. -/
def infinity (negative : Bool) : Binary64 :=
  ofWord ((if negative then twoTo 63 else 0) + infinityWord)

/-! ## Arithmetic -/

/-- Turns the sign. -/
def neg (x : Binary64) : Binary64 := ⟨x.bits ^^^ 0x8000000000000000⟩

/-- Clears the sign. -/
def abs (x : Binary64) : Binary64 := if x.negative then x.neg else x

/-- The rounded sum. An exact zero is positive unless both operands are negative. -/
def add (x y : Binary64) : Binary64 :=
  if x.isNaN || y.isNaN then nan
  else if x.isInfinite then
    if y.isInfinite && x.negative != y.negative then nan else x
  else if y.isInfinite then y
  else
    let sum := x.scaled + y.scaled
    if sum = 0 then ofMagnitude (x.negative && y.negative) 0 1
    else ofMagnitude (decide (sum < 0)) sum.natAbs 1

/-- The rounded difference. -/
def sub (x y : Binary64) : Binary64 := x.add y.neg

/-- The rounded product. -/
def mul (x y : Binary64) : Binary64 :=
  let negative := x.negative != y.negative
  if x.isNaN || y.isNaN then nan
  else if x.isInfinite || y.isInfinite then
    if x.magnitude = 0 || y.magnitude = 0 then nan else infinity negative
  else ofMagnitude negative (x.magnitude * y.magnitude) (twoTo 1074)

/-- The rounded quotient of two integers with a positive divisor. -/
def quotient (num : Int) (den : Nat) : Binary64 := ofRatio (decide (num < 0)) num.natAbs den

/-! ## Order -/

/-- Whether `x` is below `y`; a NaN is below nothing and above nothing. -/
def lt (x y : Binary64) : Bool := !x.isNaN && !y.isNaN && decide (x.scaled < y.scaled)

/-- Whether `x` is at most `y`. -/
def le (x y : Binary64) : Bool := !x.isNaN && !y.isNaN && decide (x.scaled ≤ y.scaled)

/-- Whether `x` and `y` are the same number: the two zeros are, a NaN is not even itself. -/
def equal (x y : Binary64) : Bool := !x.isNaN && !y.isNaN && x.scaled == y.scaled

/-! ## Integers -/

/-- The integer nearest to a finite double, a half going to the even one. -/
def toIntEven (x : Binary64) : Int :=
  let n : Nat := roundEven x.magnitude (twoTo 1074)
  if x.negative then -(n : Int) else n

/-- The integer part of a finite double, cut toward zero. -/
def truncate (x : Binary64) : Int :=
  let n : Nat := x.magnitude / twoTo 1074
  if x.negative then -(n : Int) else n

/-- Whether a finite double is a whole number. -/
def isWhole (x : Binary64) : Bool := x.magnitude % twoTo 1074 == 0

/-- The double nearest to the value with so many decimal places. -/
def roundPlaces (x : Binary64) (places : Nat) : Binary64 :=
  if x.isFinite then
    ofRatio x.negative (roundEven (x.magnitude * tenTo places) (twoTo 1074)) (tenTo places)
  else x

end Binary64
end Reencode
