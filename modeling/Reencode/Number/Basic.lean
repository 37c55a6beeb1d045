import Reencode.Number.Decimal

/-!
# Numbers

Coordinates and factors are integers of any size or doubles, and stay what they are: two integers
combine exactly, and an integer meets a double by becoming the nearest one, which fails when no
finite double is near. Comparison never converts: it is exact.
-/
namespace Reencode

/-- An integer or a double. -/
inductive Number where
  | int (n : Int)
  | real (x : Binary64)
deriving DecidableEq, Inhabited

namespace Number

/-- The number as a double; `none` when an integer is too large. -/
def toReal? : Number → Option Binary64
  | int n => Binary64.ofInt? n
  | real x => some x

/-- Combines two numbers: exactly when both are integers, otherwise as doubles. `none` when an
integer is too large to become one. -/
def combine (onInts : Int → Int → Int) (onReals : Binary64 → Binary64 → Binary64) :
    Number → Number → Option Number
  | int a, int b => some (int (onInts a b))
  | a, b => do return real (onReals (← a.toReal?) (← b.toReal?))

/-- The product. -/
def mul : Number → Number → Option Number := combine (· * ·) Binary64.mul

/-- The difference. -/
def sub : Number → Number → Option Number := combine (· - ·) Binary64.sub

/-- Exact comparison of an integer with a double; a NaN compares with nothing. -/
def compareReal (n : Int) (x : Binary64) : Option Ordering :=
  if x.isNaN then none
  else if x.isInfinite then some (if x.negative then .gt else .lt)
  else some (compare (n * twoTo 1074) x.scaled)

/-- Exact comparison; `none` when one of the numbers is NaN. -/
def compare? : Number → Number → Option Ordering
  | int a, int b => some (compare a b)
  | int a, real y => compareReal a y
  | real x, int b => (compareReal b x).map Ordering.swap
  | real x, real y => if x.isNaN || y.isNaN then none else some (compare x.scaled y.scaled)

/-- Whether `a` is below `b`. -/
def lt (a b : Number) : Bool := a.compare? b == some .lt

/-- Whether `a` is at most `b`. -/
def le (a b : Number) : Bool := a.compare? b == some .lt || a.compare? b == some .eq

/-- Whether `a` and `b` are the same number. -/
def equal (a b : Number) : Bool := a.compare? b == some .eq

/-- The larger of two numbers, the first one unless the second is above it. -/
def max (a b : Number) : Number := if a.lt b then b else a

/-- The smaller of two numbers, the first one unless the second is below it. -/
def min (a b : Number) : Number := if b.lt a then b else a

/-- The text of a number. -/
def text : Number → String
  | int n => toString n
  | real x => x.text

end Number
end Reencode
