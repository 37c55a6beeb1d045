import Reencode.Validation

/-!
# Quality

A quality is a whole number from 1 to 100. A number outside is clamped, not refused. What a caller
sends is first looked at by the rules of this module: integers, doubles, and texts of digits are
clamped. Whatever they do not recognise is read leniently afterwards, and is then kept as it is. How
a text is read leniently is left open: `IntegerReader` is a parameter of everything that builds
parameters, and `lenientInteger` is the reader in use.
-/
namespace Reencode

def minQuality : Int := 1

def maxQuality : Int := 100

/-- The quality of parameters that do not say otherwise. -/
def defaultQuality : Int := 75

/-- The quality nearest to an integer. -/
def clampQuality (q : Int) : Int := max minQuality (min maxQuality q)

theorem clampQuality_mem (q : Int) : 1 ≤ clampQuality q ∧ clampQuality q ≤ 100 := by
  simp only [clampQuality, minQuality, maxQuality]
  omega

theorem clampQuality_of_mem {q : Int} (low : 1 ≤ q) (high : q ≤ 100) : clampQuality q = q := by
  simp only [clampQuality, minQuality, maxQuality]
  omega

/-- The quality nearest to any number. The number itself is kept when it lies within the bounds,
and a NaN counts as the upper one. -/
def Number.clampQuality (q : Number) : Number :=
  (Number.int minQuality).max ((Number.int maxQuality).min q)

/-- What is wrong with a quality that no later reading can mend. -/
inductive QualityError where
  | problem (p : FieldProblem)
  | infinite
deriving DecidableEq

/-- Whether a text consists of digits, apart from blanks around it and minus signs before it. -/
def looksWhole (s : String) : Bool :=
  let body := (Text.trimChars s.toList).dropWhile (· == '-')
  !body.isEmpty && body.all Text.isDigit

/-- The quality a caller's value stands for. -/
def readQuality (reader : IntegerReader) : Value → Except QualityError Int
  | .bool b => .error (.problem (.refused ("质量值必须是整数，得到: " ++ (Value.bool b).quoted)))
  | .real x =>
    if x.isNaN then .error (.problem (.refused "cannot convert float NaN to integer"))
    else if x.isInfinite then .error .infinite
    else .ok (clampQuality x.toIntEven)
  | .int n => .ok (clampQuality n)
  | .text s =>
    if looksWhole s then
      match readInteger (Text.trim s) with
      | .ok n => .ok (clampQuality n)
      | .error e => .error (.problem (.refused e.message))
    else (reader s).mapError .problem
  | v => v.readInteger.mapError .problem

end Reencode
