import Reencode.Number.Binary64
import Reencode.Text.Blank
import Reencode.Text.Digit

/-!
# Decimal texts of doubles

A double is written with the fewest digits that read back as itself, or with a fixed number of
places. Both are computed in exact integers. A text is read by one grammar: a sign, digits that may
be grouped by single underscores, a point, an exponent, or the names of the infinities and of NaN.
-/
namespace Reencode

/-- A number written with at least so many digits. -/
def paddedDigits (width n : Nat) : String :=
  let digits := Nat.toDigits 10 n
  String.ofList (List.replicate (width - digits.length) '0' ++ digits)

/-- Zeros in front change nothing of what digits are worth, so a number is found again. -/
theorem paddedDigits_inj {width m n : Nat} (h : paddedDigits width m = paddedDigits width n) :
    m = n := by
  have worth : ∀ k, Nat.ofDigitChars 10 (paddedDigits width k).toList 0 = k := by
    intro k
    simp only [paddedDigits, String.toList_ofList, Nat.ofDigitChars_append,
      Nat.ofDigitChars_replicate_zero, Nat.mul_zero]
    exact Nat.ofDigitChars_ten_toDigits
  rw [← worth m, ← worth n, h]

/-- Removes the factors of ten of a coefficient; `fuel` bounds their number. -/
def dropZeros : Nat → Nat → Int → Nat × Int
  | 0, coefficient, exponent => (coefficient, exponent)
  | fuel + 1, coefficient, exponent =>
    if coefficient ≠ 0 ∧ coefficient % 10 = 0 then dropZeros fuel (coefficient / 10) (exponent + 1)
    else (coefficient, exponent)

namespace Binary64

/-! ## The fewest digits that read back -/

/-- How many digits stand before the point of a positive finite double; zero or less counts the
zeros that follow the point. -/
def pointPosition (x : Binary64) : Int :=
  ((Nat.toDigits 10 (x.magnitude * tenTo 400 / twoTo 1074)).length : Int) - 400

/-- Whether `coefficient * 10 ^ exponent` rounds to the positive finite double `x`: it lies between
the midpoints to the neighbours, which belong to `x` when its significand is even. -/
def readsBack (x : Binary64) (coefficient : Nat) (exponent : Int) : Bool :=
  let unit := twoTo x.unitExponent
  let below := if x.significand = twoTo 52 ∧ 0 < x.unitExponent then unit else 2 * unit
  let low := (4 * x.magnitude - below) * tenTo (-exponent).toNat
  let high := (4 * x.magnitude + 2 * unit) * tenTo (-exponent).toNat
  let point := coefficient * tenTo exponent.toNat * 4 * twoTo 1074
  if x.significand % 2 = 0 then decide (low ≤ point ∧ point ≤ high)
  else decide (low < point ∧ point < high)

/-- The coefficient with `digits` digits nearest to `x` among those that read back. -/
def coefficientWith? (x : Binary64) (digits : Nat) : Option (Nat × Int) :=
  let exponent := x.pointPosition - digits
  let num := x.magnitude * tenTo (-exponent).toNat
  let den := twoTo 1074 * tenTo exponent.toNat
  let low := num / den
  let nearest := roundEven num den
  let other := if nearest = low then low + 1 else low
  if x.readsBack nearest exponent then some (nearest, exponent)
  else if x.readsBack other exponent then some (other, exponent)
  else none

/-- The shortest coefficient and exponent that read back as a positive finite double. Seventeen
digits always do. -/
def shortest (x : Binary64) : Nat × Int :=
  match (List.range' 1 17).findSome? x.coefficientWith? with
  | some (coefficient, exponent) => dropZeros 17 coefficient exponent
  | none => (0, 0)

/-- Digits with the point after the first `point` of them, zeros filled in and at least one digit
on each side. -/
def positional (digits : List Char) (point : Int) : List Char :=
  if point ≤ 0 then
    '0' :: '.' :: (List.replicate (-point).toNat '0' ++ digits)
  else
    let before := point.toNat
    let whole := digits.take before ++ List.replicate (before - digits.length) '0'
    let rest := digits.drop before
    whole ++ '.' :: (if rest.isEmpty then ['0'] else rest)

/-- Digits in scientific notation; the exponent has a sign and at least two digits. -/
def scientific (digits : List Char) (point : Int) : List Char :=
  let exponent := point - 1
  let mantissa := match digits with
    | [] => []
    | [d] => [d]
    | d :: rest => d :: '.' :: rest
  mantissa ++ 'e' :: (if exponent < 0 then '-' else '+') ::
    (paddedDigits 2 exponent.natAbs).toList

/-- The text of a double: the fewest digits that read back, positional from `10 ^ -4` up to
`10 ^ 16`, always with a point or an exponent. -/
def text (x : Binary64) : String :=
  if x.isNaN then "nan"
  else
    let sign := if x.negative then "-" else ""
    if x.isInfinite then sign ++ "inf"
    else if x.magnitude = 0 then sign ++ "0.0"
    else
      let (coefficient, exponent) := x.shortest
      let digits := Nat.toDigits 10 coefficient
      let point := digits.length + exponent
      let body := if -4 < point ∧ point ≤ 16 then positional digits point
        else scientific digits point
      sign ++ String.ofList body

/-! ## Fixed places -/

/-- The text with so many places after the point; the exact value is rounded, a half to even. -/
def fixedText (x : Binary64) (places : Nat) : String :=
  if x.isNaN then "nan"
  else
    let sign := if x.negative then "-" else ""
    if x.isInfinite then sign ++ "inf"
    else
      let units := roundEven (x.magnitude * tenTo places) (twoTo 1074)
      let digits := (paddedDigits (places + 1) units).toList
      let before := digits.length - places
      let point := if places = 0 then [] else '.' :: digits.drop before
      sign ++ String.ofList (digits.take before ++ point)

/-! ## Reading -/

/-- The double nearest to `coefficient * 10 ^ exponent`. Exponents far outside the range are
decided by the number of digits, without computing the power. -/
def ofDecimal (negative : Bool) (coefficient : Nat) (exponent : Int) : Binary64 :=
  if coefficient = 0 then ofRatio negative 0 1
  else
    let point := exponent + (Nat.toDigits 10 coefficient).length
    if 400 < point then infinity negative
    else if point < -400 then ofRatio negative 0 1
    else ofRatio negative (coefficient * tenTo exponent.toNat) (tenTo (-exponent).toNat)

end Binary64

/-- Whether a text starts with a decimal digit. -/
def startsWithDigit : List Char → Bool
  | [] => false
  | c :: _ => (Text.decimalValue? c).isSome

/-- Takes digits off the front of a text; `afterDigit` says that one came just before. -/
def takeDigitsFrom (afterDigit : Bool) : List Char → List Nat × List Char
  | [] => ([], [])
  | c :: rest =>
    match Text.decimalValue? c with
    | some d =>
      let (digits, tail) := takeDigitsFrom true rest
      (d :: digits, tail)
    | none =>
      if afterDigit && c == '_' && startsWithDigit rest then takeDigitsFrom false rest
      else ([], c :: rest)

/-- The digits at the front of a text and what follows them; a single underscore may stand between
two digits. -/
def takeDigits (s : List Char) : List Nat × List Char := takeDigitsFrom false s

/-- The number written by decimal digits. -/
def ofDigits (digits : List Nat) : Nat := digits.foldl (fun n d => 10 * n + d) 0

/-- Splits a sign off the front of a text; `true` is minus. -/
def takeSign : List Char → Bool × List Char
  | '-' :: rest => (true, rest)
  | '+' :: rest => (false, rest)
  | s => (false, s)

/-- The power of ten at the end of a number: nothing, or a letter `e`, a sign and digits. -/
def readExponent? : List Char → Option Int
  | [] => some 0
  | c :: rest =>
    if c = 'e' || c = 'E' then
      let (negative, rest) := takeSign rest
      match takeDigits rest with
      | ([], _) => none
      | (digits, []) =>
        let n : Int := ofDigits digits
        some (if negative then -n else n)
      | _ => none
    else none

/-- The double an unsigned decimal text stands for. -/
def readUnsigned? (negative : Bool) (s : List Char) : Option Binary64 :=
  let (whole, rest) := takeDigits s
  let (places, rest) := match rest with
    | '.' :: rest => takeDigits rest
    | _ => ([], rest)
  if whole.isEmpty && places.isEmpty then none
  else do
    let exponent ← readExponent? rest
    return Binary64.ofDecimal negative (ofDigits (whole ++ places)) (exponent - places.length)

/-- The double a text stands for: a decimal number with blanks around it, or the name of an
infinity or of NaN in any case. -/
def Binary64.ofText? (s : String) : Option Binary64 :=
  let (negative, body) := takeSign (Text.trimChars s.toList)
  let name := String.ofList (body.map Char.toLower)
  if name = "inf" || name = "infinity" then some (infinity negative)
  else if name = "nan" then some nan
  else readUnsigned? negative body

end Reencode
