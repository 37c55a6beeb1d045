import Reencode.Failure

/-!
# Human readable sizes

A size below 1024 is counted in bytes; a larger one is written with one decimal place in the unit
that leaves less than 1024 of it, as far as units go. A size that would round up to 1024 of a unit
is written as 1.0 of the next.
-/
namespace Reencode

/-- Units of sizes, each 1024 times the one before. -/
def sizeUnits : List String :=
  ["KiB", "MiB", "GiB", "TiB", "PiB", "EiB", "ZiB", "YiB", "RiB", "QiB"]

/-- The largest power of 1024, up to the last unit's, that a number of bytes reaches. -/
def sizeExponent (bytes : Nat) : Nat := min (bytes.log2 / 10) sizeUnits.length

/-- A double divided by a power of 1024. -/
def Binary64.inUnit (x : Binary64) (exponent : Nat) : Binary64 :=
  if x.isFinite then ofMagnitude x.negative x.magnitude (twoTo (10 * exponent)) else x

/-- The double 1024. -/
def kilo : Binary64 := Binary64.ofInt 1024

/-- The text of a size that is a number. -/
def sizeTextOf (x : Binary64) : String :=
  if x.abs = Binary64.one then toString x.truncate ++ " Byte"
  else if x.abs.lt kilo then toString x.truncate ++ " Bytes"
  else
    let e := if x.isFinite then sizeExponent x.truncate.natAbs else sizeUnits.length
    let reached := ((x.abs.inUnit e).roundPlaces 1).lt kilo
    let e := if e < sizeUnits.length ∧ !reached then e + 1 else e
    (x.inUnit e).fixedText 1 ++ " " ++ (sizeUnits[e - 1]?).getD ""

/-- The text of a size in bytes; too large a number has none. -/
def sizeText (bytes : Int) : Except Failure String :=
  match Binary64.ofInt? bytes with
  | some x => .ok (sizeTextOf x)
  | none => .error .overflow

/-- The text of a size of unknown kind. -/
def Value.sizeText : Value → Except Failure String
  | int n => Reencode.sizeText n
  | bool b => Reencode.sizeText (if b then 1 else 0)
  | real x =>
    if x.isNaN then .error (.value "cannot convert float NaN to integer") else .ok (sizeTextOf x)
  | text s =>
    match Binary64.ofText? s with
    | some x =>
      if x.isNaN then .error (.value "cannot convert float NaN to integer") else .ok (sizeTextOf x)
    | none => .error (.value ("could not convert string to float: " ++ Text.quoted s))
  | v => .error (.type ("float() argument must be a string or a real number, not '" ++
      v.kindName ++ "'"))

end Reencode
