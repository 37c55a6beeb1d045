import Reencode.Codec.Unreadable
import Reencode.Number.Binary64
import Reencode.Number.Integer
import Reencode.Picture.Layout

/-!
# Reading PNM files

The simplest picture files: a letter and a digit for the kind, width, height and greatest sample as
words, and then the samples, either as words or as bytes. Comments run from a number sign to the end
of the line. Samples are brought to the range of a byte; grey ones of more than a byte become
integers.
-/
namespace Reencode.Pnm

open Bytes

/-- What a file holds. -/
inductive Kind where
  | bilevel
  | grey
  | rgb
deriving DecidableEq

/-- A kind of file: what it holds, and whether samples are words. -/
structure Magic where
  kind : Kind
  inWords : Bool

/-- Whether a byte separates words. -/
def isBlank (b : UInt8) : Bool := b = 32 || (9 ≤ b && b ≤ 13)

/-- The kind of file of a first word. -/
def Magic.ofWord? (word : List UInt8) : Option Magic :=
  [("P1", ⟨.bilevel, true⟩), ("P2", ⟨.grey, true⟩), ("P3", ⟨.rgb, true⟩), ("P4", ⟨.bilevel, false⟩),
    ("P5", ⟨.grey, false⟩), ("P6", ⟨.rgb, false⟩)].findSome? fun (name, m) =>
      if word = ascii name then some m else none

/-! ## The header -/

/-- The first word, of six bytes at most, and what comes after the byte that ends it. -/
def firstWord (b : List UInt8) : List UInt8 × List UInt8 :=
  let word := (b.take 6).takeWhile fun c => !isBlank c
  (word, b.drop (if word.length = 6 then 6 else word.length + 1))

/-- Leaves out bytes up to the end of a line, and what ends it. -/
def afterLine : List UInt8 → List UInt8
  | [] => []
  | c :: rest => if c = 10 || c = 13 then rest else afterLine rest

theorem length_afterLine_le (b : List UInt8) : (afterLine b).length ≤ b.length := by
  induction b with
  | nil => simp [afterLine]
  | cons c rest ih =>
    rw [afterLine]
    split
    · simp
    · exact Nat.le_succ_of_le ih

/-- The most bytes of a word. -/
def wordLimit : Nat := 10

/-- One word of the header, with the bytes of it so far, and what comes after the byte that ends
it. A comment does not end a word. -/
def word (b : List UInt8) (sofar : List UInt8) : List UInt8 × List UInt8 :=
  if wordLimit < sofar.length then (sofar, b)
  else
    match b with
    | [] => (sofar, [])
    | c :: rest =>
      if isBlank c then if sofar.isEmpty then word rest [] else (sofar, rest)
      else if c = 35 then word (afterLine rest) sofar
      else word rest (sofar ++ [c])
termination_by b.length
decreasing_by
  all_goals simp only [List.length_cons]
  · omega
  · exact Nat.lt_succ_of_le (length_afterLine_le rest)
  · omega

/-- The integer that a word is. Only ASCII digits and signs count. -/
def integer (w : List UInt8) : Except Unreadable Int :=
  let isOdd (c : UInt8) : Bool := 0x80 ≤ c || (28 ≤ c && c ≤ 31)
  match readInteger (String.ofList (w.map fun c => Char.ofNat c.toNat)) with
  | .ok n => if w.any isOdd then .error (.badInteger w) else .ok n
  | .error _ => .error (.badInteger w)

/-- One integer of the header. -/
def headerInteger (b : List UInt8) : Except Unreadable (Int × List UInt8) := do
  let (w, rest) := word b []
  if w.isEmpty then throw .cutHeader
  if wordLimit < w.length then throw (.longHeaderWord w)
  return (← integer w, rest)

/-! ## Samples in words -/

/-- Leaves out the comments: each with the byte that ends its line. -/
def withoutComments (b : List UInt8) : List UInt8 :=
  match b with
  | [] => []
  | c :: rest =>
    if c = 35 then withoutComments (afterLine rest) else c :: withoutComments rest
termination_by b.length
decreasing_by
  all_goals simp only [List.length_cons]
  · exact Nat.lt_succ_of_le (length_afterLine_le rest)
  · omega

/-- The words between blanks, the first one begun already, and what comes after the last blank. -/
def cutAtBlanks : List UInt8 → List UInt8 → List (List UInt8) × List UInt8
  | [], begun => ([], begun.reverse)
  | c :: rest, begun =>
    if isBlank c then
      let (words, open_) := cutAtBlanks rest []
      (if begun.isEmpty then words else begun.reverse :: words, open_)
    else cutAtBlanks rest (c :: begun)

/-- A sample brought from one range to another, in double precision, a half to the even
neighbour. -/
def rescale (n : Int) (maximum range : Nat) : Nat :=
  (((Binary64.quotient n maximum).mul (.ofInt range)).toIntEven).toNat

/-- A word is refused when it is too long to be a sample. -/
def checkLength (w : List UInt8) : Except Unreadable Unit :=
  if wordLimit < w.length then .error (.longSample (w.take (wordLimit + 1))) else .ok ()

/-- So many samples in words; later words are not looked at. -/
def samplesOf (maximum range : Nat) : List (List UInt8) → Nat → Except Unreadable (List Nat)
  | [], _ | _, 0 => .ok []
  | w :: rest, wanted + 1 => do
    checkLength w
    let n ← integer w
    if n < 0 then throw (.negativeSample n)
    if (maximum : Int) < n then throw (.largeSample n)
    return rescale n maximum range :: (← samplesOf maximum range rest wanted)

/-- All samples of a file of words. The last word counts only when the others are too few, but it
must not be too long in any case. -/
def samplesInWords (maximum range wanted : Nat) (b : List UInt8) :
    Except Unreadable (List Nat) := do
  let (words, last) := cutAtBlanks (withoutComments b) []
  checkLength last
  let samples ← samplesOf maximum range (words ++ if last.isEmpty then [] else [last]) wanted
  if samples.length < wanted then throw .fewSamples
  return samples

/-- All samples of a file of zeros and ones, which need no blanks between them; one is black. -/
def bitsInWords (wanted : Nat) (b : List UInt8) : Except Unreadable (List Bool) := do
  let digits := (withoutComments b).filter fun c => !isBlank c
  match digits.find? fun c => c ≠ 48 && c ≠ 49 with
  | some c => throw (.badBit c)
  | none =>
    if digits.length < wanted then throw .fewSamples
    return (digits.take wanted).map (· == 48)

/-! ## Samples in bytes -/

/-- All samples of a file of bytes, of one or two bytes each. -/
def samplesInBytes (maximum range wanted : Nat) (b : ByteArray) :
    Except Unreadable (List Nat) :=
  let size := if maximum < 256 then 1 else 2
  if b.size < wanted * size then .error .fewSamples
  else .ok ((List.range wanted).map fun i =>
    let n := if size = 1 then byteAt b i else be16At b (2 * i)
    min range (rescale n maximum range))

/-- Samples that need no rescaling: whole rows of them. -/
def wholeRows (rowBytes height : Nat) (b : ByteArray) : Except Unreadable ByteArray :=
  if b.size < rowBytes * height then .error (.missingSamples (b.size % rowBytes)) else .ok b

/-! ## Pictures -/

/-- A canvas of samples of a byte. -/
def byteCanvas (k : Kind) (width height : Nat) (samples : List Nat) : Canvas :=
  let m : Mode := if k = .rgb then .rgb else .grey
  .ofBytes m width height (ofList (samples.map UInt8.ofNat)) .empty

/-- A canvas of greater samples. -/
def integerCanvas (width height : Nat) (samples : List Nat) : Canvas :=
  .ofBytes .integer width height (ofList (samples.flatMap le32)) .empty

/-- The canvas of the samples after a header. -/
def readSamples (m : Magic) (width height maximum : Nat) (b : List UInt8) :
    Except Unreadable Canvas := do
  let pixels := width * height
  match m.kind, m.inWords with
  | .bilevel, true =>
    let bits := (← bitsInWords pixels b).toArray
    return .bilevel (Raster.ofFn width height fun x y => bits.getD (y * width + x) false)
  | .bilevel, false =>
    let rows ← wholeRows ((width + 7) / 8) height (ofList b)
    return .bilevel ((Raster.unpacked width height rows).map not)
  | .grey, inWords =>
    if maximum ≤ 255 then
      if inWords then return byteCanvas .grey width height (← samplesInWords maximum 255 pixels b)
      else if maximum = 255 then
        return .ofBytes .grey width height (← wholeRows width height (ofList b)) .empty
      else return byteCanvas .grey width height (← samplesInBytes maximum 255 pixels (ofList b))
    else if inWords then
      return integerCanvas width height (← samplesInWords maximum 65535 pixels b)
    else if maximum = 65535 then
      let rows ← wholeRows (2 * width) height (ofList b)
      return .integer (Raster.read width height 2 fun i => Int32.ofNat (be16At rows i))
    else return integerCanvas width height (← samplesInBytes maximum 65535 pixels (ofList b))
  | .rgb, inWords =>
    if inWords then
      return byteCanvas .rgb width height (← samplesInWords maximum 255 (3 * pixels) b)
    else if maximum = 255 then
      return .ofBytes .rgb width height (← wholeRows (3 * width) height (ofList b)) .empty
    else return byteCanvas .rgb width height (← samplesInBytes maximum 255 (3 * pixels) (ofList b))

/-- The picture of a file. -/
def read (b : ByteArray) : Except Unreadable Picture := do
  let (first, rest) := firstWord b.data.toList
  match Magic.ofWord? first with
  | none => throw .unknown
  | some m =>
    let (width, rest) ← headerInteger rest
    let (height, rest) ← headerInteger rest
    let (maximum, rest) ←
      if m.kind = .bilevel then pure (1, rest)
      else do
        let (n, rest) ← headerInteger rest
        if n ≤ 0 || 65536 ≤ n then throw .badMaximum
        pure (n, rest)
    if width ≤ 0 || height ≤ 0 then throw .unknown
    if (Unreadable.pixelLimit : Int) < width * height then
      throw (.tooManyPixels (width * height).toNat)
    return .plain (← readSamples m width.toNat height.toNat maximum.toNat rest)

end Reencode.Pnm
