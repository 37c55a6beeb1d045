import Reencode.Bytes.Words
import Reencode.Codec.Unreadable
import Reencode.Number.Power
import Reencode.Picture.Orientation

/-!
# Exif attributes

Files of several formats carry attributes of the picture in one and the same form: a header that
tells the order of bytes and where the directory is, and a directory of entries of twelve bytes
each: tag, type, count, and the values or the place where they are. Only the orientation is of
interest here.
-/
namespace Reencode.Exif

open Bytes

/-- The order of bytes in numbers: the most or the least significant byte first. -/
inductive ByteOrder where
  | big
  | little
deriving DecidableEq

namespace ByteOrder

/-- Two bytes. -/
def word (o : ByteOrder) (b : ByteArray) (i : Nat) : Nat :=
  match o with
  | big => be16At b i
  | little => le16At b i

/-- Four bytes. -/
def long (o : ByteOrder) (b : ByteArray) (i : Nat) : Nat :=
  match o with
  | big => be32At b i
  | little => le32At b i

end ByteOrder

/-- The tag of the orientation. -/
def orientationTag : Nat := 0x0112

/-- The mark that may stand before attributes. -/
def mark : List UInt8 := ascii "Exif" ++ [0, 0]

/-- Leaves out the marks before attributes. -/
def withoutMarks (b : ByteArray) : Nat → ByteArray
  | 0 => b
  | fuel + 1 => if hasAt b 0 mark then withoutMarks (b.extract 6 b.size) fuel else b

/-- The bytes of one value of a type, if there is such a type. -/
def unitSize? : Nat → Option Nat
  | 1 | 2 | 6 | 7 => some 1
  | 3 | 8 => some 2
  | 4 | 9 | 11 | 13 => some 4
  | 5 | 10 | 12 | 16 => some 8
  | _ => none

/-- The quotient of two numbers, if it is whole. -/
def wholeQuotient? (n d : Int) : Option Int :=
  if d ≠ 0 ∧ n.emod d = 0 then some (n / d) else none

/-- The first number of values of a type; other values are no numbers. -/
def firstNumber? (o : ByteOrder) (type : Nat) (b : ByteArray) : Option Int :=
  let long (i : Nat) : Int := o.long b i
  let signed (i : Nat) : Int := (long i).bmod (twoTo 32)
  match type with
  | 3 => some (o.word b 0)
  | 4 | 13 => some (long 0)
  | 5 => wholeQuotient? (long 0) (long 4)
  | 6 => some ((byteAt b 0 : Int).bmod (twoTo 8))
  | 8 => some ((o.word b 0 : Int).bmod (twoTo 16))
  | 9 => some (signed 0)
  | 10 => wholeQuotient? (signed 0) (signed 4)
  | 16 =>
    match o with
    | .big => some (long 0 * twoTo 32 + long 4)
    | .little => some (long 4 * twoTo 32 + long 0)
  | _ => none

/-- Reads so many entries from a place on and keeps the number of the last one of a tag. Entries of
unknown types and those without values are passed over; reading ends at the first entry that is
cut or whose values lie outside. -/
def numberOf (o : ByteOrder) (tag : Nat) (b : ByteArray) : Nat → Nat → Option Int → Option Int
  | 0, _, found => found
  | entries + 1, place, found =>
    if b.size < place + 12 then found
    else
      let type := o.word b (place + 2)
      match unitSize? type with
      | none => numberOf o tag b entries (place + 12) found
      | some unit =>
        let size := o.long b (place + 4) * unit
        let start := if 4 < size then o.long b (place + 8) else place + 8
        if b.size < start + size then found
        else
          let found := if o.word b place = tag ∧ size ≠ 0
            then firstNumber? o type (slice b start size) else found
          numberOf o tag b entries (place + 12) found

/-- The order of bytes that a header announces, and whether places take eight bytes. -/
def orderOf? (b : ByteArray) : Option (ByteOrder × Bool) :=
  match (slice b 0 4).data.toList with
  | [0x4D, 0x4D, 0, 0x2A] | [0x4D, 0x4D, 0x2A, 0] | [0x4D, 0x4D, 0, 0x2B] => some (.big, false)
  | [0x49, 0x49, 0, 0x2A] | [0x49, 0x49, 0x2A, 0] => some (.little, false)
  | [0x49, 0x49, 0x2B, 0] => some (.little, true)
  | _ => none

/-- The orientation in attributes. -/
def orientation? (attributes : ByteArray) : Except Unreadable (Option Orientation) :=
  let b := withoutMarks attributes attributes.size
  if b.size = 0 then .ok none
  else
    match orderOf? b with
    | none => .error (.badAttributes (slice b 0 8).data.toList)
    | some (o, wide) =>
      if b.size < 8 || wide then .error .cutNumbers
      else
        let start := o.long b 4
        if b.size < start + 2 then .ok none
        else .ok ((numberOf o orientationTag b (o.word b start) (start + 2) none).bind
          Orientation.ofNumber?)

end Reencode.Exif
