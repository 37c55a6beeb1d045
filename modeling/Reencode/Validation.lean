import Reencode.Number.Integer
import Reencode.Value.Basic

/-!
# Checking untyped fields

A record whose fields come from a caller is checked field by field. Every field that cannot be read
is reported with its place, a code and a wording; the report lists the fields in the order of the
record they belong to. Readings are lenient where no information is lost: a whole double is an
integer, a text that spells a number is that number, `yes` is a truth value.
-/
namespace Reencode

/-- A problem and the field it was found in, by the names that lead there, outermost first. -/
structure FieldError where
  place : List String
  problem : FieldProblem
deriving DecidableEq

/-- The error as a record. -/
def FieldError.toValue (e : FieldError) : Value := .record [
  ("loc", .list (e.place.map .text)), ("type", .text e.problem.code),
  ("msg", .text e.problem.message)]

/-- The result of checking a record: its value, or every field error in order. -/
inductive Checked (α : Type) where
  | valid (value : α)
  | invalid (errors : List FieldError)

namespace Checked

variable {α β : Type}

/-- Changes the value. -/
def map (f : α → β) : Checked α → Checked β
  | valid value => valid (f value)
  | invalid errors => invalid errors

/-- Applies a checked function to a checked value; the errors of both are kept. -/
def seq : Checked (α → β) → Checked α → Checked β
  | valid f, valid value => valid (f value)
  | valid _, invalid errors => invalid errors
  | invalid errors, valid _ => invalid errors
  | invalid errors, invalid more => invalid (errors ++ more)

instance : Functor Checked where
  map := map

instance : Applicative Checked where
  pure := valid
  seq f x := seq f (x ())

/-- Reports a reading as that of a field. -/
def field (name : String) : Except FieldProblem α → Checked α
  | .ok value => valid value
  | .error problem => invalid [⟨[name], problem⟩]

/-- Reports the errors of a nested record below the field that holds it. -/
def within (name : String) : Checked α → Checked α
  | valid value => valid value
  | invalid errors => invalid (errors.map fun e => { e with place := name :: e.place })

end Checked

/-! ## Lenient readings -/

/-- Blanks that a lenient reading removes: all but the four information separators. -/
def isLenientBlank (c : Char) : Bool := Text.isBlank c && !(0x1C ≤ c.toNat && c.toNat ≤ 0x1F)

/-- Removes the blanks around a text that is read leniently. -/
def trimLenient (s : List Char) : List Char :=
  ((s.dropWhile isLenientBlank).reverse.dropWhile isLenientBlank).reverse

/-- Removes a plus, unless a minus follows it. -/
def dropPlus : List Char → Option (List Char)
  | '+' :: '-' :: _ => none
  | '+' :: rest => some rest
  | s => some s

/-- What is left after zeros in front, where the zero or underscore `last` was skipped just before:
one character stays if nothing follows it but a point or the end. -/
def skipZeros (last : Char) : List Char → Option (List Char)
  | [] => some [last]
  | c :: rest =>
    if c = '0' || c = '_' then skipZeros c rest
    else if c = '-' || c.isDigit then some (c :: rest)
    else if c = '.' then some (last :: c :: rest)
    else none

/-- Removes zeros in front of an integer, and underscores between them. -/
def dropLeadingZeros : List Char → Option (List Char)
  | [] => none
  | c :: rest =>
    if c = '0' then skipZeros c rest
    else if c = '-' || c.isDigit then some (c :: rest)
    else none

/-- Removes a point that nothing but zeros follow. -/
def dropFraction (s : List Char) : List Char :=
  let zeros := (s.dropWhile (· != '.')).tail
  if !zeros.isEmpty && zeros.all (· == '0') then s.takeWhile (· != '.') else s

/-- Removes the underscores of a text in which they all stand alone and between other characters. -/
def ungroup (s : List Char) : List Char :=
  if s.head? = some '_' || s.getLast? = some '_' || (s.zip s.tail).contains ('_', '_') then s
  else s.filter (· != '_')

/-- The number of ASCII digits without zeros in front. -/
def plainNat? (digits : List Char) : Option Nat :=
  if digits.isEmpty || !digits.all Char.isDigit || digits.head? = some '0' && digits.length != 1 ||
      digitLimit < digits.length then none
  else some (ofDigits (digits.filterMap Text.decimalValue?))

/-- The integer of such digits, possibly after a minus. -/
def plainInteger? : List Char → Option Int
  | '-' :: digits => (plainNat? digits).map fun (n : Nat) => -(n : Int)
  | digits => (plainNat? digits).map fun (n : Nat) => (n : Int)

/-- The integer a text spells leniently: ASCII digits after a sign, grouped by underscores, with
zeros in front, or with a point and zeros behind. What is left without all these must be short
enough; the zeros that go may be any number. -/
def lenientInteger? (s : String) : Option Int := do
  let unsigned ← dropPlus (trimLenient s.toList)
  let digits ← dropLeadingZeros unsigned
  plainInteger? (ungroup (dropFraction digits))

/-- A way to read texts as integers. -/
abbrev IntegerReader : Type := String → Except FieldProblem Int

/-- Reads integers as `lenientInteger?` spells them. -/
def lenientInteger : IntegerReader := fun s =>
  match lenientInteger? s with
  | some n => .ok n
  | none => .error .integerText

namespace Value

/-- Reads an integer. -/
def readInteger : Value → Except FieldProblem Int
  | int n => .ok n
  | bool b => .ok (if b then 1 else 0)
  | real x =>
    if !x.isFinite then .error .notFinite
    else if !x.isWhole then .error .fractional
    else if -(twoTo 63) < x.truncate ∧ x.truncate < twoTo 63 then .ok x.truncate
    else .error .integerRange
  | text s => lenientInteger s
  | other o => o.integer
  | _ => .error .notInteger

/-- Reads a double. -/
def readNumber : Value → Except FieldProblem Binary64
  | int n => .ok (Binary64.ofInt n)
  | bool b => .ok (Binary64.ofInt (if b then 1 else 0))
  | real x => .ok x
  | text s =>
    match Binary64.ofText? s with
    | some x => .ok x
    | none => .error .numberText
  | other o => o.number
  | _ => .error .notNumber

/-- Reads a text. -/
def readText : Value → Except FieldProblem String
  | text s => .ok s
  | other o => o.word
  | _ => .error .notText

/-- Words that mean yes. -/
def truthWords : List String := ["1", "t", "true", "y", "yes", "on"]

/-- Words that mean no. -/
def untruthWords : List String := ["0", "f", "false", "n", "no", "off"]

/-- Reads a truth value. -/
def readTruth : Value → Except FieldProblem Bool
  | bool b => .ok b
  | int n => if n = 0 then .ok false else if n = 1 then .ok true else .error .truthText
  | real x =>
    if !x.isFinite || !x.isWhole then .error .notTruth
    else if x.truncate = 0 then .ok false
    else if x.truncate = 1 then .ok true
    else .error .truthText
  | text s =>
    let word := String.ofList (s.toList.map Char.toLower)
    if word ∈ truthWords then .ok true
    else if word ∈ untruthWords then .ok false
    else .error .truthText
  | other o => o.truth
  | _ => .error .notTruth

/-- Reads a value that may be absent. -/
def readOptional {α : Type} (read : Value → Except FieldProblem α) :
    Value → Except FieldProblem (Option α)
  | null => .ok none
  | v => (read v).map some

end Value

/-- Reads a field that must be there. -/
def required {α : Type} (fields : List (String × Value)) (name : String)
    (read : Value → Except FieldProblem α) : Checked α :=
  Checked.field name (match fields.lookup name with
    | some v => read v
    | none => .error .missing)

/-- Reads a field that has a default. -/
def defaulted {α : Type} (fields : List (String × Value)) (name : String) (default : α)
    (read : Value → Except FieldProblem α) : Checked α :=
  Checked.field name (match fields.lookup name with
    | some v => read v
    | none => .ok default)

end Reencode
