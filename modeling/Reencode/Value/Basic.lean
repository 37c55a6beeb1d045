import Reencode.Number.Basic
import Reencode.Text.Quoted
import Reencode.Value.Problem

/-!
# Values of callers

Parameters arrive from callers that promise nothing about their kind: a quality may be an integer,
a double, a text or nothing at all. `Value` is what such a caller can send; the modules that accept
one say which kinds they take and what they make of them.

A value of a kind that is made from one of these, such as a member of an enumeration of integers or
of texts, counts as one of them.  An object of any other kind is an `OtherValue`.
-/
namespace Reencode

/-- What is relied on of an object of a kind that the library does not know, such as bytes, a
decimal number or a fraction: how it is shown, and what a lenient reading makes of it. -/
structure OtherValue where
  kind : String
  text : String
  isYes : Bool
  integer : Except FieldProblem Int
  number : Except FieldProblem Binary64
  truth : Except FieldProblem Bool
  word : Except FieldProblem String

/-- A value of unknown kind. -/
inductive Value where
  | null
  | bool (b : Bool)
  | int (n : Int)
  | real (x : Binary64)
  | text (s : String)
  | list (items : List Value)
  | record (fields : List (String × Value))
  | other (o : OtherValue)
deriving Inhabited

namespace Value

/-- The value of a field of a record. -/
def field? (v : Value) (name : String) : Option Value :=
  match v with
  | record fields => fields.lookup name
  | _ => none

/-- Whether no value was given. -/
def isNull : Value → Bool
  | null => true
  | _ => false

/-- A value as a number to calculate with; a truth value counts as one or zero. -/
def asNumber? : Value → Option Number
  | .int n => some (.int n)
  | .bool b => some (.int (if b then 1 else 0))
  | .real x => some (.real x)
  | _ => none

/-- The word for the kind of a value. -/
def kindName : Value → String
  | .null => "NoneType"
  | .bool _ => "bool"
  | .int _ => "int"
  | .real _ => "float"
  | .text _ => "str"
  | .list _ => "list"
  | .record _ => "dict"
  | .other o => o.kind

mutual

/-- Applies a function to every value inside a value, and to the result. -/
def mapNested (f : Value → Value) : Value → Value
  | list items => f (list (mapNestedItems f items))
  | record fields => f (record (mapNestedFields f fields))
  | v => f v

/-- Applies a function so to the items of a list. -/
def mapNestedItems (f : Value → Value) : List Value → List Value
  | [] => []
  | v :: rest => mapNested f v :: mapNestedItems f rest

/-- Applies a function so to the fields of a record. -/
def mapNestedFields (f : Value → Value) : List (String × Value) → List (String × Value)
  | [] => []
  | (name, v) :: rest => (name, mapNested f v) :: mapNestedFields f rest

end

/-- A value that may be absent. -/
def ofOption : Option Value → Value
  | some v => v
  | none => null

/-! ## Texts -/

mutual

/-- The text of a value inside another one: texts are quoted. -/
def quoted : Value → String
  | null => "None"
  | bool true => "True"
  | bool false => "False"
  | int n => toString n
  | real x => x.text
  | text s => Text.quoted s
  | list items => "[" ++ quotedItems items ++ "]"
  | record fields => "\x7b" ++ quotedFields fields ++ "\x7d"
  | other o => o.text

/-- The texts of a list's items. -/
def quotedItems : List Value → String
  | [] => ""
  | [v] => v.quoted
  | v :: rest => v.quoted ++ ", " ++ quotedItems rest

/-- The texts of a record's fields. -/
def quotedFields : List (String × Value) → String
  | [] => ""
  | [(name, v)] => Text.quoted name ++ ": " ++ v.quoted
  | (name, v) :: rest => Text.quoted name ++ ": " ++ v.quoted ++ ", " ++ quotedFields rest

end

/-- The text of a value on its own: a text is shown as it is. -/
def display : Value → String
  | text s => s
  | v => v.quoted

/-- The most digits of an integer that is written out for a caller. -/
def longestInteger : Nat := 4300

/-- What is said instead of an integer with more digits. -/
def lengthMessage : String :=
  "Exceeds the limit (" ++ toString longestInteger ++ " digits) for integer string " ++
    "conversion; use sys.set_int_max_str_digits() to increase the limit"

mutual

/-- Whether a value has a text: one with an integer of too many digits has none. -/
def isWritable : Value → Bool
  | int n => decide (n.natAbs < tenTo longestInteger)
  | list items => areWritableItems items
  | record fields => areWritableFields fields
  | _ => true

/-- Whether the items of a list have texts. -/
def areWritableItems : List Value → Bool
  | [] => true
  | v :: rest => isWritable v && areWritableItems rest

/-- Whether the fields of a record have texts. -/
def areWritableFields : List (String × Value) → Bool
  | [] => true
  | (_, v) :: rest => isWritable v && areWritableFields rest

end

end Value
/-- A number as a value. -/
def Number.toValue : Number → Value
  | int n => .int n
  | real x => .real x

end Reencode
