import Reencode.Value.Basic

/-!
# Values as JSON

Callers of the session send and receive values as JSON. A number with a point or an exponent is a
double, any other one an integer of any size, so that reading loses nothing. The reader takes one
unit of fuel per nested value and is started with more fuel than the text has characters.
-/
namespace Reencode.Value

/-! ## Reading -/

private def isJsonBlank (c : Char) : Bool := c = ' ' || c = '\n' || c = '\r' || c = '\t'

private def skipBlanks (s : List Char) : List Char := s.dropWhile isJsonBlank

private def hexDigit? (c : Char) : Option Nat :=
  if c.isDigit then some (c.toNat - '0'.toNat)
  else if 'a' ≤ c && c ≤ 'f' then some (c.toNat - 'a'.toNat + 10)
  else if 'A' ≤ c && c ≤ 'F' then some (c.toNat - 'A'.toNat + 10)
  else none

private def hexUnit? (s : List Char) : Option Nat :=
  s.foldlM (fun n c => (hexDigit? c).map (16 * n + ·)) 0

private def isHighHalf (unit : Nat) : Bool := 0xD800 ≤ unit && unit < 0xDC00

/-- Adds a 16-bit unit to a text; `high` is the first half of a pair that came just before. -/
private def pushUnit (high : Option Nat) (unit : Nat) (done : List Char) :
    Option Nat × List Char :=
  match high with
  | some h =>
    if 0xDC00 ≤ unit && unit < 0xE000 then
      (none, Char.ofNat (0x10000 + (h - 0xD800) * 0x400 + (unit - 0xDC00)) :: done)
    else if isHighHalf unit then (some unit, '\uFFFD' :: done)
    else (none, Char.ofNat unit :: '\uFFFD' :: done)
  | none => if isHighHalf unit then (some unit, done) else (none, Char.ofNat unit :: done)

/-- Reads a text up to its closing quote; `done` holds the characters so far, last one first. -/
private def readQuoted (high : Option Nat) (done : List Char) :
    List Char → Option (String × List Char)
  | [] => none
  | '"' :: rest => some (String.ofList done.reverse, rest)
  | '\\' :: 'u' :: a :: b :: c :: d :: rest =>
    match hexUnit? [a, b, c, d] with
    | none => none
    | some unit =>
      let (high, done) := pushUnit high unit done
      readQuoted high done rest
  | '\\' :: c :: rest =>
    let char := match c with
      | 'n' => '\n'
      | 't' => '\t'
      | 'r' => '\r'
      | 'b' => '\x08'
      | 'f' => '\x0c'
      | plain => plain
    readQuoted none (char :: done) rest
  | c :: rest => readQuoted none (c :: done) rest

private def isNumberChar (c : Char) : Bool :=
  c.isDigit || c = '-' || c = '+' || c = '.' || c = 'e' || c = 'E'

private def numberOf? (s : List Char) : Option Value :=
  if s.any fun c => c = '.' || c = 'e' || c = 'E' then
    (Binary64.ofText? (String.ofList s)).map real
  else
    let (negative, digits) := takeSign s
    if digits.isEmpty then none
    else (Text.decimalNat? digits).map fun n => int (if negative then -(n : Int) else n)

mutual

/-- Reads one value off the front of a text. -/
private def readValue : Nat → List Char → Option (Value × List Char)
  | 0, _ => none
  | fuel + 1, s =>
    match skipBlanks s with
    | 'n' :: 'u' :: 'l' :: 'l' :: rest => some (null, rest)
    | 't' :: 'r' :: 'u' :: 'e' :: rest => some (bool true, rest)
    | 'f' :: 'a' :: 'l' :: 's' :: 'e' :: rest => some (bool false, rest)
    | '"' :: rest => (readQuoted none [] rest).map fun (t, rest) => (text t, rest)
    | '[' :: rest =>
      match skipBlanks rest with
      | ']' :: rest => some (list [], rest)
      | rest => (readItems fuel [] rest).map fun (items, rest) => (list items, rest)
    | '{' :: rest =>
      match skipBlanks rest with
      | '}' :: rest => some (record [], rest)
      | rest => (readFields fuel [] rest).map fun (fields, rest) => (record fields, rest)
    | rest => (numberOf? (rest.takeWhile isNumberChar)).map (·, rest.dropWhile isNumberChar)

/-- Reads the items of a list up to its bracket; `done` holds the items so far, last one first. -/
private def readItems : Nat → List Value → List Char → Option (List Value × List Char)
  | 0, _, _ => none
  | fuel + 1, done, s =>
    match readValue fuel s with
    | none => none
    | some (v, rest) =>
      match skipBlanks rest with
      | ',' :: rest => readItems fuel (v :: done) rest
      | ']' :: rest => some ((v :: done).reverse, rest)
      | _ => none

/-- Reads the fields of a record up to its brace. -/
private def readFields : Nat → List (String × Value) → List Char →
    Option (List (String × Value) × List Char)
  | 0, _, _ => none
  | fuel + 1, done, s =>
    match skipBlanks s with
    | '"' :: rest =>
      match readQuoted none [] rest with
      | none => none
      | some (name, rest) =>
        match skipBlanks rest with
        | ':' :: rest =>
          match readValue fuel rest with
          | none => none
          | some (v, rest) =>
            match skipBlanks rest with
            | ',' :: rest => readFields fuel ((name, v) :: done) rest
            | '}' :: rest => some (((name, v) :: done).reverse, rest)
            | _ => none
        | _ => none
    | _ => none

end

/-- The value a JSON text stands for. -/
def ofJson? (s : String) : Option Value :=
  let chars := s.toList
  match readValue (2 * chars.length + 2) chars with
  | some (v, rest) => if (skipBlanks rest).isEmpty then some v else none
  | none => none

/-! ## Writing -/

private def jsonChar (out : String) (c : Char) : String :=
  if c = '"' then out ++ "\\\""
  else if c = '\\' then out ++ "\\\\"
  else if c = '\n' then out ++ "\\n"
  else if c.toNat < 0x20 then out ++ "\\u" ++ String.ofList (Text.hexPadded 4 c.toNat)
  else out.push c

private def writeText (out : String) (s : String) : String :=
  (s.toList.foldl jsonChar (out.push '"')).push '"'

mutual

/-- Writes a value after what is written already. -/
private def write (out : String) : Value → String
  | null => out ++ "null"
  | bool true => out ++ "true"
  | bool false => out ++ "false"
  | int n => out ++ toString n
  | real x => out ++ x.text
  | text s => writeText out s
  | list items => (writeItems (out.push '[') true items).push ']'
  | record fields => (writeFields (out.push '{') true fields).push '}'
  | other o => writeText out o.text

/-- Writes the items of a list. -/
private def writeItems (out : String) (first : Bool) : List Value → String
  | [] => out
  | v :: rest => writeItems (write (if first then out else out.push ',') v) false rest

/-- Writes the fields of a record. -/
private def writeFields (out : String) (first : Bool) : List (String × Value) → String
  | [] => out
  | (name, v) :: rest =>
    writeFields (write ((writeText (if first then out else out.push ',') name).push ':') v) false
      rest

end

/-- The JSON text of a value. -/
def toJson (v : Value) : String := write "" v

end Reencode.Value
