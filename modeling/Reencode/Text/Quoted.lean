import Reencode.Text.Printable

/-!
# Quoted text

A text inside a message is quoted so that its ends and its odd characters can be seen: single
quotes, unless it holds one and no double quote; a backslash before the quote and the backslash;
short escapes for line feed, carriage return and tab; and the code point in hexadecimal for every
other character that is not printable.
-/
namespace Reencode.Text

/-- A number in hexadecimal with at least so many digits. -/
def hexPadded (width n : Nat) : List Char :=
  let digits := Nat.toDigits 16 n
  List.replicate (width - digits.length) '0' ++ digits

/-- The quote for a text: single, unless the text holds single quotes only. -/
def quoteFor (s : List Char) : Char := if '\'' ∈ s ∧ '"' ∉ s then '"' else '\''

/-- The written form of a character between the given quotes. -/
def escapeChar (quote c : Char) : List Char :=
  if c = quote || c = '\\' then ['\\', c]
  else if c = '\n' then ['\\', 'n']
  else if c = '\r' then ['\\', 'r']
  else if c = '\t' then ['\\', 't']
  else if isPrintable c then [c]
  else if c.toNat < 0x100 then '\\' :: 'x' :: hexPadded 2 c.toNat
  else if c.toNat < 0x10000 then '\\' :: 'u' :: hexPadded 4 c.toNat
  else '\\' :: 'U' :: hexPadded 8 c.toNat

/-- A text between quotes. -/
def quoted (s : String) : String :=
  let quote := quoteFor s.toList
  String.ofList (quote :: s.toList.flatMap (escapeChar quote) ++ [quote])

/-- Bytes between quotes after a mark; whatever is not printable ASCII is written in hexadecimal. -/
def quotedBytes (b : List UInt8) : String :=
  let quote := quoteFor (b.map fun v => Char.ofNat v.toNat)
  String.ofList ('b' :: quote :: b.flatMap (fun v =>
    if v < 0x80 then escapeChar quote (Char.ofNat v.toNat) else '\\' :: 'x' :: hexPadded 2 v.toNat)
    ++ [quote])

end Reencode.Text
