import Reencode.Text.Ranges

/-!
# Blank characters

The blanks a caller may leave around a value: every Unicode separator and the control characters
that act as one. Zero-width characters are not blanks.
-/
namespace Reencode.Text

/-- Code points of the blanks. -/
def blankRanges : Ranges := [
  (0x0009, 0x000D), (0x001C, 0x0020), (0x0085, 0x0085), (0x00A0, 0x00A0), (0x1680, 0x1680),
  (0x2000, 0x200A), (0x2028, 0x2029), (0x202F, 0x202F), (0x205F, 0x205F), (0x3000, 0x3000)]

/-- Whether a character is a blank. -/
def isBlank (c : Char) : Bool := blankRanges.covers c.toNat

/-- Removes the blanks before the first and after the last other character. -/
def trimChars (s : List Char) : List Char :=
  ((s.dropWhile isBlank).reverse.dropWhile isBlank).reverse

/-- Removes the blanks around a text. -/
def trim (s : String) : String := String.ofList (trimChars s.toList)

end Reencode.Text
