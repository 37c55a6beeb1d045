import Reencode.Bytes.Words
import Reencode.Text.Quoted

/-!
# Bytes in hexadecimal

Two digits stand for a byte. Reading stops at a digit without a partner.
-/
namespace Reencode.Bytes

/-- The value of a digit, in either case. -/
def hexValue (c : Char) : Nat := if c.isDigit then c.toNat - 48 else c.toLower.toNat - 87

/-- The bytes of digits. -/
def ofHexDigits : List Char → List UInt8
  | high :: low :: rest => UInt8.ofNat (16 * hexValue high + hexValue low) :: ofHexDigits rest
  | _ => []

/-- The bytes a text in hexadecimal stands for. -/
def ofHex (s : String) : ByteArray := ofList (ofHexDigits s.toList)

/-- Bytes in hexadecimal. -/
def toHex (b : ByteArray) : String :=
  String.ofList (b.data.toList.flatMap fun x => Text.hexPadded 2 x.toNat)

/-- Bytes again and again. -/
def repeated (unit : ByteArray) (count : Nat) : ByteArray :=
  (List.range count).foldl (fun b _ => b ++ unit) .empty

end Reencode.Bytes
