import Reencode.Number.Decimal
import Reencode.Text.Quoted

/-!
# Integers written as text

A text stands for an integer when, without the blanks around it, it is a sign and decimal digits of
any script, grouped by single underscores if at all. Texts with more than `digitLimit` digits are
refused, because reading them would take time quadratic in their length.
-/
namespace Reencode

/-- The most digits an integer text may have. -/
def digitLimit : Nat := 4300

/-- Why a text is no integer: it is not a sign and digits, or it has too many digits. -/
inductive IntegerTextError where
  | malformed (text : String)
  | tooLong (digits : Nat)
deriving DecidableEq

/-- The wording of the reason; a long text is cut. -/
def IntegerTextError.message : IntegerTextError → String
  | malformed text =>
    "invalid literal for int() with base 10: " ++
      String.ofList ((Text.quoted text).toList.take 200)
  | tooLong digits =>
    "Exceeds the limit (4300 digits) for integer string conversion: value has " ++
      toString digits ++ " digits; use sys.set_int_max_str_digits() to increase the limit"

/-- The integer a text stands for. -/
def readInteger (text : String) : Except IntegerTextError Int :=
  let (negative, body) := takeSign (Text.trimChars text.toList)
  let (digits, rest) := takeDigits body
  if digitLimit < digits.length then .error (.tooLong digits.length)
  else if digits.isEmpty || !rest.isEmpty then .error (.malformed text)
  else .ok (if negative then -(ofDigits digits : Int) else ofDigits digits)

end Reencode
