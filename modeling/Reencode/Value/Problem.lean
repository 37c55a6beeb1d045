/-!
# Problems of fields

What can be wrong with the value of a field: each problem has a code and a wording.  Values of kinds
that the library does not know bring along what is wrong with them, so the problems come before the
values.
-/
namespace Reencode

/-- Why a field cannot be read. An integer, a truth value or a number may be given as a text too, so
either the value is neither (`notInteger`, `notTruth`, `notNumber`), or it is a text that spells none
(`integerText`, `truthText`, `numberText`). A double is an integer if it is whole, and not beyond the
integers that doubles are read into (`integerRange`). A field may have rules of its own
(`refused`). -/
inductive FieldProblem where
  | missing
  | notInteger
  | integerText
  | fractional
  | notFinite
  | integerRange
  | notText
  | notTruth
  | truthText
  | notNumber
  | numberText
  | notBytes
  | notRecord (model : String)
  | notOneOf (allowed : String)
  | refused (reason : String)
deriving DecidableEq

/-- The code of a problem. -/
def FieldProblem.code : FieldProblem → String
  | missing => "missing"
  | notInteger => "int_type"
  | integerText => "int_parsing"
  | fractional => "int_from_float"
  | notFinite => "finite_number"
  | integerRange => "int_parsing_size"
  | notText => "string_type"
  | notTruth => "bool_type"
  | truthText => "bool_parsing"
  | notNumber => "float_type"
  | numberText => "float_parsing"
  | notBytes => "bytes_type"
  | notRecord _ => "model_type"
  | notOneOf _ => "enum"
  | refused _ => "value_error"

/-- The wording of a problem. -/
def FieldProblem.message : FieldProblem → String
  | missing => "Field required"
  | notInteger => "Input should be a valid integer"
  | integerText => "Input should be a valid integer, unable to parse string as an integer"
  | fractional => "Input should be a valid integer, got a number with a fractional part"
  | notFinite => "Input should be a finite number"
  | integerRange => "Unable to parse input string as an integer, exceeded maximum size"
  | notText => "Input should be a valid string"
  | notTruth => "Input should be a valid boolean"
  | truthText => "Input should be a valid boolean, unable to interpret input"
  | notNumber => "Input should be a valid number"
  | numberText => "Input should be a valid number, unable to parse string as a number"
  | notBytes => "Input should be a valid bytes"
  | notRecord model => "Input should be a valid dictionary or instance of " ++ model
  | notOneOf allowed => "Input should be " ++ allowed
  | refused reason => "Value error, " ++ reason

end Reencode
