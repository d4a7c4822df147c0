/-!
# Rejected fields

A request is a list of named values. A field that cannot be read is rejected with a reason; the
key is reported as the caller wrote it.
-/

namespace Passbook.Request

/-- Why a field is rejected. -/
inductive Reason where
  /-- The request has no field of this name. -/
  | unknownKey
  /-- The field must have a value. -/
  | absent
  /-- A text is no decimal numeral. -/
  | notDecimalText
  /-- The value cannot stand for a decimal. -/
  | notDecimal
  /-- An infinity, or no number. -/
  | notFinite
  /-- A number below zero. -/
  | negative
  /-- The value is no text. -/
  | notText
  /-- An empty text. -/
  | emptyText
  /-- The value names no kind of split. -/
  | notKind
  /-- A text or whole number that stands for neither truth value. -/
  | notFlagText
  /-- A value that cannot stand for a truth value. -/
  | notFlag
  /-- A text is no whole number. -/
  | notWholeText
  /-- A text is a whole number of too many digits. -/
  | longWholeText
  deriving DecidableEq, Repr, Inhabited

namespace Reason

/-- The code of the reason. -/
def code : Reason → String
  | unknownKey => "extra_forbidden"
  | absent => "value_error"
  | notDecimalText => "decimal_parsing"
  | notDecimal => "decimal_type"
  | notFinite => "finite_number"
  | negative => "greater_than_equal"
  | notText => "string_type"
  | emptyText => "string_too_short"
  | notKind => "enum"
  | notFlagText => "bool_parsing"
  | notFlag => "bool_type"
  | notWholeText => "int_parsing"
  | longWholeText => "int_parsing_size"

/-- The sentence that explains the reason. -/
def message : Reason → String
  | unknownKey => "Extra inputs are not permitted"
  | absent => "Value error, must not be null"
  | notDecimalText => "Input should be a valid decimal"
  | notDecimal => "Decimal input should be an integer, float, string or Decimal object"
  | notFinite => "Input should be a finite number"
  | negative => "Input should be greater than or equal to 0"
  | notText => "Input should be a valid string"
  | emptyText => "String should have at least 1 character"
  | notKind => "Input should be 'PERCENTAGE' or 'FLAT_AMOUNT'"
  | notFlagText => "Input should be a valid boolean, unable to interpret input"
  | notFlag => "Input should be a valid boolean"
  | notWholeText => "Input should be a valid integer, unable to parse string as an integer"
  | longWholeText => "Unable to parse input string as an integer, exceeded maximum size"

end Reason

/-- A rejected field: the key as it was sent, and the reason. -/
structure Rejection where
  key : String
  reason : Reason
  deriving DecidableEq, Repr, Inhabited

/-- The rejection of a field that was not read. -/
def rejections {α : Type} : Except Rejection α → List Rejection
  | .ok _ => []
  | .error rejection => [rejection]

end Passbook.Request
