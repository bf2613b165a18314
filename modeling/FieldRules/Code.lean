/-!
# Error codes

The codes of the built-in rules. A code is a token for callers to map to a message of their own; it
is never a sentence.
-/

set_option autoImplicit false

namespace FieldRules

/-- An error code of a built-in rule. -/
inductive Code where
  | required
  | cannotBeEmpty
  | formatError
  | notAllowedValue
  | tooLong
  | tooShort
  | wrongFormat
  | notInteger
  | notPositiveInteger
  | notDecimal
  | notPositiveDecimal
  | notNumber
  | tooHigh
  | tooLow
  | wrongEmail
  | wrongUrl
  | wrongDate
  | fieldsNotEqual
deriving DecidableEq, Repr

namespace Code

/-- The token that stands for the code. -/
def text : Code → String
  | required => "REQUIRED"
  | cannotBeEmpty => "CANNOT_BE_EMPTY"
  | formatError => "FORMAT_ERROR"
  | notAllowedValue => "NOT_ALLOWED_VALUE"
  | tooLong => "TOO_LONG"
  | tooShort => "TOO_SHORT"
  | wrongFormat => "WRONG_FORMAT"
  | notInteger => "NOT_INTEGER"
  | notPositiveInteger => "NOT_POSITIVE_INTEGER"
  | notDecimal => "NOT_DECIMAL"
  | notPositiveDecimal => "NOT_POSITIVE_DECIMAL"
  | notNumber => "NOT_NUMBER"
  | tooHigh => "TOO_HIGH"
  | tooLow => "TOO_LOW"
  | wrongEmail => "WRONG_EMAIL"
  | wrongUrl => "WRONG_URL"
  | wrongDate => "WRONG_DATE"
  | fieldsNotEqual => "FIELDS_NOT_EQUAL"

theorem text_ne_empty (c : Code) : c.text ≠ "" := by cases c <;> decide

end Code

end FieldRules
