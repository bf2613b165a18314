import FieldRules.Pattern.Problem

/-!
# Why a rule refuses its arguments

A built-in rule checks its arguments when a schema is compiled. Each way of refusing them is a cause
of its own, together with what its message has to show.
-/

set_option autoImplicit false

namespace FieldRules

/-- A built-in rule's objection to its arguments. -/
inductive Refusal where
  | notANumber (argument shown : String)
  | notALength (argument shown : String)
  | reversedBounds (low lowShown high highShown : String)
  | notPrimitive (kindName : String)
  | noOptions
  | compositeOption
  | notAPattern (kindName : String)
  | badFlags (shown : String)
  | badPattern (shown problem : String)
  | clashingFlags
  | repetitionUnreadable (digits : Nat)
  | noCharacters (rule shown : String)
  | noSelector (shown : String)
  | noVariants
  | noRules
  | noRuleSets
  | noFieldName (shown : String)
deriving DecidableEq, Repr

/-- The wording of an objection. -/
def Refusal.message : Refusal → String
  | notANumber argument shown => argument ++ " must be a number, got " ++ shown
  | notALength argument shown => argument ++ " must be a non-negative integer, got " ++ shown
  | reversedBounds low lowShown high highShown =>
    low ++ " " ++ lowShown ++ " is greater than " ++ high ++ " " ++ highShown
  | notPrimitive kindName => "eq expects a primitive value, got " ++ kindName
  | noOptions => "one_of needs at least one allowed value"
  | compositeOption => "one_of values must be primitive"
  | notAPattern kindName => "like expects a pattern string, got " ++ kindName
  | badFlags shown => "unsupported regex flags " ++ shown
  | badPattern shown problem => "invalid pattern " ++ shown ++ ": " ++ problem
  | clashingFlags => "ASCII and UNICODE flags are incompatible"
  | repetitionUnreadable digits =>
    "Exceeds the limit (4300 digits) for integer string conversion: value has " ++
      toString digits ++ " digits; use sys.set_int_max_str_digits() to increase the limit"
  | noCharacters rule shown => rule ++ " expects a non-empty string of characters, got " ++ shown
  | noSelector shown => "selector field must be a non-empty string, got " ++ shown
  | noVariants => "expected a non-empty mapping of selector value to schema"
  | noRules => "expected at least one rule"
  | noRuleSets => "expected at least one rule set"
  | noFieldName shown => "equal_to_field expects a field name, got " ++ shown

end FieldRules
