import FieldRules.Code
import FieldRules.Fault

/-!
# Effects of checks

What a check does to the field it is applied to: it may return an error, and it may write a new
value. Null is no error, and neither is any other value that counts as false, though a check may
well return one; a check may also write and fail at once.
-/

set_option autoImplicit false

namespace FieldRules

/-- What a check returns and what it writes. -/
structure Effect where
  error : Value := .null
  write : Option Value := none

namespace Effect

/-- No error and nothing written. -/
def pass : Effect := {}

/-- A built-in error. -/
def fail (code : Code) : Effect := { error := .text code.text }

/-- No error and a new value. -/
def wrote (v : Value) : Effect := { write := some v }

end Effect

end FieldRules
