import FieldRules.Value

/-!
# Values that can be looked up

Whether a value can be a key of a mapping at all: lists and mappings cannot, nor can a tuple that
holds one, nor a signalling not-a-number.
-/

set_option autoImplicit false

namespace FieldRules

/-- Why a value cannot be a key. -/
inductive KeyProblem where
  | container (kindName : String)
  | signallingNan
deriving DecidableEq

namespace Value

mutual

/-- What keeps a value from being looked up as a key. -/
def keyProblem? : Value → Option KeyProblem
  | list _ => some (.container "list")
  | map _ => some (.container "dict")
  | decimal (.nan _ true _) => some .signallingNan
  | tuple xs => itemKeyProblem? xs
  | _ => none

/-- The first element's problem. -/
def itemKeyProblem? : List Value → Option KeyProblem
  | [] => none
  | x :: xs => match keyProblem? x with
    | some problem => some problem
    | none => itemKeyProblem? xs

end

end Value

end FieldRules
