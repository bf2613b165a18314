import FieldRules.Fault

/-!
# Results

What validating ends in: an output, or the error that stands for it. A result is never an exception;
only taking out of it what is not there is a fault.
-/

set_option autoImplicit false

namespace FieldRules

/-- An output or an error. -/
inductive Result where
  | ok (value : Value)
  | err (error : Value)

namespace Result

/-- Whether there is an output. -/
def isOk : Result → Bool
  | ok _ => true
  | err _ => false

/-- Whether there is an error. -/
def isErr (r : Result) : Bool := !r.isOk

/-- Applies a function to the output. -/
def map (f : Value → Value) : Result → Result
  | ok value => ok (f value)
  | err error => err error

/-- Applies a function to the error. -/
def mapErr (f : Value → Value) : Result → Result
  | ok value => ok value
  | err error => err (f error)

/-- Goes on with the output. -/
def flatMap (f : Value → Result) : Result → Result
  | ok value => f value
  | err error => err error

/-- Takes the case that applies. -/
def fold {α : Type} (onOk onErr : Value → α) : Result → α
  | ok value => onOk value
  | err error => onErr error

/-- The output, or another value if there is none. -/
def getD (r : Result) (fallback : Value) : Value := r.fold id fun _ => fallback

/-- The output as a list of at most one value. -/
def toList (r : Result) : List Value := r.fold (fun value => [value]) fun _ => []

/-- The output; a fault if there is none. -/
def unwrap : Result → Except Fault Value
  | ok value => .ok value
  | err error => do
    let text ← error.display
    throw (.raised .value ("Called unwrap on Err: " ++ text))

/-- The error; a fault if there is none. -/
def unwrapErr : Result → Except Fault Value
  | ok value => do
    let text ← value.shown
    throw (.raised .value ("Called unwrap_err on Ok: " ++ text))
  | err error => .ok error

/-- Equality of results. -/
def equal : Result → Result → Except Fault Bool
  | ok a, ok b => a.equal b
  | err a, err b => a.equal b
  | _, _ => .ok false

end Result

end FieldRules
