import FieldRules.Fault
import FieldRules.Rule.Signature

/-!
# Calls by position and by name

What is called has parameters with names. Values are passed by position, by name, or both; a
parameter that is passed twice, one that does not exist and one that is missing are objected to, in
this order, except that too many values are noticed before a missing one. A call may be open to any
number of further values, or to values under any other names.
-/

set_option autoImplicit false

namespace FieldRules

/-- The parameters of something that can be called. -/
structure Parameters where
  label : String
  required : List String := []
  optional : List String := []
  onlyByName : List String := []
  openPositions : Bool := false
  openNames : Bool := false

/-- The values of a call under the names of the parameters, and those that go beyond them. -/
structure Bound (α : Type) where
  values : List (String × α)
  rest : List α := []
  others : List (String × α) := []

namespace Bound

/-- The value of a parameter, if it was passed. -/
def get? {α : Type} (b : Bound α) (name : String) : Option α := b.values.lookup name

end Bound

namespace Parameters

/-- The parameters that can be passed by position. -/
def positional (p : Parameters) : List String := p.required ++ p.optional

/-- An objection to a call. -/
def object {α : Type} (p : Parameters) (reason : String) : Except Fault α :=
  .error (.badCall (p.label ++ "() " ++ reason))

/-- Passes values by name, in order. -/
def bindNames {α : Type} (p : Parameters) (b : Bound α) :
    List (String × α) → Except Fault (Bound α)
  | [] => .ok b
  | (name, v) :: rest =>
    if p.positional.contains name || p.onlyByName.contains name then
      if (b.get? name).isSome then
        p.object ("got multiple values for argument '" ++ name ++ "'")
      else bindNames p { b with values := b.values ++ [(name, v)] } rest
    else if p.openNames then bindNames p { b with others := b.others ++ [(name, v)] } rest
    else p.object ("got an unexpected keyword argument '" ++ name ++ "'")

/-- An ending that tells one from several. -/
def plural (n : Nat) : String := if n = 1 then "" else "s"

/-- The objection to too many values by position. -/
def tooMany (p : Parameters) (given byName : Nat) : String :=
  let least := p.required.length
  let most := p.positional.length
  let range := if p.optional.isEmpty then toString most
    else "from " ++ toString least ++ " to " ++ toString most
  let ending := if p.optional.isEmpty then plural most else "s"
  let named := if byName = 0 then ""
    else " positional argument" ++ plural given ++ " (and " ++ toString byName ++
      " keyword-only argument" ++ plural byName ++ ")"
  "takes " ++ range ++ " positional argument" ++ ending ++ " but " ++ toString given ++ named ++
    (if given = 1 && byName = 0 then " was given" else " were given")

/-- The objection to parameters that were not passed. -/
def missing (names : List String) : String :=
  "missing " ++ toString names.length ++ " required positional argument" ++ plural names.length ++
    ": " ++ Signature.listed (names.map fun name => "'" ++ name ++ "'")

/-- Binds the values of a call to the parameters. -/
def bind {α : Type} (p : Parameters) (positional : List α) (byName : List (String × α)) :
    Except Fault (Bound α) := do
  let rest := positional.drop p.positional.length
  let bound ← p.bindNames { values := p.positional.zip positional, rest } byName
  if !rest.isEmpty && !p.openPositions then
    p.object (p.tooMany positional.length
      (bound.values.filter fun e => p.onlyByName.contains e.1).length)
  else match p.required.filter fun name => (bound.get? name).isNone with
    | [] => return bound
    | names => p.object (missing names)

end Parameters

end FieldRules
