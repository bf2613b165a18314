import FieldRules.Session.Event
import FieldRules.Settings
import FieldRules.Validator

/-!
# The store of a session

What lives between operations: the default registry, once it has been asked for; the default for
auto-trim, if one was set; the environment; and the registries and validators that were made, under
the names by which operations refer to them. The events are those of the operations so far.
-/

set_option autoImplicit false

namespace FieldRules

/-- The state of a session. -/
structure Store where
  environment : List (String × String) := []
  autoTrim : Option Bool := none
  defaultRegistry : Option Registry := none
  registries : List (String × Registry) := []
  validators : List (String × Validator) := []
  events : List Event := []

/-- A registry that operations can refer to. -/
inductive Target where
  | default
  | registry (id : String)
  | validator (id : String)
deriving DecidableEq, Repr

namespace Store

/-- The registry with the built-in rules, which is the default registry while nothing has been
registered in it. -/
def defaultContents (s : Store) : Registry := s.defaultRegistry.getD .ofBuiltins

/-- The registry that is referred to. There always is a default one. -/
def registryOf? (s : Store) : Target → Option Registry
  | .default => some s.defaultContents
  | .registry id => s.registries.lookup id
  | .validator id => (s.validators.lookup id).map (·.registry)

/-- The validator of a name. -/
def validator? (s : Store) (id : String) : Option Validator := s.validators.lookup id

/-- The store with a validator under a name. -/
def putValidator (s : Store) (id : String) (v : Validator) : Store :=
  { s with validators := putNamed id v s.validators }

/-- The store with another registry in the place that is referred to. A validator that does not
exist has no such place. -/
def putRegistry (s : Store) (target : Target) (r : Registry) : Store :=
  match target with
  | .default => { s with defaultRegistry := some r }
  | .registry id => { s with registries := putNamed id r s.registries }
  | .validator id =>
    match s.validator? id with
    | some v => s.putValidator id { v with registry := r }
    | none => s

theorem validator?_putValidator (s : Store) (id other : String) (v : Validator) :
    (s.putValidator id v).validator? other = if other = id then some v else s.validator? other :=
  lookup_putNamed id other v s.validators

end Store

end FieldRules
