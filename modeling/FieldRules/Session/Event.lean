import FieldRules.Value.Entries

/-!
# Events

What a session reports while it works. Events tell of registrations, compiled schemas and failed
validations; they hold names, counts and error codes but never what was validated.
-/

set_option autoImplicit false

namespace FieldRules

/-- Something that happened. -/
inductive Event where
  | ruleRegistered (registry rule : String) (replaced : Bool)
  | defaultRegistryInitialized (rules : Nat)
  | aliasRegistered (registry rule : String) (error : Option String)
  | schemaCompiled (registry : String) (fields : Nat) (autoTrim : Bool)
  | inputNotAMapping (kindName : String)
  | validationFailed (count : Nat) (errors : List (String × String))
  | registryChangedAfterCompile (operation : String)
deriving DecidableEq, Repr

namespace Event

/-- The name of an event. -/
def name : Event → String
  | ruleRegistered _ _ _ => "rule_registered"
  | defaultRegistryInitialized _ => "default_registry_initialized"
  | aliasRegistered _ _ _ => "alias_registered"
  | schemaCompiled _ _ _ => "schema_compiled"
  | inputNotAMapping _ | validationFailed _ _ => "validation_failed"
  | registryChangedAfterCompile _ => "registry_changed_after_compile"

/-- The level at which an event is logged. -/
def level : Event → String
  | registryChangedAfterCompile _ => "warning"
  | _ => "debug"

/-- The details of an event. -/
def fields : Event → List (String × Value)
  | ruleRegistered registry rule replaced =>
    [("registry", .text registry), ("rule", .text rule), ("replaced", .bool replaced)]
  | defaultRegistryInitialized rules => [("rules", .int rules)]
  | aliasRegistered registry rule error =>
    [("registry", .text registry), ("rule", .text rule),
      ("error", (error.map Value.text).getD .null)]
  | schemaCompiled registry fields autoTrim =>
    [("registry", .text registry), ("fields", .int fields), ("auto_trim", .bool autoTrim)]
  | inputNotAMapping kindName =>
    [("reason", .text "not_a_mapping"), ("input_type", .text kindName)]
  | validationFailed count errors =>
    [("error_count", .int count),
      ("errors", .map (Entries.ofNamed (errors.map fun e => (e.1, .text e.2))))]
  | registryChangedAfterCompile operation => [("operation", .text operation)]

end Event

end FieldRules
