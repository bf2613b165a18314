import FieldRules.Call
import FieldRules.Failure
import FieldRules.Value.Order

/-!
# Describing defects

Defects can also be described from outside, by calling a describer with values for the parts of the
description. Nothing holds a caller to texts where a text is meant: a message or an origin may be
any value, and stands in the text of the defect as it is displayed or shown. Every defect of the
library itself has such a description, with the same text (`text_description`).
-/

set_option autoImplicit false

namespace FieldRules

/-- What can be passed to a describer: a value, a code, or the fault that is the cause. -/
inductive Part where
  | value (v : Value)
  | code (c : DefectCode)
  | fault (f : Fault)

namespace Part

/-- A part as a value. -/
def toValue : Part → Value
  | value v => v
  | code c => .text c.name
  | fault f => .text f.message

end Part

/-- A defect whose message and origin are any values. -/
structure Description where
  code : DefectCode
  message : Value
  origin : Value := .text ""
  metadata : List (String × Value) := []
  cause : Part := .value .null

namespace Description

/-- The description of a defect. -/
def ofDefect (d : Defect) : Description where
  code := d.code
  message := .text d.message
  origin := .text d.origin
  metadata := d.metadata
  cause := (d.cause.map Part.fault).getD (.value .null)

/-- The description as one text. The origin is left out if it does not count as true. -/
def text (d : Description) : Except Fault String := do
  let body := "[" ++ d.code.name ++ "] " ++ (← d.message.display)
  if d.origin.truthy then return body ++ " (origin=" ++ (← d.origin.shown) ++ ")"
  else return body

/-- The text of the cause, if there is one. -/
def causeText? (d : Description) : Except Fault (Option String) :=
  match d.cause with
  | .value .null => .ok none
  | .fault f => .ok (some f.message)
  | part => part.toValue.display.map some

/-- Fails if the cause is something else than a fault. -/
def checkCause (d : Description) : Except Fault Unit :=
  match d.cause with
  | .value .null | .fault _ => .ok ()
  | _ => .error (.badCall "exception causes must derive from BaseException")

end Description

/-- The describers, one for each kind of defect and two for defects in free wording. -/
inductive Describer where
  | schemaError
  | registryError
  | unknownRule
  | malformedSpec
  | malformedSchema
  | invalidArguments
  | schemaTooDeep
  | invalidRule
  | invalidAlias
deriving DecidableEq, Repr

namespace Describer

/-- The name of a describer. -/
def name : Describer → String
  | schemaError => "schema_error"
  | registryError => "registry_error"
  | unknownRule => "unknown_rule"
  | malformedSpec => "malformed_spec"
  | malformedSchema => "malformed_schema"
  | invalidArguments => "invalid_arguments"
  | schemaTooDeep => "schema_too_deep"
  | invalidRule => "invalid_rule"
  | invalidAlias => "invalid_alias"

/-- All describers. -/
def all : List Describer :=
  [schemaError, registryError, unknownRule, malformedSpec, malformedSchema, invalidArguments,
    schemaTooDeep, invalidRule, invalidAlias]

/-- The describer with a name. -/
def ofName? (name : String) : Option Describer := all.find? fun d => d.name == name

/-- The parameters of a describer. -/
def parameters (d : Describer) : Parameters :=
  match d with
  | schemaError =>
    { label := d.name, required := ["message"], onlyByName := ["code", "rule", "origin", "cause"]
      openNames := true }
  | registryError =>
    { label := d.name, required := ["message"], onlyByName := ["code", "rule", "origin"]
      openNames := true }
  | unknownRule => { label := d.name, required := ["name"], optional := ["available", "origin"] }
  | malformedSpec => { label := d.name, required := ["spec", "reason"], optional := ["origin"] }
  | malformedSchema => { label := d.name, required := ["schema", "reason"], optional := ["origin"] }
  | invalidArguments =>
    { label := d.name, required := ["rule", "args", "reason"], optional := ["origin", "cause"] }
  | schemaTooDeep => { label := d.name, required := ["max_depth"], optional := ["origin"] }
  | invalidRule => { label := d.name, required := ["name", "reason"], optional := ["origin"] }
  | invalidAlias => { label := d.name, required := ["reason"], optional := ["name", "origin"] }

/-- Texts joined to one; only texts can be joined. -/
def joined (values : List Value) : Except Fault String := do
  let texts ← (values.zipIdx).mapM fun (v, i) =>
    match v with
    | .text s => .ok s
    | v => .error (.raised .type ("sequence item " ++ toString i ++
        ": expected str instance, " ++ v.fullKindName ++ " found"))
  return String.intercalate ", " texts

/-- The message about a rule that is not registered. The names that are follow in order. -/
def unknownRuleMessage (name available : Value) : Except Fault String := do
  let known ← Value.sorted (← available.elements)
  let body := "Rule '" ++ (← name.display) ++ "' is not registered"
  if known.isEmpty then return body
  else return body ++ ". Available: " ++ (← joined known)

/-- A description in free wording, from the parts of a call. -/
def general (code : DefectCode) (parts : Bound Part) : Description :=
  let value (name : String) : Value := ((parts.get? name).map Part.toValue).getD .null
  { code := match parts.get? "code" with
      | some (.code c) => c
      | _ => code
    message := value "message"
    origin := ((parts.get? "origin").map Part.toValue).getD (.text "")
    metadata := Defect.details
      (("rule", value "rule") :: parts.others.map fun e => (e.1, e.2.toValue))
    cause := (parts.get? "cause").getD (.value .null) }

/-- The description that a describer makes of the parts it is called with. -/
def describe (d : Describer) (parts : Bound Part) : Except Fault Description := do
  let value (name : String) : Value := ((parts.get? name).map Part.toValue).getD .null
  let origin := ((parts.get? "origin").map Part.toValue).getD (.text "")
  let reason : Except Fault String := (value "reason").display
  match d with
  | schemaError => return general .schemaGeneric parts
  | registryError => return general .registryGeneric parts
  | unknownRule =>
    let available := ((parts.get? "available").map Part.toValue).getD (.tuple [])
    let message ← unknownRuleMessage (value "name") available
    return { code := .unknownRule, message := .text message, origin
             metadata := Defect.details [("rule", value "name")] }
  | malformedSpec =>
    let message := "Malformed rule spec " ++ (← (value "spec").shown) ++ ": " ++ (← reason)
    return { code := .malformedSpec, message := .text message, origin
             metadata := [("spec_type", .text (value "spec").kindName)] }
  | malformedSchema =>
    let message := "Malformed schema: " ++ (← reason)
    return { code := .malformedSchema, message := .text message, origin
             metadata := [("schema_type", .text (value "schema").kindName)] }
  | invalidArguments =>
    let rule ← (value "rule").display
    let args ← (value "args").elements
    let message := "Rule '" ++ rule ++ "' cannot be built from arguments " ++
      (← (Value.list args).shown) ++ ": " ++ (← reason)
    return { code := .invalidArguments, message := .text message, origin
             metadata := Defect.details [("rule", value "rule"), ("arg_count", .int args.length)]
             cause := (parts.get? "cause").getD (.value .null) }
  | schemaTooDeep =>
    let message := "Schema nesting exceeds maximum depth of " ++ (← (value "max_depth").display)
    return { code := .schemaTooDeep, message := .text message, origin
             metadata := Defect.details [("max_depth", value "max_depth")] }
  | invalidRule =>
    let message := "Cannot register rule " ++ (← (value "name").shown) ++ ": " ++ (← reason)
    return { code := .invalidRule, message := .text message, origin
             metadata := match value "name" with
               | .text s => [("rule", .text s)]
               | _ => [] }
  | invalidAlias =>
    let name := value "name"
    let subject ← if name.truthy then
        name.display.map fun s => "Invalid aliased rule '" ++ s ++ "'"
      else .ok "Invalid aliased rule"
    let message := subject ++ ": " ++ (← reason)
    return { code := .invalidAlias, message := .text message, origin
             metadata := Defect.details [("rule", name)] }

/-- Calls a describer. -/
def call (d : Describer) (positional : List Part) (byName : List (String × Part)) :
    Except Fault Description := do
  describe d (← d.parameters.bind positional byName)

end Describer

end FieldRules
