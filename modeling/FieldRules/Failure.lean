import FieldRules.Fault
import FieldRules.Value.Entries

/-!
# Defects and failures

A *defect* describes what is wrong with a schema, a registration or an alias, for the developer who
wrote it: a code, a message, the field or registry it arose at, and some details. If a rule's
builder objected, its fault is kept as the cause.

A *failure* is what an operation can end in instead of its result: a defect, a fault that nobody
turned into one, or settings that cannot be read.
-/

set_option autoImplicit false

namespace FieldRules

/-- The codes of defects: those of schemas, then those of registries and aliases. -/
inductive DefectCode where
  | schemaGeneric
  | unknownRule
  | malformedSpec
  | malformedSchema
  | invalidArguments
  | schemaTooDeep
  | registryGeneric
  | invalidRule
  | invalidAlias
deriving DecidableEq, Repr

namespace DefectCode

/-- The number of a code. -/
def number : DefectCode → Nat
  | schemaGeneric => 1000
  | unknownRule => 1001
  | malformedSpec => 1002
  | malformedSchema => 1003
  | invalidArguments => 1004
  | schemaTooDeep => 1005
  | registryGeneric => 2000
  | invalidRule => 2001
  | invalidAlias => 2010

/-- The name of a code. -/
def name : DefectCode → String
  | schemaGeneric => "E1000_SCHEMA_GENERIC"
  | unknownRule => "E1001_UNKNOWN_RULE"
  | malformedSpec => "E1002_MALFORMED_RULE_SPEC"
  | malformedSchema => "E1003_MALFORMED_SCHEMA"
  | invalidArguments => "E1004_INVALID_ARGUMENTS"
  | schemaTooDeep => "E1005_SCHEMA_TOO_DEEP"
  | registryGeneric => "E2000_REGISTRY_GENERIC"
  | invalidRule => "E2001_INVALID_RULE"
  | invalidAlias => "E2010_INVALID_ALIAS"

/-- All codes. -/
def all : List DefectCode :=
  [schemaGeneric, unknownRule, malformedSpec, malformedSchema, invalidArguments, schemaTooDeep,
    registryGeneric, invalidRule, invalidAlias]

/-- The code with a name. -/
def ofName? (name : String) : Option DefectCode := all.find? fun code => code.name == name

end DefectCode

/-- What is wrong with a schema, a registration or an alias. -/
structure Defect where
  code : DefectCode
  message : String
  origin : String := ""
  metadata : List (String × Value) := []
  cause : Option Fault := none

namespace Defect

/-- The defect as one text. -/
def text (d : Defect) : String :=
  let body := "[" ++ d.code.name ++ "] " ++ d.message
  if d.origin.isEmpty then body else body ++ " (origin=" ++ Text.quoted d.origin ++ ")"

/-- Details without those that are null. -/
def details (all : List (String × Value)) : List (String × Value) :=
  all.filter fun e => match e.2 with | .null => false | _ => true

/-- A rule of the given name does not exist. The names that do are listed in order. -/
def unknownRule (name : String) (available : List String) (origin : String := "") : Defect :=
  let known := available.mergeSort fun a b => a ≤ b
  let body := "Rule '" ++ name ++ "' is not registered"
  { code := .unknownRule
    message := if known.isEmpty then body
      else body ++ ". Available: " ++ String.intercalate ", " known
    origin
    metadata := [("rule", .text name)] }

/-- A rule spec has a wrong shape. -/
def malformedSpec (spec : Value) (reason : String) (origin : String := "") :
    Except Fault Defect := do
  let shown ← spec.shown
  return {
    code := .malformedSpec
    message := "Malformed rule spec " ++ shown ++ ": " ++ reason
    origin
    metadata := [("spec_type", .text spec.kindName)] }

/-- A schema is no mapping of field names to specs. -/
def malformedSchema (schema : Value) (reason : String) (origin : String := "") : Defect :=
  { code := .malformedSchema
    message := "Malformed schema: " ++ reason
    origin
    metadata := [("schema_type", .text schema.kindName)] }

/-- A rule cannot be built from its arguments. -/
def invalidArguments (rule : String) (args : List Value) (reason : String) (origin : String := "")
    (cause : Option Fault := none) : Except Fault Defect := do
  let shown ← (Value.list args).shown
  return {
    code := .invalidArguments
    message := "Rule '" ++ rule ++ "' cannot be built from arguments " ++ shown ++ ": " ++ reason
    origin
    metadata := [("rule", .text rule), ("arg_count", .int args.length)]
    cause }

/-- A schema is nested more deeply than allowed. -/
def schemaTooDeep (limit : Int) (origin : String := "") : Defect :=
  { code := .schemaTooDeep
    message := "Schema nesting exceeds maximum depth of " ++ toString limit
    origin
    metadata := [("max_depth", .int limit)] }

/-- A rule cannot be registered. -/
def invalidRule (name : Value) (reason : String) (origin : String := "") : Except Fault Defect := do
  let shown ← name.shown
  return {
    code := .invalidRule
    message := "Cannot register rule " ++ shown ++ ": " ++ reason
    origin
    metadata := match name with
      | .text s => [("rule", .text s)]
      | _ => [] }

/-- An alias is ill defined. -/
def invalidAlias (reason : String) (name : Option String := none) (origin : String := "") :
    Defect :=
  let subject := match name with
    | some s => if s.isEmpty then "Invalid aliased rule" else "Invalid aliased rule '" ++ s ++ "'"
    | none => "Invalid aliased rule"
  { code := .invalidAlias
    message := subject ++ ": " ++ reason
    origin
    metadata := match name with
      | some s => [("rule", .text s)]
      | none => [] }

end Defect

/-- A problem at a place of something that was read: the keys that lead to it, and the wording. -/
structure Problem where
  place : List String
  message : String
deriving DecidableEq, Repr

namespace Problem

/-- A problem as one text. -/
def text (p : Problem) : String := String.intercalate "." p.place ++ ": " ++ p.message

/-- Problems as one text. -/
def textOfAll (problems : List Problem) : String :=
  String.intercalate "; " (problems.map Problem.text)

end Problem

/-- What an operation can end in instead of its result. -/
inductive Failure where
  | defect (d : Defect)
  | fault (f : Fault)
  | invalid (problems : List Problem)

namespace Failure

/-- The failure that a fallible description of a defect stands for. -/
def ofDefect : Except Fault Defect → Failure
  | .ok d => defect d
  | .error f => fault f

end Failure

end FieldRules
