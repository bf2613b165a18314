import FieldRules.Compile
import FieldRules.Errors
import FieldRules.Result

/-!
# Validators

A validator has a schema, the auto-trim that was decided when it was made, and a registry of its
own. It is compiled once; from then on neither its registry nor anything else has a say in what it
does. It remembers the error of the last input it validated.
-/

set_option autoImplicit false

namespace FieldRules

/-- A validator. -/
structure Validator where
  schema : Value
  autoTrim : Bool
  registry : Registry
  compiled : Option CompiledSchema := none
  errors : Value := .null

namespace Validator

/-- Whether the validator has been compiled. -/
def isPrepared (v : Validator) : Bool := v.compiled.isSome

/-- The error of an input that is no mapping. -/
def misfit : Value := .text Code.formatError.text

/-- What a compiled schema makes of an input. -/
def resultOf (compiled : CompiledSchema) (data : Value) : Except Fault Result :=
  match data.entries? with
  | none => .ok (.err misfit)
  | some entries => do
    let report ← compiled.execute entries
    return if report.errors.isEmpty then .ok report.outputValue else .err report.errorValue

/-- What a validator remembers of a result. -/
def errorOf (result : Result) : Value := result.fold (fun _ => .null) id

/-- A validator as it is shown: the fields of its schema, unless that is no mapping, and auto-trim.
-/
def shown (v : Validator) : Except Fault String := do
  let fields ← match v.schema.entries? with
    | some entries => (Value.list (entries.map (·.1))).shown
    | none => .ok "?"
  return "Validator(fields=" ++ fields ++ ", auto_trim=" ++
    (if v.autoTrim then "True" else "False") ++ ")"

end Validator

end FieldRules
