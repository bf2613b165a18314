import FieldRules.Check

/-!
# Running compiled schemas

A chain runs its checks in order on one value. A check sees what the checks before it have written;
the first error stops the chain, and a write of the failing check itself is lost. A schema runs the
chain of each of its fields on that field's value in a snapshot of the input: all fields see the
same snapshot, and none sees what another has written. What is under a key that no field describes
is in no output, and no chain is run on it; but it is in the snapshot, and a check that asks for its
siblings can find it there, as `Leaf.equalTo` does.

A list is checked item by item, and its error is a list in which passing items are null. A choice
between chains takes the first that passes on the value it was given.
-/

set_option autoImplicit false

namespace FieldRules

/-- What a chain made of a value. -/
structure Outcome where
  value : Value
  error : Option Value := none
  written : Bool := false

/-- Whether the chain passed. -/
def Outcome.ok (o : Outcome) : Bool := o.error.isNone

/-- What a schema made of an input: the values of the fields that have one, and the errors of those
that failed. With an error there, the values are only part of the output. -/
structure Report where
  output : List (String × Value) := []
  errors : List (String × Value) := []

namespace Report

/-- The report with one more field in front: its error if it failed, else its value if it has one.
-/
def withField (report : Report) (name : String) (present : Bool) (o : Outcome) : Report :=
  match o.error with
  | some error => { report with errors := (name, error) :: report.errors }
  | none =>
    if o.written || present then { report with output := (name, o.value) :: report.output }
    else report

/-- The output as a mapping. -/
def outputValue (report : Report) : Value := .map (Entries.ofNamed report.output)

/-- The errors as a mapping, or null if there are none. -/
def errorValue (report : Report) : Value :=
  if report.errors.isEmpty then .null else .map (Entries.ofNamed report.errors)

end Report

/-- A value and the error found in it, null if there is none. -/
abbrev ItemOutcome := Value × Value

/-- The effect of checking a nested value. -/
def Effect.ofItem (outcome : ItemOutcome) : Effect :=
  match outcome.2 with
  | .null => .wrote outcome.1
  | error => { error }

/-- The effect of checking the items of a list one by one. -/
def Effect.ofItems (outcomes : List ItemOutcome) : Effect :=
  if outcomes.all fun o => match o.2 with | .null => true | _ => false then
    .wrote (.list (outcomes.map (·.1)))
  else { error := .list (outcomes.map (·.2)) }

/-- Checks the items of a list or tuple one by one. -/
def checkItems (check : Value → Except Fault ItemOutcome) (v : Value) : Except Fault Effect :=
  if v.isMissing then .ok .pass
  else match v.items? with
    | none => .ok (.fail .formatError)
    | some items => do
      let outcomes ← items.mapM check
      return .ofItems outcomes

/-- A value that has the wrong format. -/
def ItemOutcome.misfit (v : Value) : ItemOutcome := (v, .text Code.formatError.text)

/-- Checks a mapping, anything else having the wrong format. -/
def checkObject (execute : Entries → Except Fault Report) (v : Value) : Except Fault ItemOutcome :=
  match v.entries? with
  | none => .ok (ItemOutcome.misfit v)
  | some entries => do
    let report ← execute entries
    return (report.outputValue, report.errorValue)

/-- The text by which an object selects its variant, if it has one. -/
def selectorText (selector : String) (v : Value) : Except Fault (Option String) :=
  match v.entries? with
  | none => .ok none
  | some entries =>
    let chosen := (entries.get? selector).getD .null
    if chosen.isPrimitive then chosen.plainText.map some else .ok none

mutual

/-- Runs a check on a value. -/
def Check.run : Check → Value → Entries → Except Fault Effect
  | .leaf leaf, v, siblings => leaf.run v siblings
  | .autoTrim, v, _ => .ok (match v with
    | .text s => .wrote (.text (Text.trim s))
    | _ => .pass)
  | .aliased fixed chain, v, siblings => do
    let outcome ← runChain chain v siblings false
    match outcome.error with
    | some error => return { error := (fixed.map Value.text).getD error }
    | none => return if outcome.written then .wrote outcome.value else .pass
  | .object schema, v, _ =>
    if v.isMissing then .ok .pass
    else do
      let outcome ← checkObject (schema.execute) v
      return .ofItem outcome
  | .variant selector variants, v, _ =>
    if v.isMissing then .ok .pass
    else do
      let chosen ← selectorText selector v
      let outcome ← runVariant variants chosen v
      return .ofItem outcome
  | .each chain, v, siblings =>
    checkItems (fun item => do
      let outcome ← runChain chain item siblings false
      return (outcome.value, outcome.error.getD .null)) v
  | .eachObject schema, v, _ => checkItems (checkObject (schema.execute)) v
  | .eachVariant selector variants, v, _ =>
    checkItems (fun item => do
      let chosen ← selectorText selector item
      runVariant variants chosen item) v
  | .firstOf chains, v, siblings => runFirst chains v siblings .null
  | .custom run, v, siblings => run v siblings

/-- Runs a chain on a value, `written` telling whether it has already been replaced. -/
def runChain : List Step → Value → Entries → (written : Bool) → Except Fault Outcome
  | [], v, _, written => .ok { value := v, written }
  | ⟨_, check⟩ :: rest, v, siblings, written => do
    let effect ← check.run v siblings
    if effect.error.truthy then return { value := v, error := some effect.error, written }
    else match effect.write with
      | some w => runChain rest w siblings true
      | none => runChain rest v siblings written

/-- Runs chains on a value until one passes; `last` is the error of the one before. -/
def runFirst : List (List Step) → Value → Entries → (last : Value) → Except Fault Effect
  | [], _, _, last => .ok { error := last }
  | chain :: rest, v, siblings, _ => do
    let outcome ← runChain chain v siblings false
    match outcome.error with
    | some error => runFirst rest v siblings error
    | none => return if outcome.written then .wrote outcome.value else .pass

/-- Checks an object by the variant of a name; without one it has the wrong format. -/
def runVariant : List (String × CompiledSchema) → Option String → Value → Except Fault ItemOutcome
  | [], _, v => .ok (ItemOutcome.misfit v)
  | (name, schema) :: rest, chosen, v =>
    if chosen = some name then checkObject (schema.execute) v else runVariant rest chosen v

/-- Runs a schema on the entries of a mapping. -/
def CompiledSchema.execute : CompiledSchema → Entries → Except Fault Report
  | ⟨fields, autoTrim⟩, entries =>
    runFields fields (if autoTrim then entries.trimmed else entries)

/-- Runs the chains of fields on a snapshot. -/
def runFields : List (String × List Step) → Entries → Except Fault Report
  | [], _ => .ok {}
  | (name, chain) :: rest, snapshot => do
    let value := snapshot.get? name
    let outcome ← runChain chain (value.getD .null) snapshot false
    let report ← runFields rest snapshot
    return report.withField name value.isSome outcome

end

end FieldRules
