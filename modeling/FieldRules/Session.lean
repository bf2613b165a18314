import FieldRules.Session.Store

/-!
# Sessions

A session works on a store. Its operations may fail, but what they have done by then stays done: a
registration of several rules has registered those before the unfit one, and a validator keeps its
registry when its schema does not compile.

The default registry is filled with the built-in rules when it is first asked for, and again after a
reset. A validator takes a copy of it when it is made, so later registrations only reach validators
that are made after them.
-/

set_option autoImplicit false

namespace FieldRules

/-- A computation on the store that may fail. The store is kept when it does. -/
abbrev Session := ExceptT Failure (StateM Store)

namespace Session

/-- A result or its failure. -/
def ofExcept {α : Type} : Except Failure α → Session α
  | .ok a => pure a
  | .error failure => throw failure

/-- A result or its fault. -/
def ofFallible {α : Type} (x : Except Fault α) : Session α := ofExcept (x.mapError .fault)

/-- Reports an event. -/
def emit (event : Event) : Session Unit :=
  modify fun s => { s with events := s.events ++ [event] }

/-! ## Settings and defaults -/

/-- The settings that the environment decides. -/
def settings : Session Settings := do
  ofExcept ((Settings.ofEnvironment (← get).environment).mapError .invalid)

/-- The default for auto-trim: the one that was set, else the one of the settings. -/
def autoTrimDefault : Session Bool := do
  match (← get).autoTrim with
  | some enabled => return enabled
  | none => return (← settings).autoTrim

/-- Sets the default for auto-trim, or leaves it to the settings again. -/
def setAutoTrim (enabled : Option Bool) : Session Unit :=
  modify fun s => { s with autoTrim := enabled }

/-- Replaces the environment. -/
def setEnvironment (environment : List (String × String)) : Session Unit :=
  modify fun s => { s with environment := environment }

/-- The default registry, which is filled if it has not been asked for yet. -/
def defaultRegistry : Session Registry := do
  match (← get).defaultRegistry with
  | some r => return r
  | none =>
    let r := Registry.ofBuiltins
    r.keys.forM fun rule => emit (.ruleRegistered r.name rule false)
    emit (.defaultRegistryInitialized r.size)
    modify fun s => { s with defaultRegistry := some r }
    return r

/-- Forgets the default registry. -/
def resetDefault : Session Unit := modify fun s => { s with defaultRegistry := none }

/-! ## Registries -/

/-- The registry that is referred to, if it exists. -/
def registryOf? (target : Target) : Session (Option Registry) := do
  match target with
  | .default => return some (← defaultRegistry)
  | _ => return (← get).registryOf? target

/-- Warns that a registration comes too late for a validator that is compiled. -/
def warnIfPrepared (target : Target) (operation : String) : Session Unit := do
  match target with
  | .validator id =>
    if ((← get).validator? id).any Validator.isPrepared then
      emit (.registryChangedAfterCompile operation)
  | _ => return

/-- Registers entries in a registry, in order. -/
def registerIn (target : Target) (r : Registry) (entries : List Registry.Entry) : Session Unit := do
  let registered := r.register entries
  modify fun s => s.putRegistry target registered.registry
  registered.names.forM fun (rule, replaced) => emit (.ruleRegistered r.name rule replaced)
  match registered.failure with
  | some failure => throw failure
  | none => return

/-- Registers entries in order. The answer is none if there is no such registry. -/
def register (target : Target) (entries : List Registry.Entry) : Session (Option Unit) := do
  match ← registryOf? target with
  | none => return none
  | some r =>
    warnIfPrepared target "register_rules"
    registerIn target r entries
    return some ()

/-- Registers an alias, having parsed its definition. -/
def registerAlias (target : Target) (definition : Value) : Session (Option AliasDefinition) := do
  match ← registryOf? target with
  | none => return none
  | some r =>
    warnIfPrepared target "register_aliased_rule"
    let definition ← ofExcept (AliasDefinition.parse definition)
    registerIn target r [(.text definition.name, some (.aliased definition))]
    emit (.aliasRegistered r.name definition.name definition.error)
    return some definition

/-- Makes a registry with some entries, unless one of them is unfit. -/
def createRegistry (id : String) (entries : List Registry.Entry) (name : String := "instance") :
    Session Registry := do
  let registered := ({ name } : Registry).register entries
  registered.names.forM fun (rule, replaced) => emit (.ruleRegistered name rule replaced)
  match registered.failure with
  | some failure => throw failure
  | none =>
    modify fun s => s.putRegistry (.registry id) registered.registry
    return registered.registry

/-- Makes a registry with the builders of another one. -/
def copyRegistry (source : Target) (id : String) (name : String := "instance") :
    Session (Option Registry) := do
  match ← registryOf? source with
  | none => return none
  | some r =>
    let copied := r.copy name
    modify fun s => s.putRegistry (.registry id) copied
    return some copied

/-! ## Compiling -/

/-- Compiles a schema against a registry. A schema that is no mapping is refused whatever the
settings are. -/
def compileSchema (r : Registry) (schema : Value) (autoTrim : Option Bool := none) :
    Session CompiledSchema := do
  match schema with
  | .map _ =>
    let limit := (← settings).maxDepth
    let compiled ← ofExcept (FieldRules.compileSchema { registry := r, limit } schema autoTrim)
    emit (.schemaCompiled r.name compiled.fields.length compiled.autoTrim)
    return compiled
  | _ => throw (Compiler.notAMapping schema)

/-- Compiles a spec against a registry. -/
def compileField (r : Registry) (spec : Value) (autoTrim : Option Bool := none) :
    Session Chain := do
  let limit := (← settings).maxDepth
  ofExcept (FieldRules.compileField { registry := r, limit } spec autoTrim)

/-- The compiler at the top of a registry. Settings that cannot be read are not missed before
something is compiled. -/
def compilerOf (r : Registry) : Session Compiler := do
  match Settings.ofEnvironment (← get).environment with
  | .ok settings => return Compiler.inScope { registry := r, limit := settings.maxDepth } none
  | .error problems => return Compiler.refusing (.invalid problems)

/-- What the builder of a rule makes of arguments outside of any schema. Nothing checks the number
of arguments but the builder itself. -/
def build (r : Registry) (name : String) (args : List Value) : Session (Option Check) := do
  let builder ← ofExcept (r.lookup name)
  let inner ← compilerOf r
  ofExcept (((builder.recipe args).run inner).run none).1

/-! ## Validators -/

/-- Makes a validator. -/
def createValidator (id : String) (schema : Value) (autoTrim : Option Bool := none) :
    Session Validator := do
  let autoTrim ← match autoTrim with
    | some enabled => pure enabled
    | none => autoTrimDefault
  let r ← defaultRegistry
  let v : Validator := { schema, autoTrim, registry := r.copy }
  modify fun s => s.putValidator id v
  return v

/-- Compiles a validator unless that has been done. -/
def prepared (id : String) (v : Validator) : Session CompiledSchema := do
  match v.compiled with
  | some compiled => return compiled
  | none =>
    let compiled ← compileSchema v.registry v.schema (some v.autoTrim)
    modify fun s => s.putValidator id { v with compiled := some compiled }
    return compiled

/-- Compiles the validator of a name unless that has been done. -/
def prepare (id : String) : Session (Option CompiledSchema) := do
  match (← get).validator? id with
  | none => return none
  | some v => return some (← prepared id v)

/-- The event of a result, if it has one. -/
def resultEvent? (data : Value) (result : Result) : Except Fault (Option Event) :=
  match result with
  | .ok _ => .ok none
  | .err errors =>
    match data.entries? with
    | none => .ok (some (.inputNotAMapping data.kindName))
    | some _ => do
      let flat ← Errors.flatten errors
      return some (.validationFailed ((errors.entries?.getD []).length) flat)

/-- Validates an input with the validator of a name. -/
def validate (id : String) (data : Value) : Session (Option Result) := do
  match (← get).validator? id with
  | none => return none
  | some v =>
    let compiled ← prepared id v
    let result ← ofFallible (Validator.resultOf compiled data)
    modify fun s => s.putValidator id
      { v with compiled := some compiled, errors := Validator.errorOf result }
    match ← ofFallible (resultEvent? data result) with
    | some event => emit event
    | none => pure ()
    return some result

/-- Whether the validator of a name accepts an input. -/
def isValid (id : String) (data : Value) : Session (Option Bool) :=
  Option.map Result.isOk <$> validate id data

/-! ## Operations as data -/

/-- An operation on a session. -/
inductive Operation where
  | createValidator (id : String) (schema : Value) (autoTrim : Option Bool)
  | prepare (id : String)
  | validate (id : String) (data : Value)
  | isValid (id : String) (data : Value)
  | register (target : Target) (entries : List Registry.Entry)
  | registerAlias (target : Target) (definition : Value)
  | resetDefault
  | setAutoTrim (enabled : Option Bool)
  | setEnvironment (environment : List (String × String))
  | createRegistry (id : String) (entries : List Registry.Entry) (name : String)
  | copyRegistry (source : Target) (id : String) (name : String)

/-- What an operation answers. -/
inductive Answer where
  | absent
  | done
  | validator (v : Validator)
  | compiled (schema : CompiledSchema)
  | result (r : Result)
  | valid (accepted : Bool)
  | aliased (definition : AliasDefinition)
  | registry (r : Registry)

/-- The answer about something that may not exist. -/
def Answer.ofOption {α : Type} (answer : α → Answer) : Option α → Answer
  | none => absent
  | some a => answer a

/-- Performs an operation. -/
def perform : Operation → Session Answer
  | .createValidator id schema autoTrim => .validator <$> createValidator id schema autoTrim
  | .prepare id => .ofOption .compiled <$> prepare id
  | .validate id data => .ofOption .result <$> validate id data
  | .isValid id data => .ofOption .valid <$> isValid id data
  | .register target entries => .ofOption (fun _ => .done) <$> register target entries
  | .registerAlias target definition => .ofOption .aliased <$> registerAlias target definition
  | .resetDefault => (fun _ => .done) <$> resetDefault
  | .setAutoTrim enabled => (fun _ => .done) <$> setAutoTrim enabled
  | .setEnvironment environment => (fun _ => .done) <$> setEnvironment environment
  | .createRegistry id entries name => .registry <$> createRegistry id entries name
  | .copyRegistry source id name => .ofOption .registry <$> copyRegistry source id name

/-- The store after an operation, whether it failed or not. -/
def after (s : Store) (operation : Operation) : Store := ((perform operation).run s).2

/-- The store after operations in order. -/
def afterAll (s : Store) (operations : List Operation) : Store := operations.foldl after s

end Session

end FieldRules
