import FieldRules.Check.Run
import FieldRules.Registry

/-!
# Compiling schemas

Compiling turns every rule spec of a schema into a chain of checks: the spec is normalised, each
name is looked up, the number of arguments is checked, and the builder is asked for a check. It
never looks at data, and fails only on what is wrong with the schema.

A builder may ask for the schemas and specs among its arguments, so compiling is nested. Each nested
compile enters a *scope* that is one level deeper, inherits auto-trim unless it is asked otherwise,
and is refused when it would be too deep. The scope is state: it is there while a compile runs, and
whatever happens the one that was there before is there again afterwards.

The compiler for `n + 1` levels is one level of compiling on top of the compiler for `n` levels, and
the one for no levels refuses everything. That is what makes compiling total even where aliases go
round in circles.
-/

set_option autoImplicit false

namespace FieldRules

/-- The scope of a compile: how deep it is, and whether chains start with a trim. -/
structure Scope where
  depth : Nat
  autoTrim : Bool
deriving DecidableEq, Repr

/-- A compile in the scope that is active around it, if there is one. -/
abbrev Compiling := ExceptT Failure (StateM (Option Scope))

/-- What compiles are made against: a registry, and a limit to their depth. -/
structure CompileEnv where
  registry : Registry
  limit : Int

/-- A compiler for schemas and for single specs, with the auto-trim that is asked for. -/
structure Compiler where
  schema : Value → Option Bool → Compiling CompiledSchema
  field : Value → Option Bool → Compiling Chain

namespace Compiling

/-- The depth of a scope, there being none at the top. -/
def depthOf : Option Scope → Nat
  | none => 0
  | some scope => scope.depth

/-- The scope that is entered from another. -/
def entered (outer : Option Scope) (requested : Option Bool) : Scope :=
  { depth := depthOf outer + 1
    autoTrim := requested.getD (match outer with
      | some scope => scope.autoTrim
      | none => false) }

/-- Enters a scope for the time of a compile, unless it would be too deep. However the compile ends,
the scope that was active before is put back. -/
def within {α : Type} (limit : Int) (requested : Option Bool) (body : Scope → Compiling α) :
    Compiling α := do
  let outer ← get
  let scope := entered outer requested
  if limit < (scope.depth : Int) then
    throw (.defect (Defect.schemaTooDeep limit))
  else
    set (some scope)
    try body scope finally set outer

end Compiling

/-- Carries on a builder's dialogue. The answer is the check, or none if it ended without one. -/
def Recipe.run (inner : Compiler) : Recipe → Compiling (Option Check)
  | .ready check => pure (some check)
  | .notAValidator => pure none
  | .fail failure => throw failure
  | .withSchema schema autoTrim next => fun scope =>
    let (answer, scope) := inner.schema schema autoTrim scope
    (next answer).run inner scope
  | .withField spec autoTrim next => fun scope =>
    let (answer, scope) := inner.field spec autoTrim scope
    (next answer).run inner scope

namespace Compiler

/-- The failure of a builder. An objection to its arguments becomes the defect that its rule cannot
be built; everything else passes through. -/
def builderFailure (invocation : Invocation) (field : String) (failure : Failure) : Failure :=
  match failure with
  | .fault f =>
    if f.isObjection then
      .ofDefect (Defect.invalidArguments invocation.name invocation.args f.message field (some f))
    else failure
  | _ => failure

/-- Fails if a builder does not take so many arguments. -/
def checkArity (builder : Builder) (invocation : Invocation) (field : String) :
    Except Failure Unit :=
  match builder.signature.bind fun s => s.problem? invocation.args.length with
  | some problem =>
    .error (.ofDefect
      (Defect.invalidArguments invocation.name invocation.args problem.message field))
  | none => .ok ()

/-- Compiles an invocation to a step. -/
def step (env : CompileEnv) (inner : Compiler) (field : String) (invocation : Invocation) :
    Compiling Step := do
  let builder ← liftExcept (env.registry.lookup invocation.name)
  liftExcept (checkArity builder invocation field)
  let check ← tryCatch ((builder.recipe invocation.args).run inner) fun failure =>
    throw (builderFailure invocation field failure)
  match check with
  | some check => return ⟨invocation, check⟩
  | none =>
    throw (.ofDefect (Defect.invalidRule (.text invocation.name)
      "builder did not return a callable validator" field))
where
  liftExcept {α : Type} : Except Failure α → Compiling α
    | .ok a => pure a
    | .error failure => throw failure

/-- Compiles invocations in order. -/
def steps (env : CompileEnv) (inner : Compiler) (field : String) :
    List Invocation → Compiling (List Step)
  | [] => pure []
  | invocation :: rest => do
    let first ← step env inner field invocation
    let others ← steps env inner field rest
    return first :: others

/-- The step that auto-trim puts in front of a chain. -/
def trimStep : Step := ⟨{ name := "trim" }, .autoTrim⟩

/-- Compiles a spec to a chain in a scope. -/
def chain (env : CompileEnv) (inner : Compiler) (scope : Scope) (field : String) (spec : Value) :
    Compiling Chain :=
  match Invocation.ofSpec spec with
  | .error bad => throw (.ofDefect (Defect.malformedSpec bad.part bad.problem.message))
  | .ok invocations => do
    let built ← steps env inner field invocations
    return if scope.autoTrim then trimStep :: built else built

/-- Compiles the fields of a schema in order. -/
def fields (env : CompileEnv) (inner : Compiler) (scope : Scope) (schema : Value) :
    Entries → Compiling (List (String × Chain))
  | [] => pure []
  | (.text name, spec) :: rest => do
    let first ← chain env inner scope name spec
    let others ← fields env inner scope schema rest
    return (name, first) :: others
  | (key, _) :: _ =>
    throw (.ofDefect (do
      let shown ← key.shown
      return Defect.malformedSchema schema ("field names must be strings, got " ++ shown)))

/-- The defect of a schema that is no mapping. -/
def notAMapping (schema : Value) : Failure :=
  .defect (Defect.malformedSchema schema ("expected a mapping, got " ++ schema.kindName))

/-- One level of compiling on top of a compiler. -/
def level (env : CompileEnv) (inner : Compiler) : Compiler where
  schema schema requested :=
    match schema with
    | .map entries => Compiling.within env.limit requested fun scope => do
      let compiled ← fields env inner scope schema entries
      return { fields := compiled, autoTrim := scope.autoTrim }
    | _ => throw (notAMapping schema)
  field spec requested :=
    Compiling.within env.limit requested fun scope => chain env inner scope "" spec

/-- The compiler that enters no scope but fails instead. A schema that is no mapping is refused
before a scope is entered. -/
def refusing (failure : Failure) : Compiler where
  schema schema _ :=
    match schema with
    | .map _ => throw failure
    | _ => throw (notAMapping schema)
  field _ _ := throw failure

/-- The compiler that has no levels left. -/
def exhausted (env : CompileEnv) : Compiler := refusing (.defect (Defect.schemaTooDeep env.limit))

/-- The compiler for a number of levels. The levels below are only built when they are used. -/
def ofLevels (env : CompileEnv) : Nat → Compiler
  | 0 => exhausted env
  | n + 1 => {
      schema := fun schema autoTrim => (level env (ofLevels env n)).schema schema autoTrim
      field := fun spec autoTrim => (level env (ofLevels env n)).field spec autoTrim }

theorem ofLevels_succ (env : CompileEnv) (n : Nat) :
    ofLevels env (n + 1) = level env (ofLevels env n) := rfl

/-- The compiler for the levels that are left in a scope. -/
def inScope (env : CompileEnv) (scope : Option Scope) : Compiler :=
  ofLevels env (env.limit - Compiling.depthOf scope).toNat

end Compiler

/-- Compiles a schema in the scope that is active. -/
def compileSchemaIn (env : CompileEnv) (schema : Value) (autoTrim : Option Bool := none) :
    Compiling CompiledSchema :=
  fun scope => (Compiler.inScope env scope).schema schema autoTrim scope

/-- Compiles a spec in the scope that is active. -/
def compileFieldIn (env : CompileEnv) (spec : Value) (autoTrim : Option Bool := none) :
    Compiling Chain := fun scope => (Compiler.inScope env scope).field spec autoTrim scope

/-- Compiles a schema at the top, where no scope is active. -/
def compileSchema (env : CompileEnv) (schema : Value) (autoTrim : Option Bool := none) :
    Except Failure CompiledSchema := (compileSchemaIn env schema autoTrim none).1

/-- Compiles a spec at the top. -/
def compileField (env : CompileEnv) (spec : Value) (autoTrim : Option Bool := none) :
    Except Failure Chain := (compileFieldIn env spec autoTrim none).1

end FieldRules
