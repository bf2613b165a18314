import FieldRules.Proofs.Termination

/-!
# Compiles leave no trace

A builder may start a compile while another one is running, and so may its builders, and each of
these compiles may fail and have its failure caught on the way out. All that they share is the
scope. Each puts back the scope that it found, so a compile depends on the scope that it is started
in and on nothing that was compiled before it (`Request.runAll_eq`): at the top, on no scope at all.

The compiler for a number of levels is the one that is used for what is inside of a compile. It is
no other than the compiler itself, run in the scope that has been entered
(`Compiler.reentrant_eq_level`), so what is said here of compiles at the top is said of nested ones.
-/

set_option autoImplicit false

namespace FieldRules

open Compiling

namespace Compiling

variable {α β : Type} {m m' : Compiling α}

/-- Compiles that restore the scope are the same if they come to the same. -/
theorem eq_of_answer (hm : m.Restores) (hm' : m'.Restores)
    (h : ∀ scope, answer m scope = answer m' scope) : m = m' := by
  funext scope
  exact Prod.ext (h scope) ((hm scope).trans (hm' scope).symm)

theorem Restores.map (hm : m.Restores) (f : α → β) : (f <$> m).Restores := by
  rw [map_eq_pure_bind]
  exact hm.bind fun _ => restores_pure _

theorem answer_map (hm : m.Restores) (f : α → β) (scope : Option Scope) :
    answer (f <$> m) scope = (answer m scope).map f := by
  rw [map_eq_pure_bind, answer_bind hm]
  cases answer m scope <;> rfl

end Compiling

/-! ## The compiler inside of itself -/

theorem compileSchemaIn_restores (env : CompileEnv) (schema : Value) (autoTrim : Option Bool) :
    (compileSchemaIn env schema autoTrim).Restores :=
  fun scope => (Compiler.ofLevels_restores env _).schema schema autoTrim scope

theorem compileFieldIn_restores (env : CompileEnv) (spec : Value) (autoTrim : Option Bool) :
    (compileFieldIn env spec autoTrim).Restores :=
  fun scope => (Compiler.ofLevels_restores env _).field spec autoTrim scope

namespace Compiler

/-- The compiler as it is called from anywhere, in the scope that is active there. -/
def reentrant (env : CompileEnv) : Compiler where
  schema schema autoTrim := compileSchemaIn env schema autoTrim
  field spec autoTrim := compileFieldIn env spec autoTrim

theorem reentrant_restores (env : CompileEnv) : (reentrant env).Restores where
  schema := compileSchemaIn_restores env
  field := compileFieldIn_restores env

/-- What is called in a scope is the compiler for the levels that are left there. -/
theorem reentrant_sameIn (env : CompileEnv) (scope : Option Scope) :
    SameIn scope (inScope env scope) (reentrant env) := ⟨fun _ _ => rfl, fun _ _ => rfl⟩

theorem reentrant_sameIn_level (env : CompileEnv) (scope : Option Scope) :
    SameIn scope (inScope env scope) (level env (reentrant env)) := by
  cases hn : (env.limit - (depthOf scope : Int)).toNat with
  | zero =>
    have hnone := level_sameIn_exhausted (a := reentrant env)
      (show env.limit - (depthOf scope : Int) ≤ 0 by omega)
    rw [inScope, hn]
    exact ⟨fun v requested => (hnone.schema v requested).symm,
      fun spec requested => (hnone.field spec requested).symm⟩
  | succ n =>
    rw [inScope, hn, ofLevels_succ]
    refine level_sameIn (ofLevels_restores env n) (reentrant_restores env) fun requested => ?_
    -- Entering a scope takes one of the levels.
    have hleft : (env.limit - (depthOf (some (entered scope requested)) : Int)).toNat = n := by
      show (env.limit - ((depthOf scope + 1 : Nat) : Int)).toNat = n
      omega
    have hinside := reentrant_sameIn env (some (entered scope requested))
    rw [inScope, hleft] at hinside
    exact hinside

/-- **Compiling is one level of compiling, with compiling itself inside.** -/
theorem reentrant_eq_level (env : CompileEnv) : reentrant env = level env (reentrant env) := by
  have hr := reentrant_restores env
  have hl := level_restores env (reentrant env)
  have hsame := fun scope => reentrant_sameIn_level env scope
  have hschema : (reentrant env).schema = (level env (reentrant env)).schema := by
    funext v requested
    exact eq_of_answer (hr.schema v requested) (hl.schema v requested) fun scope =>
      (hsame scope).schema v requested
  have hfield : (reentrant env).field = (level env (reentrant env)).field := by
    funext spec requested
    exact eq_of_answer (hr.field spec requested) (hl.field spec requested) fun scope =>
      (hsame scope).field spec requested
  cases hmade : reentrant env with
  | mk schema field =>
    rw [hmade] at hschema hfield
    exact congr (congrArg Compiler.mk hschema) hfield

end Compiler

/-! ## Compiles one after another -/

/-- A compile that is asked for: what it is made against, a schema or a spec, and the auto-trim. -/
structure Request where
  env : CompileEnv
  part : SchemaPart
  autoTrim : Option Bool := none

/-- What a compile makes. -/
inductive Compiled where
  | schema (schema : CompiledSchema)
  | chain (chain : Chain)

namespace Request

/-- Runs the compile in the scope that is active. -/
def run (request : Request) : Compiling Compiled :=
  match request.part with
  | .schema schema => .schema <$> compileSchemaIn request.env schema request.autoTrim
  | .spec spec => .chain <$> compileFieldIn request.env spec request.autoTrim

/-- Runs compiles in order, whether those before failed or not. -/
def runAll : List Request → Option Scope → List (Except Failure Compiled) × Option Scope
  | [], scope => ([], scope)
  | request :: rest, scope =>
    let (outcome, scope) := request.run scope
    let (outcomes, scope) := runAll rest scope
    (outcome :: outcomes, scope)

theorem run_restores (request : Request) : request.run.Restores := by
  obtain ⟨env, part, autoTrim⟩ := request
  cases part with
  | schema schema => exact (compileSchemaIn_restores env schema autoTrim).map _
  | spec spec => exact (compileFieldIn_restores env spec autoTrim).map _

/-- What a compile comes to that is the first at the top. -/
def outcome (request : Request) : Except Failure Compiled :=
  match request.part with
  | .schema schema => (compileSchema request.env schema request.autoTrim).map .schema
  | .spec spec => (compileField request.env spec request.autoTrim).map .chain

theorem answer_run_none (request : Request) : answer request.run none = request.outcome := by
  obtain ⟨env, part, autoTrim⟩ := request
  cases part with
  | schema schema => exact answer_map (compileSchemaIn_restores env schema autoTrim) _ none
  | spec spec => exact answer_map (compileFieldIn_restores env spec autoTrim) _ none

/-- **Compiles do not see each other.** -/
theorem runAll_eq (requests : List Request) (scope : Option Scope) :
    runAll requests scope = (requests.map fun request => answer request.run scope, scope) := by
  induction requests with
  | nil => rfl
  | cons request rest ih =>
    show ((request.run scope).1 :: (runAll rest (request.run scope).2).1,
      (runAll rest (request.run scope).2).2) = _
    rw [run_restores request scope, ih]
    rfl

end Request

/-! ## Compiles at the top -/

/-- At the top a schema is compiled field by field in a scope of depth one. -/
theorem compileSchema_top (env : CompileEnv) (entries : Entries) (autoTrim : Option Bool) :
    let scope : Scope := { depth := 1, autoTrim := autoTrim.getD false }
    compileSchema env (.map entries) autoTrim =
      if env.limit < 1 then .error (.defect (Defect.schemaTooDeep env.limit))
      else (answer (Compiler.fields env (.reentrant env) scope (.map entries) entries)
        (some scope)).map fun fields => { fields, autoTrim := scope.autoTrim } := by
  intro scope
  have hfields : (Compiler.fields env (.reentrant env) scope (.map entries) entries).Restores :=
    Compiler.fields_restores (Compiler.reentrant_restores env) scope (.map entries) entries
  show answer ((Compiler.reentrant env).schema (.map entries) autoTrim) none = _
  rw [Compiler.reentrant_eq_level, Compiler.level_schema_map, answer_within,
    ← Compiler.reentrant_eq_level, ← answer_map hfields, map_eq_pure_bind]
  rfl

theorem compileField_top (env : CompileEnv) (spec : Value) (autoTrim : Option Bool) :
    let scope : Scope := { depth := 1, autoTrim := autoTrim.getD false }
    compileField env spec autoTrim =
      if env.limit < 1 then .error (.defect (Defect.schemaTooDeep env.limit))
      else answer (Compiler.chain env (.reentrant env) scope "" spec) (some scope) := by
  intro scope
  show answer ((Compiler.reentrant env).field spec autoTrim) none = _
  rw [Compiler.reentrant_eq_level, Compiler.level_field, answer_within,
    ← Compiler.reentrant_eq_level]
  rfl

/-- **Whatever is compiled, and however it ends, the scope is as it was.** Whichever scope is
active, a compile puts it back, and so does a builder that starts any number of compiles and catches
what they raise; what it starts is the compiler itself in the scope of the moment. So compiles in a
row, failed ones among them, come to what each of them would have come to first, and at the top that
is a compile in a scope of depth one, without auto-trim unless it was asked for. -/
theorem scope_restored :
    (∀ env schema autoTrim scope, (compileSchemaIn env schema autoTrim scope).2 = scope) ∧
    (∀ env spec autoTrim scope, (compileFieldIn env spec autoTrim scope).2 = scope) ∧
    (∀ env (recipe : Recipe) scope, (recipe.run (.reentrant env) scope).2 = scope) ∧
    (∀ env, Compiler.reentrant env = .level env (.reentrant env)) ∧
    (∀ requests scope, Request.runAll requests scope =
      (requests.map fun request => (request.run scope).1, scope)) ∧
    (∀ requests, Request.runAll requests none = (requests.map Request.outcome, none)) ∧
    ∀ (env : CompileEnv) (autoTrim : Option Bool),
      let scope : Scope := { depth := 1, autoTrim := autoTrim.getD false }
      (∀ entries, compileSchema env (.map entries) autoTrim =
        if env.limit < 1 then .error (.defect (Defect.schemaTooDeep env.limit))
        else (answer (Compiler.fields env (.reentrant env) scope (.map entries) entries)
          (some scope)).map fun fields => { fields, autoTrim := scope.autoTrim }) ∧
      ∀ spec, compileField env spec autoTrim =
        if env.limit < 1 then .error (.defect (Defect.schemaTooDeep env.limit))
        else answer (Compiler.chain env (.reentrant env) scope "" spec) (some scope) := by
  refine ⟨compileSchemaIn_restores, compileFieldIn_restores, ?recipe, Compiler.reentrant_eq_level,
    Request.runAll_eq, ?top, fun env autoTrim => ⟨?schema, ?field⟩⟩
  case recipe =>
    exact fun env recipe => Recipe.run_restores (Compiler.reentrant_restores env) recipe
  case top =>
    intro requests
    rw [Request.runAll_eq]
    exact congrArg (·, none) (List.map_congr_left fun request _ => request.answer_run_none)
  case schema => exact fun entries => compileSchema_top env entries autoTrim
  case field => exact fun spec => compileField_top env spec autoTrim

end FieldRules
