import FieldRules.Compile
import FieldRules.Proofs.Except

/-!
# A compile leaves the scope as it was

The scope is the only state of compiling. What a compile does with it is easy to say: it may enter
another for the time that it runs, and afterwards, whether it has a result or a failure, the one it
found is there again (`ofLevels_restores`). That is worth a module of its own because it is what
allows everything else to forget about state. A compile that *restores* is determined by its
`answer`, a function of the scope; the answer of a sequence is the sequence of the answers
(`answer_bind`), in the same scope throughout, so that neither the fields of a schema nor the rules
of a chain can find out what was compiled before them.

Restoring is not assumed of anything. A builder may ask for whatever it likes, but it asks through a
recipe, and the compiler that answers it restores.
-/

set_option autoImplicit false

namespace FieldRules

namespace Compiling

variable {α β : Type}

/-- What a compile comes to in a scope. -/
def answer (m : Compiling α) (scope : Option Scope) : Except Failure α := (m scope).1

/-- The compile leaves every scope as it was, however it ends. -/
def Restores (m : Compiling α) : Prop := ∀ scope, (m scope).2 = scope

/-! ## The parts of a `do` block -/

theorem restores_pure (a : α) : Restores (pure a : Compiling α) := fun _ => rfl

theorem restores_throw (failure : Failure) : Restores (throw failure : Compiling α) := fun _ => rfl

@[simp] theorem answer_pure (a : α) (scope : Option Scope) :
    answer (pure a : Compiling α) scope = .ok a := rfl

theorem bind_apply (m : Compiling α) (f : α → Compiling β) (scope : Option Scope) :
    (m >>= f) scope = match (m scope).1 with
      | .ok a => f a (m scope).2
      | .error failure => (.error failure, (m scope).2) := by
  show ExceptT.bindCont f (m scope).1 (m scope).2 = _
  cases (m scope).1 <;> rfl

theorem Restores.bind {m : Compiling α} {f : α → Compiling β} (hm : m.Restores)
    (hf : ∀ a, (f a).Restores) : (m >>= f).Restores := by
  intro scope
  rw [bind_apply, hm scope]
  cases (m scope).1 with
  | ok a => exact hf a scope
  | error failure => rfl

/-- **The second half of a sequence runs in the scope of the first.** -/
theorem answer_bind {m : Compiling α} (hm : m.Restores) (f : α → Compiling β)
    (scope : Option Scope) :
    answer (m >>= f) scope = answer m scope >>= fun a => answer (f a) scope := by
  unfold answer
  rw [bind_apply, hm scope]
  cases (m scope).1 <;> rfl

theorem tryCatch_apply (m : Compiling α) (handle : Failure → Compiling α) (scope : Option Scope) :
    (tryCatch m handle) scope = match (m scope).1 with
      | .ok a => (.ok a, (m scope).2)
      | .error failure => handle failure (m scope).2 := by
  rcases hm : m scope with ⟨result, after⟩
  simp only [MonadExcept.tryCatch, tryCatchThe, MonadExceptOf.tryCatch, ExceptT.tryCatch,
    ExceptT.mk, bind, StateT.bind, hm]
  cases result <;> rfl

theorem Restores.tryCatch {m : Compiling α} {handle : Failure → Compiling α} (hm : m.Restores)
    (hh : ∀ failure, (handle failure).Restores) :
    Restores (MonadExcept.tryCatch m handle) := by
  intro scope
  rw [tryCatch_apply, hm scope]
  cases (m scope).1 with
  | ok a => rfl
  | error failure => exact hh failure scope

theorem answer_tryCatch {m : Compiling α} (hm : m.Restores) (handle : Failure → Compiling α)
    (scope : Option Scope) :
    answer (MonadExcept.tryCatch m handle) scope = match answer m scope with
      | .ok a => .ok a
      | .error failure => answer (handle failure) scope := by
  unfold answer
  rw [tryCatch_apply, hm scope]
  cases (m scope).1 <;> rfl

/-! ## Entering a scope -/

/-- What is set in the end is there however a compile ends. -/
theorem tryFinally_set_apply (m : Compiling α) (outer scope : Option Scope) :
    (tryFinally m (set outer)) scope = ((m scope).1, outer) := by
  rcases hm : m scope with ⟨result, after⟩
  simp only [tryFinally, MonadFinally.tryFinally', ExceptT.mk, Functor.map, bind, ExceptT.map,
    StateT.bind, hm]
  cases result <;> rfl

theorem within_apply (limit : Int) (requested : Option Bool) (body : Scope → Compiling α)
    (outer : Option Scope) :
    within limit requested body outer =
      (if limit < ((entered outer requested).depth : Int) then
        .error (.defect (Defect.schemaTooDeep limit))
      else answer (body (entered outer requested)) (some (entered outer requested)), outer) := by
  show (if limit < ((entered outer requested).depth : Int) then _ else _ : Compiling α) outer = _
  by_cases h : limit < ((entered outer requested).depth : Int)
  · rw [if_pos h, if_pos h]
    rfl
  · rw [if_neg h, if_neg h]
    exact tryFinally_set_apply _ outer _

/-- Whatever is compiled inside, and whatever it does to the scope there, the outer scope is back
afterwards. -/
theorem restores_within (limit : Int) (requested : Option Bool) (body : Scope → Compiling α) :
    (within limit requested body).Restores := by
  intro outer
  rw [within_apply]

theorem answer_within (limit : Int) (requested : Option Bool) (body : Scope → Compiling α)
    (outer : Option Scope) :
    answer (within limit requested body) outer =
      if limit < ((entered outer requested).depth : Int) then
        .error (.defect (Defect.schemaTooDeep limit))
      else answer (body (entered outer requested)) (some (entered outer requested)) := by
  unfold answer
  rw [within_apply]
  rfl

end Compiling

open Compiling

/-! ## The compiler -/

/-- All compiles of a compiler leave the scope as it was. -/
structure Compiler.Restores (inner : Compiler) : Prop where
  schema (v : Value) (requested : Option Bool) : (inner.schema v requested).Restores
  field (spec : Value) (requested : Option Bool) : (inner.field spec requested).Restores

theorem Recipe.run_withSchema (inner : Compiler) (schema : Value) (autoTrim : Option Bool)
    (next : Except Failure CompiledSchema → Recipe) (scope : Option Scope) :
    (withSchema schema autoTrim next).run inner scope =
      (next (inner.schema schema autoTrim scope).1).run inner
        (inner.schema schema autoTrim scope).2 := rfl

theorem Recipe.run_withField (inner : Compiler) (spec : Value) (autoTrim : Option Bool)
    (next : Except Failure Chain → Recipe) (scope : Option Scope) :
    (withField spec autoTrim next).run inner scope =
      (next (inner.field spec autoTrim scope).1).run inner
        (inner.field spec autoTrim scope).2 := rfl

theorem Recipe.run_restores {inner : Compiler} (h : inner.Restores) (recipe : Recipe) :
    (recipe.run inner).Restores := by
  induction recipe with
  | ready check => exact restores_pure _
  | notAValidator => exact restores_pure _
  | fail failure => exact restores_throw failure
  | withSchema schema autoTrim next ih =>
    -- The rest of the dialogue depends on the answer, but restores whatever the answer was.
    intro scope
    rw [run_withSchema, ih, h.schema schema autoTrim scope]
  | withField spec autoTrim next ih =>
    intro scope
    rw [run_withField, ih, h.field spec autoTrim scope]

theorem Recipe.answer_withSchema {inner : Compiler} (h : inner.Restores) (schema : Value)
    (autoTrim : Option Bool) (next : Except Failure CompiledSchema → Recipe)
    (scope : Option Scope) :
    answer ((withSchema schema autoTrim next).run inner) scope =
      answer ((next (answer (inner.schema schema autoTrim) scope)).run inner) scope := by
  unfold answer
  rw [run_withSchema, h.schema schema autoTrim scope]

theorem Recipe.answer_withField {inner : Compiler} (h : inner.Restores) (spec : Value)
    (autoTrim : Option Bool) (next : Except Failure Chain → Recipe) (scope : Option Scope) :
    answer ((withField spec autoTrim next).run inner) scope =
      answer ((next (answer (inner.field spec autoTrim) scope)).run inner) scope := by
  unfold answer
  rw [run_withField, h.field spec autoTrim scope]

namespace Compiler

theorem liftExcept_restores {α : Type} (x : Except Failure α) : (step.liftExcept x).Restores := by
  cases x with
  | ok a => exact restores_pure a
  | error failure => exact restores_throw failure

@[simp] theorem answer_liftExcept {α : Type} (x : Except Failure α) (scope : Option Scope) :
    answer (step.liftExcept x) scope = x := by
  cases x <;> rfl

section
variable {env : CompileEnv} {inner : Compiler} (h : inner.Restores)
include h

theorem step_restores (field : String) (invocation : Invocation) :
    (step env inner field invocation).Restores := by
  unfold step
  refine (liftExcept_restores _).bind fun builder => ?_
  refine (liftExcept_restores _).bind fun _ => ?_
  refine ((Recipe.run_restores h _).tryCatch fun failure => restores_throw _).bind fun check => ?_
  cases check with
  | none => exact restores_throw _
  | some check => exact restores_pure _

/-- A step is compiled by looking its rule up, counting its arguments and asking the builder. -/
theorem answer_step (field : String) (invocation : Invocation) (scope : Option Scope) :
    answer (step env inner field invocation) scope = (do
      let builder ← env.registry.lookup invocation.name
      let _ ← checkArity builder invocation field
      match answer ((builder.recipe invocation.args).run inner) scope with
      | .ok (some check) => .ok ⟨invocation, check⟩
      | .ok none => .error (.ofDefect (Defect.invalidRule (.text invocation.name)
          "builder did not return a callable validator" field))
      | .error failure => .error (builderFailure invocation field failure)) := by
  unfold step
  rw [answer_bind (liftExcept_restores _), answer_liftExcept]
  congr 1
  funext builder
  rw [answer_bind (liftExcept_restores _), answer_liftExcept]
  congr 1
  funext _
  have hrun := Recipe.run_restores h (builder.recipe invocation.args)
  rw [answer_bind (hrun.tryCatch fun failure => restores_throw _), answer_tryCatch hrun]
  cases answer ((builder.recipe invocation.args).run inner) scope with
  | error failure => rfl
  | ok check =>
    cases check with
    | none => rfl
    | some check => rfl

theorem steps_restores (field : String) (invocations : List Invocation) :
    (steps env inner field invocations).Restores := by
  induction invocations with
  | nil => exact restores_pure _
  | cons invocation rest ih =>
    unfold steps
    exact (step_restores h field invocation).bind fun _ => ih.bind fun _ => restores_pure _

theorem answer_steps (field : String) (invocations : List Invocation) (scope : Option Scope) :
    answer (steps env inner field invocations) scope =
      invocations.mapM fun invocation => answer (step env inner field invocation) scope := by
  induction invocations with
  | nil => rfl
  | cons invocation rest ih =>
    unfold steps
    rw [List.mapM_cons, answer_bind (step_restores h field invocation)]
    congr 1
    funext first
    rw [answer_bind (steps_restores h field rest), ih]
    rfl

theorem chain_restores (scope : Scope) (field : String) (spec : Value) :
    (chain env inner scope field spec).Restores := by
  unfold chain
  cases Invocation.ofSpec spec with
  | error bad => exact restores_throw _
  | ok invocations => exact (steps_restores h field invocations).bind fun _ => restores_pure _

theorem fields_restores (scope : Scope) (schema : Value) (entries : Entries) :
    (fields env inner scope schema entries).Restores := by
  induction entries with
  | nil => exact restores_pure _
  | cons e rest ih =>
    obtain ⟨key, spec⟩ := e
    cases key with
    | text name =>
      unfold fields
      exact (chain_restores h scope name spec).bind fun _ => ih.bind fun _ => restores_pure _
    | _ => exact restores_throw _

/-- A field whose name is a text is compiled to the chain of its spec. -/
theorem answer_fields_text (scope : Scope) (schema : Value) (name : String) (spec : Value)
    (rest : Entries) (s : Option Scope) :
    answer (fields env inner scope schema ((.text name, spec) :: rest)) s = (do
      let first ← answer (chain env inner scope name spec) s
      let others ← answer (fields env inner scope schema rest) s
      return (name, first) :: others) := by
  rw [fields, answer_bind (chain_restores h scope name spec)]
  congr 1
  funext first
  rw [answer_bind (fields_restores h scope schema rest)]
  rfl

end

theorem level_schema_map (env : CompileEnv) (inner : Compiler) (entries : Entries)
    (requested : Option Bool) :
    (level env inner).schema (.map entries) requested = within env.limit requested fun scope => do
      let compiled ← fields env inner scope (.map entries) entries
      return { fields := compiled, autoTrim := scope.autoTrim } := rfl

theorem level_field (env : CompileEnv) (inner : Compiler) (spec : Value)
    (requested : Option Bool) :
    (level env inner).field spec requested =
      within env.limit requested fun scope => chain env inner scope "" spec := rfl

/-- A level restores whatever is below it, since it compiles inside a scope of its own. -/
theorem level_restores (env : CompileEnv) (inner : Compiler) : (level env inner).Restores where
  schema v requested := by
    cases v with
    | map entries =>
      rw [level_schema_map]
      exact restores_within _ _ _
    | _ => exact restores_throw _
  field spec requested := by
    rw [level_field]
    exact restores_within _ _ _

theorem refusing_restores (failure : Failure) : (refusing failure).Restores where
  schema v requested := by
    cases v with
    | map entries => exact restores_throw _
    | _ => exact restores_throw _
  field spec requested := restores_throw _

/-- **The compiler for any number of levels leaves the scope as it was.** -/
theorem ofLevels_restores (env : CompileEnv) (n : Nat) : (ofLevels env n).Restores := by
  cases n with
  | zero => exact refusing_restores _
  | succ n =>
    exact ⟨(level_restores env (ofLevels env n)).schema, (level_restores env (ofLevels env n)).field⟩

end Compiler

end FieldRules
