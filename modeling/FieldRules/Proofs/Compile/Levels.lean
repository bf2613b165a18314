import FieldRules.Proofs.Compile.Top

/-!
# What compiles, and to what

A builder could do strange things with the answers it gets: go on after a failure, or switch
auto-trim on for what is inside. Where none does, where every recipe is *plain*, compiling is a
relation between what is written and what it is compiled to, and neither scopes nor failures have a
part in it. A `Compilation` is such a relation. The one for `n` levels is built like the compiler:
nothing compiles with no levels, and with one more level the schemas and specs compile whose rules
have checks made of what compiles with one less (`Compilation.next`).

The relation is what the compiler does, in every scope that has so many levels left
(`describes_ofLevels`) and so at the top (`compileSchema_eq_ok_iff`, `compileField_eq_ok_iff`). It
says only what succeeds; which failure is reported first is for the compiler itself. What it makes
easy to see is that depth is never an obstacle to compiling less deep: what compiles with few levels
compiles with more, and to the same (`ofLevels_within`).
-/

set_option autoImplicit false

namespace FieldRules

open Compiling

/-- What schemas and specs compile to. -/
structure Compilation where
  schema : Value → CompiledSchema → Prop
  field : Value → Chain → Prop

/-! ## Recipes -/

/-- A recipe that asks for schemas and specs as they are, without a wish for auto-trim, and that
fails as they fail. -/
inductive Recipe.Plain : Recipe → Prop
  | ready (check : Check) : Plain (.ready check)
  | notAValidator : Plain .notAValidator
  | fail (failure : Failure) : Plain (.fail failure)
  | withSchema {schema : Value} {next : Except Failure CompiledSchema → Recipe} :
    (∀ failure, next (.error failure) = .fail failure) →
    (∀ compiled, Plain (next (.ok compiled))) → Plain (.withSchema schema none next)
  | withField {spec : Value} {next : Except Failure Chain → Recipe} :
    (∀ failure, next (.error failure) = .fail failure) →
    (∀ chain, Plain (next (.ok chain))) → Plain (.withField spec none next)

/-- All builders of a registry have plain recipes. -/
def Registry.Plain (r : Registry) : Prop :=
  ∀ name builder, r.find? name = some builder → ∀ args, (builder.recipe args).Plain

/-- The check that a recipe comes to if all that it asks for compiles. -/
inductive Recipe.Yields (c : Compilation) : Recipe → Check → Prop
  | ready (check : Check) : Yields c (.ready check) check
  | withSchema {schema : Value} {autoTrim : Option Bool}
      {next : Except Failure CompiledSchema → Recipe} {compiled : CompiledSchema} {check : Check} :
    c.schema schema compiled → Yields c (next (.ok compiled)) check →
    Yields c (.withSchema schema autoTrim next) check
  | withField {spec : Value} {autoTrim : Option Bool} {next : Except Failure Chain → Recipe}
      {chain : Chain} {check : Check} :
    c.field spec chain → Yields c (next (.ok chain)) check →
    Yields c (.withField spec autoTrim next) check

/-- A compiler compiles, in a scope and with a wish for auto-trim, what a compilation says. -/
structure Compilation.Describes (c : Compilation) (inner : Compiler) (scope : Option Scope)
    (requested : Option Bool) : Prop where
  schema (v : Value) (compiled : CompiledSchema) :
    answer (inner.schema v requested) scope = .ok compiled ↔ c.schema v compiled
  field (spec : Value) (chain : Chain) :
    answer (inner.field spec requested) scope = .ok chain ↔ c.field spec chain

theorem Recipe.Plain.answer_run {recipe : Recipe} (hp : recipe.Plain) {inner : Compiler}
    (hi : inner.Restores) {c : Compilation} {scope : Option Scope}
    (hc : c.Describes inner scope none) (check : Check) :
    answer (recipe.run inner) scope = .ok (some check) ↔ recipe.Yields c check := by
  induction hp with
  | ready made =>
    show (Except.ok (some made) : Except Failure (Option Check)) = .ok (some check) ↔ _
    rw [Except.ok.injEq, Option.some.injEq]
    constructor
    · rintro rfl
      exact .ready made
    · intro h
      cases h
      rfl
  | notAValidator => exact ⟨fun h => (nomatch h), fun h => (nomatch h)⟩
  | fail failure => exact ⟨fun h => (nomatch h), fun h => (nomatch h)⟩
  | @withSchema schema next hfail _ ih =>
    rw [Recipe.answer_withSchema hi]
    constructor
    · intro h
      cases hans : answer (inner.schema schema none) scope with
      | error failure =>
        -- What was asked for failed, and so does a plain recipe.
        rw [hans, hfail] at h
        exact nomatch h
      | ok compiled =>
        rw [hans] at h
        exact .withSchema ((hc.schema _ _).mp hans) ((ih compiled).mp h)
    · rintro (⟨⟩ | ⟨hcompiled, hnext⟩)
      rw [(hc.schema _ _).mpr hcompiled]
      exact (ih _).mpr hnext
  | @withField spec next hfail _ ih =>
    rw [Recipe.answer_withField hi]
    constructor
    · intro h
      cases hans : answer (inner.field spec none) scope with
      | error failure =>
        rw [hans, hfail] at h
        exact nomatch h
      | ok chain =>
        rw [hans] at h
        exact .withField ((hc.field _ _).mp hans) ((ih chain).mp h)
    · rintro (⟨⟩ | ⟨⟩ | ⟨hchain, hnext⟩)
      rw [(hc.field _ _).mpr hchain]
      exact (ih _).mpr hnext

/-! ## One level -/

/-- The builder takes so many arguments, as far as that can be told. -/
def Builder.Takes (builder : Builder) (count : Nat) : Prop :=
  (builder.signature.bind fun s => s.problem? count) = none

theorem Compiler.checkArity_eq_ok {builder : Builder} {invocation : Invocation} {field : String} :
    checkArity builder invocation field = .ok () ↔ builder.Takes invocation.args.length := by
  unfold checkArity Builder.Takes
  cases builder.signature.bind fun s => s.problem? invocation.args.length with
  | none => exact ⟨fun _ => rfl, fun _ => rfl⟩
  | some problem => exact ⟨fun h => (nomatch h), fun h => (nomatch h)⟩

theorem Registry.lookup_eq_ok {r : Registry} {name : String} {builder : Builder} :
    r.lookup name = .ok builder ↔ r.find? name = some builder := by
  unfold Registry.lookup
  cases r.find? name with
  | none => exact ⟨fun h => (nomatch h), fun h => (nomatch h)⟩
  | some other =>
    show Except.ok other = .ok builder ↔ _
    rw [Except.ok.injEq, Option.some.injEq]

/-- The chain of a field whose specs have the given steps. -/
def withTrim (autoTrim : Bool) (steps : List Step) : Chain :=
  if autoTrim then Compiler.trimStep :: steps else steps

theorem mem_withTrim {autoTrim : Bool} {steps : List Step} {step : Step}
    (h : step ∈ withTrim autoTrim steps) : step = Compiler.trimStep ∨ step ∈ steps := by
  cases autoTrim with
  | false => exact Or.inr h
  | true => exact List.mem_cons.mp h

theorem mem_withTrim_of_mem (autoTrim : Bool) {steps : List Step} {step : Step} (h : step ∈ steps) :
    step ∈ withTrim autoTrim steps := by
  cases autoTrim with
  | false => exact h
  | true => exact List.mem_cons_of_mem _ h

theorem withTrim_append (autoTrim : Bool) (steps rest : List Step) :
    withTrim autoTrim (steps ++ rest) = withTrim autoTrim steps ++ rest := by
  cases autoTrim <;> rfl

theorem length_withTrim (autoTrim : Bool) (steps : List Step) :
    (withTrim autoTrim steps).length = (if autoTrim then 1 else 0) + steps.length := by
  cases autoTrim with
  | false => exact (Nat.zero_add _).symm
  | true => exact Nat.add_comm _ _

namespace Compilation

/-- An invocation compiles to a step: there is a builder that takes its arguments, and it has a
check made of what compiles. -/
def MakesStep (c : Compilation) (r : Registry) (invocation : Invocation) (step : Step) : Prop :=
  step.rule = invocation ∧ ∃ builder, r.find? invocation.name = some builder ∧
    builder.Takes invocation.args.length ∧ (builder.recipe invocation.args).Yields c step.check

/-- A spec compiles to a chain: all of its invocations compile. -/
def MakesChain (c : Compilation) (r : Registry) (autoTrim : Bool) (spec : Value) (chain : Chain) :
    Prop :=
  ∃ invocations steps, Invocation.ofSpec spec = .ok invocations ∧
    List.Forall₂ (c.MakesStep r) invocations steps ∧ chain = withTrim autoTrim steps

/-- What compiles with one more level. -/
def next (c : Compilation) (r : Registry) (autoTrim : Bool) : Compilation where
  schema v compiled := ∃ entries, v = .map entries ∧ compiled.autoTrim = autoTrim ∧
    List.Forall₂ (fun e f => e.1 = .text f.1 ∧ c.MakesChain r autoTrim e.2 f.2)
      entries compiled.fields
  field spec chain := c.MakesChain r autoTrim spec chain

/-- What compiles with a number of levels. -/
def ofLevels (r : Registry) (autoTrim : Bool) : Nat → Compilation
  | 0 => { schema := fun _ _ => False, field := fun _ _ => False }
  | n + 1 => (ofLevels r autoTrim n).next r autoTrim

end Compilation

section
variable {env : CompileEnv} (hr : env.registry.Plain) {inner : Compiler} (hi : inner.Restores)
  {c : Compilation} {s : Option Scope} (hc : c.Describes inner s none)
include hr hi hc

theorem Compiler.answer_step_eq_ok (field : String) (invocation : Invocation) (made : Step) :
    answer (step env inner field invocation) s = .ok made ↔
      c.MakesStep env.registry invocation made := by
  obtain ⟨rule, check⟩ := made
  rw [answer_step hi]
  constructor
  · intro h
    obtain ⟨builder, hb, h⟩ := Except.bind_eq_ok.mp h
    obtain ⟨⟨⟩, ha, h⟩ := Except.bind_eq_ok.mp h
    rw [Registry.lookup_eq_ok] at hb
    have hrun := (hr _ _ hb invocation.args).answer_run hi hc
    cases hans : answer ((builder.recipe invocation.args).run inner) s with
    | error failure =>
      rw [hans] at h
      exact nomatch h
    | ok result =>
      rw [hans] at h
      cases result with
      | none => exact nomatch h
      | some found =>
        cases h
        exact ⟨rfl, builder, hb, checkArity_eq_ok.mp ha, (hrun check).mp hans⟩
  · rintro ⟨hrule, builder, hb, ha, hy⟩
    rw [Registry.lookup_eq_ok.mpr hb, Except.ok_bind, checkArity_eq_ok.mpr ha, Except.ok_bind,
      ((hr _ _ hb invocation.args).answer_run hi hc check).mpr hy]
    show Except.ok (⟨invocation, check⟩ : Step) = _
    rw [← hrule]

theorem Compiler.answer_chain_eq_ok (scope : Scope) (field : String) (spec : Value)
    (built : Chain) :
    answer (chain env inner scope field spec) s = .ok built ↔
      c.MakesChain env.registry scope.autoTrim spec built := by
  unfold chain Compilation.MakesChain
  cases Invocation.ofSpec spec with
  | error bad => exact ⟨fun h => (nomatch h), fun ⟨_, _, h, _⟩ => (nomatch h)⟩
  | ok invocations =>
    have hsteps : ∀ steps, answer (Compiler.steps env inner field invocations) s = .ok steps ↔
        List.Forall₂ (c.MakesStep env.registry) invocations steps := by
      intro steps
      rw [answer_steps hi, Except.mapM_eq_ok]
      simp only [answer_step_eq_ok hr hi hc]
    show answer (Compiler.steps env inner field invocations >>= fun built =>
      return withTrim scope.autoTrim built) s = _ ↔ _
    rw [answer_bind (steps_restores hi field invocations), Except.bind_eq_ok]
    constructor
    · rintro ⟨steps, h, hbuilt⟩
      exact ⟨invocations, steps, rfl, (hsteps steps).mp h, (Except.ok.inj hbuilt).symm⟩
    · rintro ⟨_, steps, hinv, h, rfl⟩
      cases hinv
      exact ⟨steps, (hsteps steps).mpr h, rfl⟩

theorem Compiler.answer_fields_eq_ok (scope : Scope) (schema : Value) (entries : Entries)
    (built : List (String × Chain)) :
    answer (fields env inner scope schema entries) s = .ok built ↔
      List.Forall₂ (fun e f => e.1 = .text f.1 ∧
        c.MakesChain env.registry scope.autoTrim e.2 f.2) entries built := by
  induction entries generalizing built with
  | nil =>
    rw [List.forall₂_nil_left_iff]
    exact ⟨fun h => (Except.ok.inj h).symm, fun h => by rw [h]; rfl⟩
  | cons e rest ih =>
    obtain ⟨key, spec⟩ := e
    rw [List.forall₂_cons_left_iff]
    cases key with
    | text name =>
      rw [answer_fields_text hi]
      constructor
      · intro h
        obtain ⟨first, hfirst, h⟩ := Except.bind_eq_ok.mp h
        obtain ⟨others, hothers, h⟩ := Except.bind_eq_ok.mp h
        exact ⟨(name, first), others,
          ⟨rfl, (answer_chain_eq_ok hr hi hc scope name spec first).mp hfirst⟩,
          (ih others).mp hothers, (Except.ok.inj h).symm⟩
      · rintro ⟨⟨name', first⟩, others, ⟨hname, hfirst⟩, hothers, rfl⟩
        cases hname
        rw [(answer_chain_eq_ok hr hi hc scope name' spec first).mpr hfirst, Except.ok_bind,
          (ih others).mpr hothers]
        rfl
    | _ => exact ⟨fun h => (nomatch h), fun ⟨_, _, ⟨h, _⟩, _⟩ => (nomatch h)⟩

end

/-! ## All levels -/

/-- Of schemas only mappings compile, and their fields have the chains of their specs. -/
theorem Compilation.fields_of_ofLevels {r : Registry} {autoTrim : Bool} {n : Nat} {schema : Value}
    {compiled : CompiledSchema} (h : (ofLevels r autoTrim n).schema schema compiled) :
    ∃ entries, schema = .map entries ∧
      List.Forall₂ (fun e f => e.1 = .text f.1 ∧ (ofLevels r autoTrim n).field e.2 f.2)
        entries compiled.fields := by
  cases n with
  | zero => exact h.elim
  | succ n =>
    obtain ⟨entries, hentries, -, hfields⟩ := h
    exact ⟨entries, hentries, hfields⟩

/-- Auto-trim adds its pass to what a spec compiles to, and nothing else is added. -/
theorem Compilation.exists_withTrim_of_ofLevels {r : Registry} {autoTrim : Bool} {n : Nat}
    {spec : Value} {chain : Chain} (h : (ofLevels r autoTrim n).field spec chain) :
    ∃ steps, chain = withTrim autoTrim steps := by
  cases n with
  | zero => exact h.elim
  | succ n =>
    obtain ⟨-, steps, -, -, hchain⟩ := h
    exact ⟨steps, hchain⟩

/-- **The compiler for a number of levels does what the relation says**, in every scope that has so
many levels left. What is inside inherits the auto-trim of the scope that is entered. -/
theorem describes_ofLevels {env : CompileEnv} (hr : env.registry.Plain) (n : Nat)
    (scope : Option Scope) (requested : Option Bool)
    (hn : (env.limit - (depthOf scope : Int)).toNat = n) :
    (Compilation.ofLevels env.registry (entered scope requested).autoTrim n).Describes
      (Compiler.ofLevels env n) scope requested := by
  induction n generalizing scope requested with
  | zero =>
    constructor
    · intro v compiled
      cases v with
      | map entries => exact ⟨fun h => (nomatch h), fun h => h.elim⟩
      | _ => exact ⟨fun h => (nomatch h), fun h => h.elim⟩
    · intro spec chain
      exact ⟨fun h => (nomatch h), fun h => h.elim⟩
  | succ n ih =>
    have hroom : ¬ env.limit < ((entered scope requested).depth : Int) := by
      show ¬ env.limit < ((depthOf scope + 1 : Nat) : Int)
      omega
    have hdepth : (env.limit - (depthOf (some (entered scope requested)) : Int)).toNat = n := by
      show (env.limit - ((depthOf scope + 1 : Nat) : Int)).toNat = n
      omega
    have hi := Compiler.ofLevels_restores env n
    -- What is inside makes no wish of its own, so it has the auto-trim of the scope just entered.
    have hinner := ih (some (entered scope requested)) none hdepth
    constructor
    · intro v compiled
      cases v with
      | map entries =>
        show answer (within env.limit requested fun scope => do
          let built ← Compiler.fields env (Compiler.ofLevels env n) scope (.map entries) entries
          return ({ fields := built, autoTrim := scope.autoTrim } : CompiledSchema)) scope = _ ↔ _
        rw [answer_within, if_neg hroom, answer_bind (Compiler.fields_restores hi _ _ entries),
          Except.bind_eq_ok]
        simp only [Compiler.answer_fields_eq_ok hr hi hinner]
        constructor
        · rintro ⟨built, hbuilt, h⟩
          cases h
          exact ⟨entries, rfl, rfl, hbuilt⟩
        · rintro ⟨entries', heq, htrim, hbuilt⟩
          cases heq
          refine ⟨compiled.fields, hbuilt, ?_⟩
          cases compiled
          cases htrim
          rfl
      | _ => exact ⟨fun h => (nomatch h), fun ⟨_, h, _⟩ => (nomatch h)⟩
    · intro spec chain
      show answer (within env.limit requested fun scope =>
        Compiler.chain env (Compiler.ofLevels env n) scope "" spec) scope = _ ↔ _
      rw [answer_within, if_neg hroom]
      exact Compiler.answer_chain_eq_ok hr hi hinner _ _ spec chain

section
variable {env : CompileEnv} (hr : env.registry.Plain) (autoTrim : Option Bool)
include hr

theorem compileSchema_eq_ok_iff (schema : Value) (compiled : CompiledSchema) :
    compileSchema env schema autoTrim = .ok compiled ↔
      (Compilation.ofLevels env.registry (autoTrim.getD false) env.limit.toNat).schema
        schema compiled := by
  rw [compileSchema_eq]
  exact (describes_ofLevels hr env.limit.toNat none autoTrim (by simp [depthOf])).schema _ _

/-- The chain of a field is compiled from a spec that the schema has for it. -/
theorem exists_spec_of_compileSchema {autoTrim : Option Bool} {entries : Entries}
    {compiled : CompiledSchema} (hc : compileSchema env (.map entries) autoTrim = .ok compiled)
    {name : String} {chain : Chain} (hm : (name, chain) ∈ compiled.fields) :
    ∃ spec n, (.text name, spec) ∈ entries ∧
      (Compilation.ofLevels env.registry (autoTrim.getD false) n).field spec chain := by
  rw [compileSchema_eq_ok_iff hr] at hc
  obtain ⟨entries', hentries, hfields⟩ := Compilation.fields_of_ofLevels hc
  cases hentries
  obtain ⟨⟨key, spec⟩, he, hkey, hchain⟩ := hfields.exists_of_mem_right hm
  cases hkey
  exact ⟨spec, _, he, hchain⟩

/-- Each field of a schema that compiles has a chain, compiled from its spec. -/
theorem exists_chain_of_compileSchema {autoTrim : Option Bool} {entries : Entries}
    {compiled : CompiledSchema} (hc : compileSchema env (.map entries) autoTrim = .ok compiled)
    {name : String} {spec : Value} (he : (.text name, spec) ∈ entries) :
    ∃ chain n, (name, chain) ∈ compiled.fields ∧
      (Compilation.ofLevels env.registry (autoTrim.getD false) n).field spec chain := by
  rw [compileSchema_eq_ok_iff hr] at hc
  obtain ⟨entries', hentries, hfields⟩ := Compilation.fields_of_ofLevels hc
  cases hentries
  obtain ⟨⟨name', chain⟩, hm, hname, hchain⟩ := hfields.flip.exists_of_mem_right he
  cases hname
  exact ⟨chain, _, hm, hchain⟩

theorem compileField_eq_ok_iff (spec : Value) (chain : Chain) :
    compileField env spec autoTrim = .ok chain ↔
      (Compilation.ofLevels env.registry (autoTrim.getD false) env.limit.toNat).field
        spec chain := by
  rw [compileField_eq]
  exact (describes_ofLevels hr env.limit.toNat none autoTrim (by simp [depthOf])).field _ _

end

/-! ## More levels -/

namespace Compilation

/-- What compiles in the one compiles to the same in the other. -/
structure Within (c d : Compilation) : Prop where
  schema (v : Value) (compiled : CompiledSchema) : c.schema v compiled → d.schema v compiled
  field (spec : Value) (chain : Chain) : c.field spec chain → d.field spec chain

variable {c d : Compilation} {r : Registry}

theorem Within.yields (h : c.Within d) {recipe : Recipe} {check : Check}
    (hy : recipe.Yields c check) : recipe.Yields d check := by
  induction hy with
  | ready check => exact .ready check
  | withSchema hs _ ih => exact .withSchema (h.schema _ _ hs) ih
  | withField hf _ ih => exact .withField (h.field _ _ hf) ih

theorem Within.makesStep (h : c.Within d) {invocation : Invocation} {step : Step}
    (hs : c.MakesStep r invocation step) : d.MakesStep r invocation step := by
  obtain ⟨hrule, builder, hb, ha, hy⟩ := hs
  exact ⟨hrule, builder, hb, ha, h.yields hy⟩

theorem Within.makesChain (h : c.Within d) {autoTrim : Bool} {spec : Value} {chain : Chain}
    (hs : c.MakesChain r autoTrim spec chain) : d.MakesChain r autoTrim spec chain := by
  obtain ⟨invocations, steps, hspec, hsteps, rfl⟩ := hs
  exact ⟨invocations, steps, hspec, hsteps.imp fun _ _ => h.makesStep, rfl⟩

theorem Within.next (h : c.Within d) (autoTrim : Bool) :
    (c.next r autoTrim).Within (d.next r autoTrim) := by
  constructor
  · rintro v compiled ⟨entries, rfl, htrim, hfields⟩
    exact ⟨entries, rfl, htrim, hfields.imp fun _ _ hf => ⟨hf.1, h.makesChain hf.2⟩⟩
  · intro spec chain hs
    exact h.makesChain hs

/-- **What compiles with some levels compiles with more, and to the same.** -/
theorem ofLevels_within (r : Registry) (autoTrim : Bool) {m n : Nat} (h : m ≤ n) :
    (ofLevels r autoTrim m).Within (ofLevels r autoTrim n) := by
  induction m generalizing n with
  | zero => exact ⟨fun _ _ hs => hs.elim, fun _ _ hs => hs.elim⟩
  | succ m ih =>
    obtain ⟨n, rfl⟩ : ∃ k, n = k + 1 := ⟨n - 1, by omega⟩
    exact (ih (Nat.le_of_succ_le_succ h)).next autoTrim

/-- **Induction over what specs compile to.** A property of a spec and its chain holds whatever the
number of levels, if one level of compiling passes it on. -/
theorem ofLevels_field_induction {autoTrim : Bool} {P : Value → Chain → Prop}
    (step : ∀ c : Compilation, (∀ spec chain, c.field spec chain → P spec chain) →
      ∀ spec chain, c.MakesChain r autoTrim spec chain → P spec chain)
    {n : Nat} {spec : Value} {chain : Chain} (h : (ofLevels r autoTrim n).field spec chain) :
    P spec chain := by
  induction n generalizing spec chain with
  | zero => exact h.elim
  | succ n ih => exact step _ (fun _ _ => ih) spec chain h

end Compilation

end FieldRules
