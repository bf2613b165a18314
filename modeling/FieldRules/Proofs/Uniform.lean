import Mathlib.Logic.Relation
import FieldRules.Proofs.Catalogue

/-!
# Auto-trim is the same throughout

Whether chains begin with a trim is decided once, for the whole of a schema, although no compile is
told so by the one around it: a builder that has something compiled makes no wish, and the wish is
filled in from the scope. Here it is shown that nothing gets lost on the way. All schemas in a
compiled tree have the auto-trim of the root, and all chains in it begin with the trim pass if that
is on, and then have one step for each rule of the spec that they are compiled from, in its order
(`compileSchema_uniform`).

No registry is required to be of any kind. The pass is not looked up, so that a rule called `trim`
has no part in it, whatever is registered under that name. Only a custom rule is a closed box: what
its check has inside, if anything, is its own affair, and no part of the tree.

The proof is not by induction. What compiles in a scope with auto-trim on, or in one with auto-trim
off, is a relation between what is written and what is compiled (`CompileEnv.underTrim`); one level
of compiling shows that it is closed under going to the parts (`uniform_underTrim`), and every part
of a tree is reached from its root.
-/

set_option autoImplicit false

namespace FieldRules

open Compiling

/-! ## Trees -/

/-- A compiled schema, or a compiled chain. -/
inductive CompiledPart where
  | schema (schema : CompiledSchema)
  | chain (chain : Chain)

/-- The schemas and chains that a check runs. -/
def Check.parts : Check → List CompiledPart
  | aliased _ chain => [.chain chain]
  | object schema => [.schema schema]
  | variant _ variants => variants.map fun v => .schema v.2
  | each chain => [.chain chain]
  | eachObject schema => [.schema schema]
  | eachVariant _ variants => variants.map fun v => .schema v.2
  | firstOf chains => chains.map .chain
  | leaf _ | autoTrim | custom _ => []

/-- The builder is neither a rule of the catalogue nor an alias. -/
def Builder.IsCustom (builder : Builder) : Prop := ∃ rule, builder = custom rule

/-- A part of a compiled tree has another one directly inside: a schema the chains of its fields, a
chain what the checks of its rules run. Custom rules are not looked into. -/
inductive CompiledPart.Holds (r : Registry) : CompiledPart → CompiledPart → Prop
  | field {schema : CompiledSchema} {f : String × Chain} :
    f ∈ schema.fields → Holds r (.schema schema) (.chain f.2)
  | step {chain : Chain} {step : Step} {builder : Builder} {part : CompiledPart} :
    step ∈ chain → r.find? step.rule.name = some builder → ¬ builder.IsCustom →
    part ∈ step.check.parts → Holds r (.chain chain) part

/-- The part stands somewhere in the tree of a schema. -/
def CompiledSchema.Contains (r : Registry) (compiled : CompiledSchema) (part : CompiledPart) :
    Prop :=
  Relation.ReflTransGen (CompiledPart.Holds r) (.schema compiled) part

namespace Compilation

/-- A part of a schema is compiled to a part of a tree. -/
def Pairs (c : Compilation) : SchemaPart → CompiledPart → Prop
  | .schema schema, .schema compiled => c.schema schema compiled
  | .spec spec, .chain chain => c.field spec chain
  | _, _ => False

/-- A spec is compiled to a chain in the plain way: the trim pass, if auto-trim is on, and then a
step for each rule, whose check is built from the parts of the rule. -/
def BuildsChain (c : Compilation) (r : Registry) (autoTrim : Bool) (spec : Value) (chain : Chain) :
    Prop :=
  ∃ steps, chain = withTrim autoTrim steps ∧ Invocation.ofSpec spec = .ok (steps.map (·.rule)) ∧
    ∀ step ∈ steps, ∃ builder, r.find? step.rule.name = some builder ∧
      (builder.IsCustom ∨ builder.Builds c step.rule.args step.check)

/-- Whatever is compiled has one setting of auto-trim, and so has all that is inside of it: a schema
records it, and all chains begin in its way. -/
structure Uniform (c : Compilation) (r : Registry) (autoTrim : Bool) : Prop where
  schema {v : Value} {compiled : CompiledSchema} :
    c.schema v compiled → compiled.autoTrim = autoTrim ∧ ∃ entries, v = .map entries ∧
      List.Forall₂ (fun e f => e.1 = .text f.1 ∧ c.field e.2 f.2) entries compiled.fields
  field {spec : Value} {chain : Chain} : c.field spec chain → c.BuildsChain r autoTrim spec chain

end Compilation

/-! ## One level of compiling -/

/-- What a compiler makes in a scope of what it is asked for without a wish. -/
def Compiler.reading (inner : Compiler) (scope : Option Scope) : Compilation where
  schema v compiled := answer (inner.schema v none) scope = .ok compiled
  field spec chain := answer (inner.field spec none) scope = .ok chain

theorem Compiler.describes_reading (inner : Compiler) (scope : Option Scope) :
    (inner.reading scope).Describes inner scope none where
  schema _ _ := Iff.rfl
  field _ _ := Iff.rfl

section
variable {env : CompileEnv} {inner : Compiler} (hi : inner.Restores) {s : Option Scope}
include hi

/-- A builder that is not custom asks without a wish, so that its check is built from what the
compiler makes in the scope as it is. -/
theorem Builder.builds_reading {builder : Builder} (hb : ¬ builder.IsCustom) {args : List Value}
    {check : Check} (h : answer ((builder.recipe args).run inner) s = .ok (some check)) :
    builder.Builds (inner.reading s) args check := by
  have hreading := inner.describes_reading s
  cases builder with
  | builtin rule => exact Builtin.builds (((rule.recipe_plain args).answer_run hi hreading _).mp h)
  | aliased definition =>
    have hplain := definition.recipe_plain args
    exact AliasDefinition.builds ((hplain.answer_run hi hreading _).mp h)
  | custom rule => exact absurd ⟨rule, rfl⟩ hb

theorem Compiler.step_built {field : String} {invocation : Invocation} {step : Step}
    (h : answer (Compiler.step env inner field invocation) s = .ok step) :
    step.rule = invocation ∧ ∃ builder, env.registry.find? invocation.name = some builder ∧
      (builder.IsCustom ∨ builder.Builds (inner.reading s) invocation.args step.check) := by
  rw [answer_step hi] at h
  obtain ⟨builder, hb, h⟩ := Except.bind_eq_ok.mp h
  obtain ⟨⟨⟩, -, h⟩ := Except.bind_eq_ok.mp h
  rw [Registry.lookup_eq_ok] at hb
  cases hrun : answer ((builder.recipe invocation.args).run inner) s with
  | error failure =>
    rw [hrun] at h
    exact nomatch h
  | ok made =>
    rw [hrun] at h
    cases made with
    | none => exact nomatch h
    | some check =>
      cases h
      refine ⟨rfl, builder, hb, ?_⟩
      by_cases hcustom : builder.IsCustom
      · exact Or.inl hcustom
      · exact Or.inr (Builder.builds_reading hi hcustom hrun)

theorem Compiler.steps_built {field : String} {invocations : List Invocation} {steps : List Step}
    (h : answer (Compiler.steps env inner field invocations) s = .ok steps) :
    invocations = steps.map (·.rule) ∧
      ∀ step ∈ steps, ∃ builder, env.registry.find? step.rule.name = some builder ∧
        (builder.IsCustom ∨ builder.Builds (inner.reading s) step.rule.args step.check) := by
  rw [answer_steps hi, Except.mapM_eq_ok] at h
  induction h with
  | nil => exact ⟨rfl, fun _ hm => absurd hm (by simp)⟩
  | @cons invocation step _ _ hstep _ ih =>
    obtain ⟨hrules, hall⟩ := ih
    obtain ⟨rfl, hbuilder⟩ := step_built hi hstep
    refine ⟨by rw [List.map_cons, ← hrules], fun other hm => ?_⟩
    rcases List.mem_cons.mp hm with rfl | hm
    · exact hbuilder
    · exact hall other hm

theorem Compiler.chain_built {scope : Scope} {field : String} {spec : Value} {built : Chain}
    (h : answer (Compiler.chain env inner scope field spec) s = .ok built) :
    (inner.reading s).BuildsChain env.registry scope.autoTrim spec built := by
  unfold Compiler.chain at h
  cases hspec : Invocation.ofSpec spec with
  | error bad =>
    rw [hspec] at h
    exact nomatch h
  | ok invocations =>
    rw [hspec] at h
    simp only at h
    rw [answer_bind (steps_restores hi field invocations)] at h
    obtain ⟨steps, hsteps, h⟩ := Except.bind_eq_ok.mp h
    obtain ⟨hrules, hall⟩ := steps_built hi hsteps
    exact ⟨steps, (Except.ok.inj h).symm, by rw [hspec, hrules], hall⟩

theorem Compiler.fields_built {scope : Scope} {schema : Value} {entries : Entries}
    {built : List (String × Chain)}
    (h : answer (Compiler.fields env inner scope schema entries) s = .ok built) :
    List.Forall₂ (fun e f => e.1 = .text f.1 ∧
      answer (Compiler.chain env inner scope f.1 e.2) s = .ok f.2) entries built := by
  induction entries generalizing built with
  | nil =>
    rw [← Except.ok.inj h]
    exact .nil
  | cons e rest ih =>
    obtain ⟨key, spec⟩ := e
    cases key with
    | text name =>
      rw [answer_fields_text hi] at h
      obtain ⟨first, hfirst, h⟩ := Except.bind_eq_ok.mp h
      obtain ⟨others, hothers, h⟩ := Except.bind_eq_ok.mp h
      rw [← Except.ok.inj h]
      exact .cons ⟨rfl, hfirst⟩ (ih hothers)
    | _ => exact nomatch h

end

/-! ## All levels -/

theorem Compilation.BuildsChain.mono {c d : Compilation} (hcd : c.Within d) {r : Registry}
    {autoTrim : Bool} {spec : Value} {chain : Chain} (h : c.BuildsChain r autoTrim spec chain) :
    d.BuildsChain r autoTrim spec chain := by
  obtain ⟨steps, hchain, hspec, hsteps⟩ := h
  refine ⟨steps, hchain, hspec, fun step hm => ?_⟩
  obtain ⟨builder, hb, hbuilds⟩ := hsteps step hm
  exact ⟨builder, hb, hbuilds.imp_right (Builder.Builds.mono hcd)⟩

/-- What is compiled in an entered scope that has a setting of auto-trim, at any depth. -/
def CompileEnv.underTrim (env : CompileEnv) (autoTrim : Bool) : Compilation where
  schema v compiled := ∃ n scope entries, scope.autoTrim = autoTrim ∧ v = .map entries ∧
    compiled.autoTrim = autoTrim ∧
    answer (Compiler.fields env (Compiler.ofLevels env n) scope v entries) (some scope) =
      .ok compiled.fields
  field spec chain := ∃ n scope name, scope.autoTrim = autoTrim ∧
    answer (Compiler.chain env (Compiler.ofLevels env n) scope name spec) (some scope) = .ok chain

section
variable {env : CompileEnv} {autoTrim : Bool} {n : Nat} {outer : Option Scope}
  {requested : Option Bool} (htrim : (entered outer requested).autoTrim = autoTrim)
include htrim

theorem CompileEnv.underTrim_schema {v : Value} {compiled : CompiledSchema}
    (h : answer ((Compiler.ofLevels env n).schema v requested) outer = .ok compiled) :
    (env.underTrim autoTrim).schema v compiled := by
  cases n with
  | zero => cases v <;> exact nomatch h
  | succ n =>
    cases v with
    | map entries =>
      rw [Compiler.ofLevels_succ, Compiler.level] at h
      simp only at h
      rw [answer_within] at h
      split at h
      · exact nomatch h
      · have hi := Compiler.ofLevels_restores env n
        rw [answer_bind (Compiler.fields_restores hi _ _ entries)] at h
        obtain ⟨fields, hfields, h⟩ := Except.bind_eq_ok.mp h
        cases h
        exact ⟨n, _, entries, htrim, rfl, htrim, hfields⟩
    | _ => exact nomatch h

theorem CompileEnv.underTrim_field {spec : Value} {chain : Chain}
    (h : answer ((Compiler.ofLevels env n).field spec requested) outer = .ok chain) :
    (env.underTrim autoTrim).field spec chain := by
  cases n with
  | zero => exact nomatch h
  | succ n =>
    rw [Compiler.ofLevels_succ, Compiler.level] at h
    simp only at h
    rw [answer_within] at h
    split at h
    · exact nomatch h
    · exact ⟨n, _, "", htrim, h⟩

end

/-- **A scope hands its setting on to all that is compiled in it.** -/
theorem CompileEnv.uniform_underTrim (env : CompileEnv) (autoTrim : Bool) :
    (env.underTrim autoTrim).Uniform env.registry autoTrim := by
  -- What is inside makes no wish, so that the scope that it enters has the same setting.
  have hinner : ∀ (n : Nat) (scope : Scope), scope.autoTrim = autoTrim →
      ((Compiler.ofLevels env n).reading (some scope)).Within (env.underTrim autoTrim) := by
    intro n scope htrim
    have hentered : (entered (some scope) none).autoTrim = autoTrim := htrim
    exact ⟨fun _ _ hc => underTrim_schema hentered hc, fun _ _ hc => underTrim_field hentered hc⟩
  constructor
  · rintro v compiled ⟨n, scope, entries, htrim, rfl, hcompiled, h⟩
    have hi := Compiler.ofLevels_restores env n
    refine ⟨hcompiled, entries, rfl, (Compiler.fields_built hi h).imp fun e f hf => ?_⟩
    exact ⟨hf.1, n, scope, f.1, htrim, hf.2⟩
  · rintro spec chain ⟨n, scope, name, htrim, h⟩
    have hi := Compiler.ofLevels_restores env n
    have hbuilt := (Compiler.chain_built hi h).mono (hinner n scope htrim)
    rw [htrim] at hbuilt
    exact hbuilt

/-! ## Whole trees -/

namespace Compilation

variable {c : Compilation} {r : Registry} {autoTrim : Bool}

/-- All that a built check runs is compiled from a part of its rule. -/
theorem pairs_of_builds {builder : Builder} {args : List Value} {check : Check}
    (h : builder.Builds c args check) {part : CompiledPart} (hp : part ∈ check.parts) :
    ∃ source, c.Pairs source part := by
  cases h with
  | leaf _ => exact absurd hp (by simp [Check.parts])
  | object hc =>
    rw [Check.parts, List.mem_singleton] at hp
    rw [hp]
    exact ⟨.schema _, hc⟩
  | eachObject hc =>
    rw [Check.parts, List.mem_singleton] at hp
    rw [hp]
    exact ⟨.schema _, hc⟩
  | each _ hc =>
    rw [Check.parts, List.mem_singleton] at hp
    rw [hp]
    exact ⟨.spec _, hc⟩
  | aliased hc =>
    rw [Check.parts, List.mem_singleton] at hp
    rw [hp]
    exact ⟨.spec _, hc⟩
  | variant hall =>
    obtain ⟨v, hv, rfl⟩ := List.mem_map.mp hp
    obtain ⟨schema, -, hc⟩ := hall v hv
    exact ⟨.schema schema, hc⟩
  | eachVariant hall =>
    obtain ⟨v, hv, rfl⟩ := List.mem_map.mp hp
    obtain ⟨schema, -, hc⟩ := hall v hv
    exact ⟨.schema schema, hc⟩
  | firstOf _ hc =>
    obtain ⟨chain, hm, rfl⟩ := List.mem_map.mp hp
    obtain ⟨spec, -, hspec⟩ := hc.exists_of_mem_right hm
    exact ⟨.spec spec, hspec⟩

/-- **What is inside of a part that was compiled was compiled.** -/
theorem Uniform.pairs_of_holds (hu : c.Uniform r autoTrim) {outer inner : CompiledPart}
    (h : CompiledPart.Holds r outer inner) (hp : ∃ source, c.Pairs source outer) :
    ∃ source, c.Pairs source inner := by
  obtain ⟨source, hp⟩ := hp
  cases h with
  | field hf =>
    cases source with
    | schema v =>
      obtain ⟨-, entries, -, hfields⟩ := hu.schema hp
      obtain ⟨e, -, -, hchain⟩ := hfields.exists_of_mem_right hf
      exact ⟨.spec e.2, hchain⟩
    | spec spec => exact hp.elim
  | step hm hb hcustom hpart =>
    cases source with
    | schema v => exact hp.elim
    | spec spec =>
      obtain ⟨steps, rfl, -, hsteps⟩ := hu.field hp
      rcases mem_withTrim hm with rfl | hm
      · -- The trim pass has nothing inside.
        exact absurd hpart (by simp [Compiler.trimStep, Check.parts])
      · obtain ⟨other, hother, hbuilds⟩ := hsteps _ hm
        rw [hb, Option.some.injEq] at hother
        rw [← hother] at hbuilds
        exact pairs_of_builds (hbuilds.resolve_left hcustom) hpart

theorem Uniform.pairs_of_contains (hu : c.Uniform r autoTrim) {v : Value}
    {compiled : CompiledSchema} (hc : c.schema v compiled) {part : CompiledPart}
    (h : compiled.Contains r part) : ∃ source, c.Pairs source part := by
  induction h with
  | refl => exact ⟨.schema v, hc⟩
  | tail _ hholds ih => exact hu.pairs_of_holds hholds ih

end Compilation

theorem Builder.Builds.ne_autoTrim {c : Compilation} {builder : Builder} {args : List Value}
    {check : Check} (h : builder.Builds c args check) : check ≠ .autoTrim := by
  rintro rfl
  cases h

/-- **Auto-trim is the same throughout a compiled tree.** There is a way to compile that has one
setting throughout, and the tree is what it makes of the schema. So every schema in the tree has the
setting that was asked for; and every chain in it has the trim pass in front just if that is on, and
else only the rules of its spec, one by one. -/
theorem compileSchema_uniform {env : CompileEnv} {schema : Value} {autoTrim : Option Bool}
    {compiled : CompiledSchema} (h : compileSchema env schema autoTrim = .ok compiled) :
    ∃ c : Compilation, c.Uniform env.registry (autoTrim.getD false) ∧ c.schema schema compiled ∧
      (∀ inner, compiled.Contains env.registry (.schema inner) →
        inner.autoTrim = autoTrim.getD false) ∧
      ∀ chain, compiled.Contains env.registry (.chain chain) →
        ∃ spec invocations steps, c.field spec chain ∧
          Invocation.ofSpec spec = .ok invocations ∧
          chain = (if autoTrim.getD false then [Compiler.trimStep] else []) ++ steps ∧
          steps.map (·.rule) = invocations ∧
          ∀ step ∈ steps, step.check = .autoTrim →
            ∃ rule, env.registry.find? step.rule.name = some (.custom rule) := by
  rw [compileSchema_eq] at h
  have hu := env.uniform_underTrim (autoTrim.getD false)
  have htop : (entered none autoTrim).autoTrim = autoTrim.getD false := rfl
  have hc := CompileEnv.underTrim_schema htop h
  refine ⟨_, hu, hc, fun inner hinner => ?_, fun chain hchain => ?_⟩
  · obtain ⟨source, hp⟩ := hu.pairs_of_contains hc hinner
    cases source with
    | schema v => exact (hu.schema hp).1
    | spec spec => exact hp.elim
  · obtain ⟨source, hp⟩ := hu.pairs_of_contains hc hchain
    cases source with
    | schema v => exact hp.elim
    | spec spec =>
      obtain ⟨steps, hsteps, hspec, hall⟩ := hu.field hp
      refine ⟨spec, _, steps, hp, hspec, ?_, rfl, fun step hm htrim => ?_⟩
      · rw [hsteps]
        cases autoTrim.getD false <;> rfl
      · obtain ⟨builder, hb, ⟨rule, rfl⟩ | hbuilds⟩ := hall step hm
        · exact ⟨rule, hb⟩
        · exact absurd htrim hbuilds.ne_autoTrim

/-! ## A rule in the place of `trim` -/

/-- A rule that writes the same text whatever it is given. -/
def shout : CustomRule where
  label := "shout"
  signature := some {}
  recipe _ := .ready (.custom fun _ _ => .ok (.wrote (.text "X")))

/-- A registry in which `trim` shouts, and a handle is a short text. -/
def shouting : Registry :=
  (Registry.ofBuiltins.put "trim" (.custom shout)).put "handle"
    (.aliased { name := "handle", rules := .map [(.text "max_length", .int 8)] })

/-- The fields of an account: an owner with a handle, and tags that are handles or numbers. -/
def account : Value := .map [
  (.text "owner", .map [(.text "nested_object", .map [(.text "login", .text "handle")])]),
  (.text "tags", .map [(.text "list_of", .map [(.text "or", .list [.text "integer",
    .text "handle"])])])]

theorem compileSchema_uniform_account :
    ∃ compiled, compileSchema { registry := shouting, limit := 20 } account (some true) =
        .ok compiled ∧
      (∀ inner, compiled.Contains shouting (.schema inner) → inner.autoTrim = true) ∧
      (∀ chain, compiled.Contains shouting (.chain chain) →
        chain.head? = some Compiler.trimStep) ∧
      (compiled.execute [(.text "owner", .map [(.text "login", .text "  bob ")]),
          (.text "tags", .list [.text " 12", .text " long enough to be cut  "])]).map (·.output) =
        .ok [("owner", .map [(.text "login", .text "bob")])] := by
  obtain ⟨compiled, hc, hrun⟩ : ∃ compiled,
      compileSchema { registry := shouting, limit := 20 } account (some true) = .ok compiled ∧
      (compiled.execute [(.text "owner", .map [(.text "login", .text "  bob ")]),
          (.text "tags", .list [.text " 12", .text " long enough to be cut  "])]).map (·.output) =
        .ok [("owner", .map [(.text "login", .text "bob")])] :=
    ⟨_, rfl, rfl⟩
  obtain ⟨c, -, -, hschemas, hchains⟩ := compileSchema_uniform hc
  refine ⟨compiled, hc, hschemas, fun chain hchain => ?_, hrun⟩
  obtain ⟨spec, invocations, steps, -, -, rfl, -⟩ := hchains chain hchain
  rfl

end FieldRules
