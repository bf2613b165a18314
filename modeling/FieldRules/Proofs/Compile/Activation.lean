import Mathlib.Data.List.Chain
import FieldRules.Proofs.Compile.Reached

/-!
# One compile inside another

A compile of a schema or a spec starts other ones: a builder that it calls has something compiled,
and this has builders of its own to call. `CompileEnv.Starts` says which compile starts which, as
the compiler goes about it, with the scope that each is started in and the answers that it got
before. What is said about a whole run of the compiler, how deep it goes and which rules it looks
up, is said with the help of this relation.

For plain registries a run that succeeds has two properties. All that it starts succeeds as well,
with a level less (`CompileEnv.has_of_starts`), so that there are no more compiles inside each other
than there are levels (`CompileEnv.length_lt_of_has`). And it depends on little: another compiler
that finds the same builders under the names that are looked up comes to the same, unless it runs
out of levels, and then there are more compiles inside each other than it has levels for
(`CompileEnv.follows`). Both are said of a single compile and a scope, and then of a schema at the
top.
-/

set_option autoImplicit false

namespace FieldRules

open Compiling

/-- A compile of a schema or a spec: what is compiled, in which scope, and with what wish for
auto-trim. -/
structure Activation where
  part : SchemaPart
  outer : Option Scope := none
  requested : Option Bool := none

/-- The scope that is entered. -/
def Activation.scope (a : Activation) : Scope := entered a.outer a.requested

/-- The invocation is compiled in the scope that is entered. -/
def Activation.Compiles (a : Activation) (invocation : Invocation) : Prop :=
  ∃ spec ∈ a.part.specs, invocation.IsIn spec

/-- In its dialogue with a compiler a recipe asks for a part of a schema, with a wish for auto-trim.
-/
inductive Recipe.Asks (inner : Compiler) (scope : Option Scope) :
    Recipe → SchemaPart → Option Bool → Prop
  | schema {schema : Value} {autoTrim : Option Bool}
      {next : Except Failure CompiledSchema → Recipe} :
    Asks inner scope (.withSchema schema autoTrim next) (.schema schema) autoTrim
  | field {spec : Value} {autoTrim : Option Bool} {next : Except Failure Chain → Recipe} :
    Asks inner scope (.withField spec autoTrim next) (.spec spec) autoTrim
  | afterSchema {schema : Value} {autoTrim requested : Option Bool}
      {next : Except Failure CompiledSchema → Recipe} {part : SchemaPart} :
    Asks inner scope (next (answer (inner.schema schema autoTrim) scope)) part requested →
    Asks inner scope (.withSchema schema autoTrim next) part requested
  | afterField {spec : Value} {autoTrim requested : Option Bool}
      {next : Except Failure Chain → Recipe} {part : SchemaPart} :
    Asks inner scope (next (answer (inner.field spec autoTrim) scope)) part requested →
    Asks inner scope (.withField spec autoTrim next) part requested

namespace CompileEnv

/-- The compiler that builders are given. -/
def compiler (env : CompileEnv) : Compiler where
  schema schema autoTrim := compileSchemaIn env schema autoTrim
  field spec autoTrim := compileFieldIn env spec autoTrim

/-- The levels that are left in a scope. -/
def levels (env : CompileEnv) (scope : Option Scope) : Nat :=
  (env.limit - (depthOf scope : Int)).toNat

/-- A compile starts another one: it is in the scope that the first one entered, and the builder of
one of the rules compiled there asks for it. -/
def Starts (env : CompileEnv) (a b : Activation) : Prop :=
  b.outer = some a.scope ∧ ∃ (invocation : Invocation) (builder : Builder),
    a.Compiles invocation ∧ env.registry.find? invocation.name = some builder ∧
      (builder.recipe invocation.args).Asks env.compiler b.outer b.part b.requested

/-- The name of a rule is looked up in a compile, or in one inside of it. -/
def LooksUp (env : CompileEnv) (a : Activation) (name : String) : Prop :=
  ∃ (b : Activation) (invocation : Invocation), Relation.ReflTransGen env.Starts a b ∧
    b.Compiles invocation ∧ invocation.name = name

/-- So many compiles are inside each other, of which the first is the outermost. -/
def Nests (env : CompileEnv) (a : Activation) (count : Nat) : Prop :=
  ∃ inner, List.IsChain env.Starts (a :: inner) ∧ count = inner.length + 1

variable {env : CompileEnv} {a b : Activation}

theorem levels_entered (env : CompileEnv) (outer : Option Scope) (requested : Option Bool) :
    env.levels (some (entered outer requested)) = env.levels outer - 1 := by
  show (env.limit - ((depthOf outer + 1 : Nat) : Int)).toNat = _
  unfold levels
  omega

theorem levels_none (env : CompileEnv) : env.levels none = env.limit.toNat := by
  show (env.limit - ((0 : Nat) : Int)).toNat = _
  rw [Int.natCast_zero, Int.sub_zero]

theorem LooksUp.of_starts {name : String} (h : env.Starts a b) (hb : env.LooksUp b name) :
    env.LooksUp a name := by
  obtain ⟨last, invocation, hlast, hi, hname⟩ := hb
  exact ⟨last, invocation, hlast.head h, hi, hname⟩

theorem describes_compiler (hr : env.registry.Plain) (scope : Option Scope)
    (requested : Option Bool) :
    (Compilation.ofLevels env.registry (entered scope requested).autoTrim
      (env.levels scope)).Describes env.compiler scope requested where
  schema := (describes_ofLevels hr _ scope requested rfl).schema
  field := (describes_ofLevels hr _ scope requested rfl).field

end CompileEnv

/-! ## What is started succeeds -/

/-- A plain recipe that has a check asks without a wish, and for what compiles. -/
theorem Recipe.Plain.has_of_asks {recipe : Recipe} (hp : recipe.Plain) {inner : Compiler}
    {scope : Option Scope} {c d : Compilation} (hd : d.Describes inner scope none)
    (hcd : c.Within d) {check : Check} (hy : recipe.Yields c check) {part : SchemaPart}
    {requested : Option Bool} (h : recipe.Asks inner scope part requested) :
    requested = none ∧ c.Has part := by
  induction hp with
  | ready made => exact nomatch h
  | notAValidator => exact nomatch h
  | fail failure => exact nomatch h
  | withSchema _ _ ih =>
    cases hy with
    | @withSchema _ _ _ compiled _ hcompiled hnext =>
      cases h with
      | schema => exact ⟨rfl, compiled, hcompiled⟩
      | afterSchema h =>
        rw [(hd.schema _ _).mpr (hcd.schema _ _ hcompiled)] at h
        exact ih compiled hnext h
  | withField _ _ ih =>
    cases hy with
    | @withField _ _ _ chain _ hchain hnext =>
      cases h with
      | field => exact ⟨rfl, chain, hchain⟩
      | afterField h =>
        rw [(hd.field _ _).mpr (hcd.field _ _ hchain)] at h
        exact ih chain hnext h

namespace CompileEnv

variable {env : CompileEnv} (hr : env.registry.Plain) {a b : Activation}
include hr

/-- **What a compile starts takes a level less.** -/
theorem has_of_starts {k : Nat} (hk : k + 1 ≤ env.levels a.outer)
    (ha : (Compilation.ofLevels env.registry a.scope.autoTrim (k + 1)).Has a.part)
    (h : env.Starts a b) : b.outer = some a.scope ∧ b.requested = none ∧
      (Compilation.ofLevels env.registry a.scope.autoTrim k).Has b.part := by
  obtain ⟨houter, invocation, builder, ⟨spec, hs, hi⟩, hb, hasks⟩ := h
  obtain ⟨found, check, hfound, -, hyields⟩ := ha.yields hs hi
  rw [hb, Option.some.injEq] at hfound
  rw [← hfound] at hyields
  rw [houter] at hasks
  -- The builder was answered with all the levels that are left, of which not all may be needed.
  have hwithin : (Compilation.ofLevels env.registry a.scope.autoTrim k).Within
      (Compilation.ofLevels env.registry a.scope.autoTrim (env.levels (some a.scope))) := by
    refine Compilation.ofLevels_within _ _ ?_
    rw [Activation.scope, levels_entered]
    omega
  exact ⟨houter, (hr _ _ hb _).has_of_asks (describes_compiler hr (some a.scope) none) hwithin
    hyields hasks⟩

/-- **There are no more compiles inside each other than levels that it takes.** -/
theorem length_lt_of_has {k : Nat} {inner : List Activation} (hk : k ≤ env.levels a.outer)
    (ha : (Compilation.ofLevels env.registry a.scope.autoTrim k).Has a.part)
    (h : List.IsChain env.Starts (a :: inner)) : inner.length < k := by
  induction inner generalizing a k with
  | nil =>
    cases k with
    | zero => exact absurd ha Compilation.not_has_ofLevels_zero
    | succ k => exact Nat.succ_pos k
  | cons b rest ih =>
    cases k with
    | zero => exact absurd ha Compilation.not_has_ofLevels_zero
    | succ k =>
      rw [List.isChain_cons_cons] at h
      obtain ⟨houter, hrequested, hb⟩ := has_of_starts hr hk ha h.1
      refine Nat.succ_lt_succ (ih ?_ ?_ h.2)
      · rw [houter, Activation.scope, levels_entered]
        omega
      · rw [Activation.scope, houter, hrequested]
        exact hb

end CompileEnv

/-! ## Another compiler -/

/-- A compiler comes to what a compilation says about a part of a schema, or to a tolerable failure.
-/
def Compiler.Follows (inner : Compiler) (c : Compilation) (scope : Option Scope)
    (requested : Option Bool) (tolerable : Failure → Prop) : SchemaPart → Prop
  | .schema schema => ∀ compiled, c.schema schema compiled →
      Except.Ends (· = compiled) tolerable (answer (inner.schema schema requested) scope)
  | .spec spec => ∀ chain, c.field spec chain →
      Except.Ends (· = chain) tolerable (answer (inner.field spec requested) scope)

theorem Compiler.Follows.mono {inner : Compiler} {c : Compilation} {scope : Option Scope}
    {requested : Option Bool} {tolerable tolerable' : Failure → Prop} {part : SchemaPart}
    (h : inner.Follows c scope requested tolerable part)
    (hmono : ∀ failure, tolerable failure → tolerable' failure) :
    inner.Follows c scope requested tolerable' part := by
  cases part with
  | schema schema =>
    intro compiled hc
    exact ⟨(h compiled hc).1, fun failure hf => hmono failure ((h compiled hc).2 failure hf)⟩
  | spec spec =>
    intro chain hc
    exact ⟨(h chain hc).1, fun failure hf => hmono failure ((h chain hc).2 failure hf)⟩

/-- Nothing compiles with no levels. -/
theorem Compiler.follows_ofLevels_zero {inner : Compiler} {r : Registry} {autoTrim : Bool}
    {scope : Option Scope} {requested : Option Bool} {tolerable : Failure → Prop}
    {part : SchemaPart} :
    inner.Follows (Compilation.ofLevels r autoTrim 0) scope requested tolerable part := by
  cases part with
  | schema schema => exact fun _ hc => hc.elim
  | spec spec => exact fun _ hc => hc.elim

/-- A plain recipe comes to its check if all that it asks for comes to what it should. -/
theorem Recipe.Plain.ends {recipe : Recipe} (hp : recipe.Plain) {first inner : Compiler}
    (hi : inner.Restores) {c : Compilation} {scope : Option Scope}
    (hc : c.Describes first scope none) {tolerable : Failure → Prop}
    (hf : ∀ part, recipe.Asks first scope part none → inner.Follows c scope none tolerable part)
    {check : Check} (hy : recipe.Yields c check) :
    Except.Ends (· = some check) tolerable (answer (recipe.run inner) scope) := by
  induction hp with
  | ready made =>
    rw [hy.of_ready]
    exact .ok rfl
  | notAValidator => exact nomatch hy
  | fail failure => exact nomatch hy
  | @withSchema schema next hfail _ ih =>
    cases hy with
    | @withSchema _ _ _ compiled _ hcompiled hnext =>
      rw [Recipe.answer_withSchema hi]
      have hends := hf _ .schema compiled hcompiled
      cases hans : answer (inner.schema schema none) scope with
      | error failure =>
        rw [hfail]
        exact .error (hends.2 failure hans)
      | ok other =>
        rw [hends.1 other hans]
        refine ih compiled (fun part h => hf part (.afterSchema ?_)) hnext
        rw [(hc.schema _ _).mpr hcompiled]
        exact h
  | @withField spec next hfail _ ih =>
    cases hy with
    | @withField _ _ _ chain _ hchain hnext =>
      rw [Recipe.answer_withField hi]
      have hends := hf _ .field chain hchain
      cases hans : answer (inner.field spec none) scope with
      | error failure =>
        rw [hfail]
        exact .error (hends.2 failure hans)
      | ok other =>
        rw [hends.1 other hans]
        refine ih chain (fun part h => hf part (.afterField ?_)) hnext
        rw [(hc.field _ _).mpr hchain]
        exact h

namespace CompileEnv

/-- In another environment the rule is the same, and what it has compiled comes to what it should.
-/
structure Keeps (env other : CompileEnv) (inner : Compiler) (c : Compilation)
    (scope : Option Scope) (tolerable : Failure → Prop) (invocation : Invocation) : Prop where
  same : other.registry.find? invocation.name = env.registry.find? invocation.name
  follows (builder : Builder) (part : SchemaPart) :
    env.registry.find? invocation.name = some builder →
    (builder.recipe invocation.args).Asks env.compiler scope part none →
    inner.Follows c scope none tolerable part

section
variable {env other : CompileEnv} (hr : env.registry.Plain) {inner : Compiler}
  (hi : inner.Restores) {c : Compilation} {s : Option Scope} (hc : c.Describes env.compiler s none)
  {tolerable : Failure → Prop} (hdefect : ∀ failure, tolerable failure → ∃ d, failure = .defect d)
include hr hi hc hdefect

theorem Keeps.step_ends {invocation : Invocation}
    (hk : Keeps env other inner c s tolerable invocation) {made : Step}
    (h : c.MakesStep env.registry invocation made) (field : String) :
    Except.Ends (· = made) tolerable (answer (Compiler.step other inner field invocation) s) := by
  obtain ⟨rule, check⟩ := made
  obtain ⟨hrule, builder, hb, htakes, hyields⟩ := h
  have hlookup := Registry.lookup_eq_ok.mpr (hk.same.trans hb)
  have hrun :=
    (hr _ _ hb invocation.args).ends hi hc (fun part => hk.follows builder part hb) hyields
  rw [Compiler.answer_step hi, hlookup, Except.ok_bind, Compiler.checkArity_eq_ok.mpr htakes,
    Except.ok_bind]
  cases hans : answer ((builder.recipe invocation.args).run inner) s with
  | error failure =>
    -- A defect passes through the builders around it as it is.
    have hfailure := hrun.2 failure hans
    obtain ⟨d, rfl⟩ := hdefect failure hfailure
    exact .error hfailure
  | ok result =>
    rw [hrun.1 result hans]
    refine .ok ?_
    show (⟨invocation, check⟩ : Step) = ⟨rule, check⟩
    rw [← hrule]

theorem Keeps.chain_ends {entered : Scope} {spec : Value}
    (hk : ∀ invocation, invocation.IsIn spec → Keeps env other inner c s tolerable invocation)
    {chain : Chain} (h : c.MakesChain env.registry entered.autoTrim spec chain) (field : String) :
    Except.Ends (· = chain) tolerable
      (answer (Compiler.chain other inner entered field spec) s) := by
  obtain ⟨invocations, steps, hof, hsteps, rfl⟩ := h
  have hends : Except.Ends (· = steps) tolerable
      (answer (Compiler.steps other inner field invocations) s) := by
    rw [Compiler.answer_steps hi]
    have hall : List.Forall₂ (fun invocation step =>
        Keeps env other inner c s tolerable invocation ∧
          c.MakesStep env.registry invocation step) invocations steps :=
      (List.forall₂_and_left invocations steps).mpr
        ⟨fun invocation hm => hk invocation ⟨invocations, hof, hm⟩, hsteps⟩
    refine .mapM_eq (hall.imp fun invocation step h => ?_)
    exact h.1.step_ends hr hi hc hdefect h.2 field
  unfold Compiler.chain
  rw [hof]
  show Except.Ends _ _ (answer (Compiler.steps other inner field invocations >>= fun built =>
    return withTrim entered.autoTrim built) s)
  rw [answer_bind (Compiler.steps_restores hi field invocations)]
  refine hends.bind fun built hbuilt => ?_
  rw [hbuilt]
  exact .ok rfl

theorem Keeps.fields_ends {entered : Scope} {schema : Value} {entries : Entries}
    (hk : ∀ spec ∈ entries.map (·.2), ∀ invocation, invocation.IsIn spec →
      Keeps env other inner c s tolerable invocation)
    {built : List (String × Chain)}
    (h : List.Forall₂ (fun e f => e.1 = .text f.1 ∧
      c.MakesChain env.registry entered.autoTrim e.2 f.2) entries built) :
    Except.Ends (· = built) tolerable
      (answer (Compiler.fields other inner entered schema entries) s) := by
  induction h with
  | nil => exact .ok rfl
  | @cons e f rest others hef _ ih =>
    obtain ⟨key, spec⟩ := e
    obtain ⟨name, chain⟩ := f
    obtain ⟨rfl, hchain⟩ := hef
    rw [Compiler.answer_fields_text hi]
    refine (chain_ends hr hi hc hdefect (hk spec List.mem_cons_self) hchain name).bind ?_
    rintro _ rfl
    refine (ih fun spec hs => hk spec (List.mem_cons_of_mem _ hs)).bind ?_
    rintro _ rfl
    exact .ok rfl

end

/-- **Where there is room, a level comes to what it should** if all that it starts does. -/
theorem Keeps.level_follows {env other : CompileEnv} (hr : env.registry.Plain) {inner : Compiler}
    (hi : inner.Restores) {c : Compilation} {outer : Option Scope} {requested : Option Bool}
    (hc : c.Describes env.compiler (some (entered outer requested)) none)
    {tolerable : Failure → Prop} (hdefect : ∀ failure, tolerable failure → ∃ d, failure = .defect d)
    (hroom : ¬ other.limit < ((entered outer requested).depth : Int)) {part : SchemaPart}
    (hk : ∀ spec ∈ part.specs, ∀ invocation, invocation.IsIn spec →
      Keeps env other inner c (some (entered outer requested)) tolerable invocation) :
    (Compiler.level other inner).Follows (c.next env.registry (entered outer requested).autoTrim)
      outer requested tolerable part := by
  cases part with
  | schema schema =>
    rintro compiled ⟨entries, rfl, htrim, hfields⟩
    show Except.Ends _ _ (answer (within other.limit requested fun scope => do
      let built ← Compiler.fields other inner scope (.map entries) entries
      return ({ fields := built, autoTrim := scope.autoTrim } : CompiledSchema)) outer)
    rw [answer_within, if_neg hroom, answer_bind (Compiler.fields_restores hi _ _ entries)]
    refine (Keeps.fields_ends hr hi hc hdefect hk hfields).bind ?_
    rintro _ rfl
    cases compiled
    cases htrim
    exact .ok rfl
  | spec spec =>
    intro chain hchain
    show Except.Ends _ _ (answer (within other.limit requested fun scope =>
      Compiler.chain other inner scope "" spec) outer)
    rw [answer_within, if_neg hroom]
    exact Keeps.chain_ends hr hi hc hdefect (hk spec (List.mem_singleton_self spec)) hchain ""

/-- The failure of a compile that runs out of so many levels, more compiles being inside each other.
-/
def OutOfLevels (env : CompileEnv) (limit : Int) (a : Activation) (n : Nat) (failure : Failure) :
    Prop :=
  failure = .defect (Defect.schemaTooDeep limit) ∧
    ∃ inner, List.IsChain env.Starts (a :: inner) ∧ n ≤ inner.length

theorem OutOfLevels.of_starts {env : CompileEnv} {limit : Int} {a b : Activation} {n : Nat}
    {failure : Failure} (h : env.Starts a b) (hb : env.OutOfLevels limit b n failure) :
    env.OutOfLevels limit a (n + 1) failure := by
  obtain ⟨hfailure, inner, hinner, hn⟩ := hb
  exact ⟨hfailure, b :: inner, List.isChain_cons_cons.mpr ⟨h, hinner⟩, Nat.succ_le_succ hn⟩

/-- **Another compiler that finds the same rules comes to the same**, unless it runs out of levels.
The induction is on the levels that it has, and the scopes of the two are the same all the way. -/
theorem follows {env other : CompileEnv} (hr : env.registry.Plain) (n : Nat) {a : Activation}
    (hn : other.levels a.outer = n)
    (hsame : ∀ name, env.LooksUp a name →
      other.registry.find? name = env.registry.find? name) :
    (Compiler.ofLevels other n).Follows
      (Compilation.ofLevels env.registry a.scope.autoTrim (env.levels a.outer)) a.outer a.requested
      (env.OutOfLevels other.limit a n) a.part := by
  induction n generalizing a with
  | zero =>
    have hout : env.OutOfLevels other.limit a 0 (.defect (Defect.schemaTooDeep other.limit)) :=
      ⟨rfl, [], .singleton _, Nat.zero_le _⟩
    cases hpart : a.part with
    | schema schema =>
      -- What is no mapping fails in another way, but that does not compile with any levels.
      intro compiled hc
      obtain ⟨entries, rfl, -⟩ := Compilation.fields_of_ofLevels hc
      exact .error hout
    | spec spec => exact fun _ _ => .error hout
  | succ n ih =>
    have hroom : ¬ other.limit < (a.scope.depth : Int) := by
      show ¬ other.limit < ((depthOf a.outer + 1 : Nat) : Int)
      unfold levels at hn
      omega
    have hother : other.levels (some a.scope) = n := by
      rw [Activation.scope, levels_entered, hn, Nat.add_sub_cancel]
    cases hk : env.levels a.outer with
    | zero => exact Compiler.follows_ofLevels_zero
    | succ k =>
      -- The levels of the two go down together, each from where it started.
      have hown : env.levels (some a.scope) = k := by
        rw [Activation.scope, levels_entered, hk, Nat.add_sub_cancel]
      have hc := describes_compiler hr (some a.scope) none
      rw [hown] at hc
      refine Keeps.level_follows hr (Compiler.ofLevels_restores other n) hc ?_ hroom ?_
      · exact fun failure h => ⟨_, h.1⟩
      · intro spec hs invocation hi
        -- What the rule starts is followed with a level less.
        refine ⟨hsame _ ⟨a, invocation, .refl, ⟨spec, hs, hi⟩, rfl⟩, ?_⟩
        intro builder part hb hasks
        have hstarts : env.Starts a ⟨part, some a.scope, none⟩ :=
          ⟨rfl, invocation, builder, ⟨spec, hs, hi⟩, hb, hasks⟩
        have hfollows := ih hother fun name h => hsame name (.of_starts hstarts h)
        rw [hown] at hfollows
        exact hfollows.mono fun failure h => .of_starts hstarts h

end CompileEnv

/-! ## At the top -/

/-- The compile of a schema at the top. -/
def Activation.top (schema : Value) (autoTrim : Option Bool) : Activation :=
  { part := .schema schema, requested := autoTrim }

namespace CompileEnv

variable {env : CompileEnv} (hr : env.registry.Plain) {schema : Value} {autoTrim : Option Bool}
  {compiled : CompiledSchema}
include hr

theorem schema_of_compileSchema (h : compileSchema env schema autoTrim = .ok compiled) :
    (Compilation.ofLevels env.registry (Activation.top schema autoTrim).scope.autoTrim
      (env.levels none)).schema schema compiled := by
  rw [levels_none]
  exact (compileSchema_eq_ok_iff hr autoTrim schema compiled).mp h

/-- A schema that compiles under a limit does not have more compiles inside each other. -/
theorem Nests.le_of_compileSchema {count : Nat} (hn : env.Nests (.top schema autoTrim) count)
    {limit : Int} (hle : limit ≤ env.limit)
    (h : compileSchema { env with limit } schema autoTrim = .ok compiled) :
    count ≤ limit.toNat := by
  obtain ⟨inner, hinner, rfl⟩ := hn
  have hschema := @schema_of_compileSchema { env with limit } hr schema autoTrim compiled h
  have htop : (Compilation.ofLevels env.registry (Activation.top schema autoTrim).scope.autoTrim
      (levels { env with limit } none)).Has (Activation.top schema autoTrim).part :=
    ⟨compiled, hschema⟩
  rw [levels_none] at htop
  have hlevels : limit.toNat ≤ env.levels none := by
    rw [levels_none]
    exact Int.toNat_le_toNat hle
  exact env.length_lt_of_has hr hlevels htop hinner

/-- **Where the same rules are looked up, a schema compiles to the same**, or there are not levels
enough. -/
theorem ends_of_compileSchema (h : compileSchema env schema autoTrim = .ok compiled)
    (other : CompileEnv) (hsame : ∀ name, env.LooksUp (.top schema autoTrim) name →
      other.registry.find? name = env.registry.find? name) :
    Except.Ends (· = compiled)
      (env.OutOfLevels other.limit (.top schema autoTrim) other.limit.toNat)
      (compileSchema other schema autoTrim) := by
  have hfollows := @follows env other hr other.limit.toNat (.top schema autoTrim) other.levels_none
    hsame
  rw [compileSchema_eq]
  exact hfollows compiled (schema_of_compileSchema hr h)

/-- Where the same rules are looked up and there are levels enough, a schema compiles to the same.
-/
theorem compileSchema_of_nests (h : compileSchema env schema autoTrim = .ok compiled)
    (other : CompileEnv) (hsame : ∀ name, env.LooksUp (.top schema autoTrim) name →
      other.registry.find? name = env.registry.find? name)
    (hroom : ∀ count, env.Nests (.top schema autoTrim) count → count ≤ other.limit.toNat) :
    compileSchema other schema autoTrim = .ok compiled := by
  have hends := ends_of_compileSchema hr h other hsame
  cases hans : compileSchema other schema autoTrim with
  | ok again => rw [hends.1 again hans]
  | error failure =>
    -- Running out of levels would take more compiles inside each other than there are.
    obtain ⟨-, inner, hinner, hn⟩ := hends.2 failure hans
    have hcount := hroom (inner.length + 1) ⟨inner, hinner, rfl⟩
    omega

end CompileEnv

end FieldRules
