import FieldRules.Proofs.Compile.Calls
import FieldRules.Proofs.Grammar
import FieldRules.Proofs.Run.Trim

/-!
# Specs that mean the same

One field can be specified in several ways. The chains they compile to are then different, if only
because a chain remembers the rules it is made of; what can be observed of them is whether there is
a chain at all and how it runs. Writing another spec instead of one keeps its meaning if the other
one compiles as well, to a chain that has the same outcomes (`CompileEnv.KeepsMeaning`), and two
specs mean the same if each can be written instead of the other (`CompileEnv.SameMeaning`).

For specs of built-in rules it is enough to look at the recipes, which are asked for the same chains
in another order or from other arguments. So the way back is needed as well: what a recipe yields is
what its spec compiles to (`Registry.Extends.field_of_yields`).
-/

set_option autoImplicit false

namespace FieldRules

/-- The other spec compiles whenever the spec does, and then the two chains have the same outcome on
every value: the same fault, the same error, or the same value, written or not. -/
def CompileEnv.KeepsMeaning (env : CompileEnv) (autoTrim : Option Bool) (spec other : Value) :
    Prop :=
  ∀ c, compileField env spec autoTrim = .ok c → ∃ d, compileField env other autoTrim = .ok d ∧
    ∀ v siblings, runChain c v siblings false = runChain d v siblings false

/-- The specs both compile or both fail to, and in the first case they have the same outcome on
every value. -/
def CompileEnv.SameMeaning (env : CompileEnv) (autoTrim : Option Bool) (spec other : Value) :
    Prop :=
  env.KeepsMeaning autoTrim spec other ∧ env.KeepsMeaning autoTrim other spec

/-! ## What recipes yield -/

namespace Recipe

variable {c : Compilation} {check : Check}

theorem Yields.onField {spec : Value} {next : Chain → Recipe} {chain : Chain}
    (hchain : c.field spec chain) (h : (next chain).Yields c check) :
    (onField spec next).Yields c check :=
  .withField hchain h

theorem Yields.onFields {specs : List Value} {next : List Chain → Recipe} {chains : List Chain}
    (hchains : List.Forall₂ c.field specs chains) (h : (next chains).Yields c check) :
    (onFields specs next).Yields c check := by
  induction hchains generalizing next with
  | nil => exact h
  | cons hchain _ ih => exact Yields.onField hchain (ih h)

end Recipe

namespace Builtin

variable {c : Compilation} {args : List Value}

theorem yields_listOf {spec : Value} (hspec : elementSpec? args = some spec) {chain : Chain}
    (h : c.field spec chain) : (recipe .listOf args).Yields c (.each chain) := by
  have hrecipe : recipe .listOf args = .onField spec fun chain => .ready (.each chain) := by
    simp only [recipe, hspec]
  rw [hrecipe]
  exact .onField h (.ready _)

theorem yields_or (hne : args ≠ []) {chains : List Chain} (h : List.Forall₂ c.field args chains) :
    (recipe .or args).Yields c (.firstOf chains) := by
  have hrecipe : recipe .or args = .onFields args fun chains => .ready (.firstOf chains) :=
    if_neg fun he => hne (List.isEmpty_iff.mp he)
  rw [hrecipe]
  exact .onFields h (.ready _)

/-- A rule that has a signature without names takes all arguments. -/
theorem takes_of_variadic {rule : Builtin} (h : rule.signature = { variadic := true })
    (count : Nat) : (Builder.builtin rule).Takes count := by
  show rule.signature.problem? count = none
  rw [h, Signature.problem?_eq_none_iff]
  exact ⟨Nat.zero_le _, Or.inl rfl⟩

end Builtin

/-! ## What specs compile to -/

section
variable {r : Registry} {autoTrim : Bool} {n : Nat} {spec : Value}

/-- **What the recipe of a rule yields is what its spec compiles to.** -/
theorem Registry.Extends.field_of_yields (hr : r.Extends Builder.IsAlias) {rule : Builtin}
    {args : List Value} (hspec : Invocation.ofSpec spec = .ok [.ofCall (rule, args)])
    (htakes : (Builder.builtin rule).Takes args.length) {check : Check}
    (h : (rule.recipe args).Yields (Compilation.ofLevels r autoTrim n) check) :
    (Compilation.ofLevels r autoTrim (n + 1)).field spec
      (withTrim autoTrim [⟨.ofCall (rule, args), check⟩]) := by
  have hstep : (Compilation.ofLevels r autoTrim n).MakesStep r (.ofCall (rule, args))
      ⟨.ofCall (rule, args), check⟩ := ⟨rfl, .builtin rule, hr.builtin rule, htakes, h⟩
  exact ⟨_, _, hspec, .cons hstep .nil, rfl⟩

/-- Specs with the same items compile to the same chains. -/
theorem Compilation.field_congr {other : Value} (h : specItems spec = specItems other)
    {chain : Chain} (hc : (ofLevels r autoTrim n).field spec chain) :
    (ofLevels r autoTrim n).field other chain := by
  cases n with
  | zero => exact hc.elim
  | succ n =>
    obtain ⟨invocations, steps, hof, hsteps, hchain⟩ := hc
    rw [Invocation.ofSpec_eq_ok_iff, h, ← Invocation.ofSpec_eq_ok_iff] at hof
    exact ⟨invocations, steps, hof, hsteps, hchain⟩

end

/-- A step alone in its chain, with or without the pass in front, runs by its check, whatever rule
the check is of. -/
theorem runChain_withTrim_rule (rule other : Invocation) (check : Check) (autoTrim : Bool)
    (v : Value) (siblings : Entries) :
    runChain (withTrim autoTrim [⟨rule, check⟩]) v siblings false =
      runChain (withTrim autoTrim [⟨other, check⟩]) v siblings false := by
  rw [runChain_withTrim, runChain_withTrim]
  exact (runChain_congr (.cons rfl .nil) _ _ _).1

/-- The meaning is kept if all the checks that the one recipe yields are yielded by the other. -/
theorem CompileEnv.keepsMeaning_of_yields {r : Registry} {limit : Int}
    (hr : r.Extends Builder.IsAlias) {autoTrim : Option Bool} {rule : Builtin} {arg other : Value}
    (htakes : (Builder.builtin rule).Takes other.arguments.length)
    (h : ∀ n check,
      (rule.recipe arg.arguments).Yields (Compilation.ofLevels r (autoTrim.getD false) n) check →
      (rule.recipe other.arguments).Yields (Compilation.ofLevels r (autoTrim.getD false) n) check) :
    CompileEnv.KeepsMeaning ⟨r, limit⟩ autoTrim (rule.spec arg) (rule.spec other) := by
  intro c hc
  rw [compileField_eq_ok_iff hr.plain_of_isAlias] at hc
  obtain ⟨m, ⟨call, check⟩, hn, rfl, hyields⟩ :=
    hr.yields_of_call (Invocation.ofSpec_spec rule arg) hc
  refine ⟨withTrim (autoTrim.getD false) [⟨.ofCall (rule, other.arguments), check⟩], ?_,
    runChain_withTrim_rule _ _ check _⟩
  rw [compileField_eq_ok_iff hr.plain_of_isAlias, hn]
  exact hr.field_of_yields (Invocation.ofSpec_spec rule other) htakes (h m _ hyields)

end FieldRules
