import FieldRules.Proofs.Compile.Failing

/-!
# What is reached is compiled

`Recipe.Confined` says that a rule has nothing compiled but what is inside of it. Here is the other
half: a rule has no check unless *all* that is inside of it compiles, every alternative and every
variant, whether or not the check that comes of it will ever use that one
(`Registry.Extends.has_of_inside`). No rule postpones anything to the time when data is there.

So a part of a schema that compiles has all its parts compiled, to any depth (`has_of_reaches`), and
each step down that goes through a rule takes a level (`has_of_rule`). The first is why a defect
cannot hide in a corner of a schema, the second why an alias cannot be inside of itself.
-/

set_option autoImplicit false

namespace FieldRules

/-- The specs that are compiled in the scope of a part: those of the fields of a schema, or the spec
itself. -/
def SchemaPart.specs : SchemaPart → List Value
  | .schema (.map entries) => entries.map (·.2)
  | .schema _ => []
  | .spec own => [own]

namespace Compilation

/-- A part of a schema compiles. -/
def Has (c : Compilation) : SchemaPart → Prop
  | .schema schema => ∃ compiled, c.schema schema compiled
  | .spec spec => ∃ chain, c.field spec chain

variable {c d : Compilation} {r : Registry} {autoTrim : Bool} {part : SchemaPart}

theorem not_has_ofLevels_zero : ¬ (ofLevels r autoTrim 0).Has part := by
  intro h
  cases part with
  | schema schema => exact h.elim fun _ hc => hc
  | spec spec => exact h.elim fun _ hc => hc

theorem Within.has (h : c.Within d) (hp : c.Has part) : d.Has part := by
  cases part with
  | schema schema =>
    obtain ⟨compiled, hc⟩ := hp
    exact ⟨compiled, h.schema _ _ hc⟩
  | spec spec =>
    obtain ⟨chain, hc⟩ := hp
    exact ⟨chain, h.field _ _ hc⟩

/-- The specs of what compiles have chains made of what compiles one level below. -/
theorem Has.makesChain (h : (c.next r autoTrim).Has part) {spec : Value}
    (hs : spec ∈ part.specs) : ∃ chain, c.MakesChain r autoTrim spec chain := by
  cases part with
  | schema schema =>
    obtain ⟨compiled, entries, rfl, -, hfields⟩ := h
    have hs : spec ∈ entries.map (·.2) := hs
    obtain ⟨e, he, rfl⟩ := List.mem_map.mp hs
    obtain ⟨f, -, hf⟩ := hfields.flip.exists_of_mem_right he
    exact ⟨f.2, hf.2⟩
  | spec whole =>
    have hs : spec ∈ [whole] := hs
    rw [List.mem_singleton.mp hs]
    exact h

theorem MakesChain.makesStep {spec : Value} {chain : Chain}
    (h : c.MakesChain r autoTrim spec chain) {invocation : Invocation}
    (hi : invocation.IsIn spec) : ∃ step ∈ chain, c.MakesStep r invocation step := by
  obtain ⟨invocations, steps, hspec, hsteps, rfl⟩ := h
  obtain ⟨others, hothers, hm⟩ := hi
  rw [hspec, Except.ok.injEq] at hothers
  rw [← hothers] at hm
  obtain ⟨step, hstep, hmakes⟩ := hsteps.flip.exists_of_mem_right hm
  exact ⟨step, mem_withTrim_of_mem autoTrim hstep, hmakes⟩

/-- A rule of a spec that compiles is registered, takes its arguments and has a check. -/
theorem Has.yields (h : (c.next r autoTrim).Has part) {spec : Value} (hs : spec ∈ part.specs)
    {invocation : Invocation} (hi : invocation.IsIn spec) :
    ∃ builder check, r.find? invocation.name = some builder ∧
      builder.Takes invocation.args.length ∧
      (builder.recipe invocation.args).Yields c check := by
  obtain ⟨chain, hchain⟩ := h.makesChain hs
  obtain ⟨step, -, -, builder, hb, htakes, hyields⟩ := hchain.makesStep hi
  exact ⟨builder, step.check, hb, htakes, hyields⟩

end Compilation

/-! ## Rules whose parts compile -/

namespace Builder

variable {builder : Builder} {args : List Value}

/-- The rules that have schemas inside, and where these stand among the arguments. -/
theorem mem_schemas {schema : Value} (h : schema ∈ builder.schemas args) :
    ((builder = builtin .nestedObject ∨ builder = builtin .listOfObjects) ∧ args = [schema]) ∨
    ((builder = builtin .variableObject ∨ builder = builtin .listOfDifferentObjects) ∧
      ∃ selector variants, args = [selector, .map variants] ∧ schema ∈ variants.map (·.2)) := by
  unfold schemas at h
  split at h
  · rw [List.mem_singleton.mp h]
    exact Or.inl ⟨Or.inl rfl, rfl⟩
  · rw [List.mem_singleton.mp h]
    exact Or.inl ⟨Or.inr rfl, rfl⟩
  · exact Or.inr ⟨Or.inl rfl, _, _, rfl, h⟩
  · exact Or.inr ⟨Or.inr rfl, _, _, rfl, h⟩
  · exact absurd h (by simp)

/-- The rules that have specs inside. -/
theorem mem_specs {spec : Value} (h : spec ∈ builder.specs args) :
    (builder = builtin .listOf ∧ Builtin.elementSpec? args = some spec) ∨
    (builder = builtin .or ∧ spec ∈ args) ∨
    ∃ definition, builder = aliased definition ∧ spec = definition.rules := by
  unfold specs at h
  split at h
  · exact Or.inl ⟨rfl, Option.mem_toList.mp h⟩
  · exact Or.inr (Or.inl ⟨rfl, h⟩)
  · exact Or.inr (Or.inr ⟨_, rfl, List.mem_singleton.mp h⟩)
  · exact absurd h (by simp)

end Builder

namespace Builtin

open Recipe

variable {c : Compilation} {check : Check}

/-- All variants are compiled, those whose keys read the same included: only the last of these is
kept, but the others are compiled before it is known. -/
theorem has_of_onVariants {variants : Entries} {done : List (String × CompiledSchema)}
    {next : List (String × CompiledSchema) → Recipe}
    (h : (onVariants variants done next).Yields c check) :
    ∀ schema ∈ variants.map (·.2), c.Has (.schema schema) := by
  induction variants generalizing done with
  | nil =>
    intro schema hm
    exact absurd hm (by simp)
  | cons e rest ih =>
    obtain ⟨key, first⟩ := e
    obtain ⟨recipe, hr, h⟩ := Yields.of_ofExcept h
    obtain ⟨name, -, rfl⟩ := Except.map_eq_ok.mp hr
    obtain ⟨compiled, hcompiled, h⟩ := Yields.of_onSchema h
    intro schema hm
    rcases List.mem_cons.mp hm with rfl | hm
    · exact ⟨compiled, hcompiled⟩
    · exact ih h schema hm

theorem has_of_onSelector {selector : Value} {variants : Entries}
    {next : String → List (String × CompiledSchema) → Recipe}
    (h : (onSelector selector (.map variants) next).Yields c check) :
    ∀ schema ∈ variants.map (·.2), c.Has (.schema schema) := by
  obtain ⟨recipe, hr, h⟩ := Yields.of_ofExcept h
  obtain ⟨name, -, rfl⟩ := Except.map_eq_ok.mp hr
  cases variants with
  | nil => exact nomatch h
  | cons entry entries => exact has_of_onVariants h

theorem has_of_listOf {args : List Value} (h : (recipe .listOf args).Yields c check) {spec : Value}
    (hs : elementSpec? args = some spec) : c.Has (.spec spec) := by
  cases builds h with
  | leaf hrule => exact nomatch hrule
  | each hspec hchain =>
    rw [hs, Option.some.injEq] at hspec
    rw [hspec]
    exact ⟨_, hchain⟩

theorem has_of_or {args : List Value} (h : (recipe .or args).Yields c check) {spec : Value}
    (hs : spec ∈ args) : c.Has (.spec spec) := by
  obtain ⟨chains, -, -, hchains⟩ := (builds h).of_or
  obtain ⟨chain, -, hchain⟩ := hchains.flip.exists_of_mem_right hs
  exact ⟨chain, hchain⟩

/-- **A rule of the catalogue has a check only if all that is inside of it compiles.** -/
theorem has_of_yields {rule : Builtin} {args : List Value} (h : (rule.recipe args).Yields c check)
    {part : SchemaPart} (hp : (Builder.builtin rule).Inside args part) : c.Has part := by
  cases part with
  | schema schema =>
    rcases Builder.mem_schemas hp with ⟨hb, rfl⟩ | ⟨hb, selector, variants, rfl, hm⟩
    · rcases hb with hb | hb
      all_goals
        cases hb
        obtain ⟨compiled, hcompiled, -⟩ := Yields.of_onSchema h
        exact ⟨compiled, hcompiled⟩
    · rcases hb with hb | hb
      all_goals
        cases hb
        exact has_of_onSelector h schema hm
  | spec spec =>
    rcases Builder.mem_specs hp with ⟨hb, hs⟩ | ⟨hb, hs⟩ | ⟨definition, hb, -⟩
    · cases hb
      exact has_of_listOf h hs
    · cases hb
      exact has_of_or h hs
    · exact nomatch hb

end Builtin

theorem AliasDefinition.has_of_yields {c : Compilation} {check : Check}
    {definition : AliasDefinition} {args : List Value}
    (h : ((Builder.aliased definition).recipe args).Yields c check) {part : SchemaPart}
    (hp : (Builder.aliased definition).Inside args part) : c.Has part := by
  obtain ⟨chain, -, hchain⟩ := (AliasDefinition.builds h).of_aliased
  cases part with
  | schema schema => exact absurd hp (by simp [Builder.Inside, Builder.schemas])
  | spec spec =>
    have hspec : spec = definition.rules := List.mem_singleton.mp hp
    rw [hspec]
    exact ⟨chain, hchain⟩

/-! ## Parts of what compiles -/

namespace Registry

variable {r : Registry} {autoTrim : Bool} {n : Nat}

theorem Extends.has_of_inside (hr : r.Extends Builder.IsAlias) {c : Compilation} {check : Check}
    {name : String} {builder : Builder} (hb : r.find? name = some builder) {args : List Value}
    (hy : (builder.recipe args).Yields c check) {part : SchemaPart}
    (hp : builder.Inside args part) : c.Has part := by
  rcases hr.find?_cases hb with ⟨rule, -, rfl⟩ | ⟨definition, rfl, -⟩
  · exact Builtin.has_of_yields hy hp
  · exact AliasDefinition.has_of_yields hy hp

/-- **What is inside of a rule compiles with a level less than the spec of the rule.** -/
theorem Extends.has_of_rule (hr : r.Extends Builder.IsAlias) {spec : Value}
    (hp : (Compilation.ofLevels r autoTrim (n + 1)).Has (.spec spec)) {invocation : Invocation}
    (hi : invocation.IsIn spec) {builder : Builder} (hb : r.find? invocation.name = some builder)
    {part : SchemaPart} (hin : builder.Inside invocation.args part) :
    (Compilation.ofLevels r autoTrim n).Has part := by
  have hspec : spec ∈ (SchemaPart.spec spec).specs := List.mem_singleton_self spec
  obtain ⟨found, check, hfound, -, hyields⟩ := Compilation.Has.yields hp hspec hi
  rw [hb, Option.some.injEq] at hfound
  rw [← hfound] at hyields
  exact hr.has_of_inside hb hyields hin

/-- What compiles has its direct parts compiled. -/
theorem Extends.has_of_holds (hr : r.Extends Builder.IsAlias) {part inner : SchemaPart}
    (hp : (Compilation.ofLevels r autoTrim n).Has part) (h : r.Holds part inner) :
    (Compilation.ofLevels r autoTrim n).Has inner := by
  cases n with
  | zero =>
    exact absurd hp Compilation.not_has_ofLevels_zero
  | succ n =>
    have hmore := Compilation.ofLevels_within r autoTrim (Nat.le_succ n)
    cases h with
    | @field entries key spec hm =>
      have hspec : spec ∈ entries.map (·.2) := List.mem_map.mpr ⟨_, hm, rfl⟩
      exact Compilation.Has.makesChain hp hspec
    | @spec outer spec he =>
      obtain ⟨invocation, builder, hi, hb, hm⟩ := he
      have hin : builder.Inside invocation.args (.spec spec) := hm
      exact hmore.has (hr.has_of_rule hp hi hb hin)
    | @schema spec schema invocation builder hi hb hm =>
      have hin : builder.Inside invocation.args (.schema schema) := hm
      exact hmore.has (hr.has_of_rule hp hi hb hin)

/-- **What compiles has all its parts compiled, at any depth.** -/
theorem Extends.has_of_reaches (hr : r.Extends Builder.IsAlias) {part inner : SchemaPart}
    (hp : (Compilation.ofLevels r autoTrim n).Has part) (h : r.Reaches part inner) :
    (Compilation.ofLevels r autoTrim n).Has inner := by
  induction h with
  | refl => exact hp
  | tail _ hholds ih => exact hr.has_of_holds ih hholds

end Registry

end FieldRules
