import FieldRules.Proofs.Catalogue
import FieldRules.Proofs.Compile.Arguments
import FieldRules.Proofs.Value.Parts

/-!
# What a check keeps of its arguments

`Builder.Makes` says what is compiled inside of a check. A check also keeps some of the arguments as
they are: values that it may write later, a pattern, the name of the field that selects a schema.
Here it is said which, once for all of the rules (`Builtin.keeps`), so that what is known of a
schema as it is written is known of the checks in it (`Registry.Extends.made_of_mem`).

The two together are all that a proof about compiled schemas needs to know of the rules, and
`Registry.Extends.compiled_induction` is the induction that such a proof is by.
-/

set_option autoImplicit false

namespace FieldRules

/-- The values that a check may write without having been given them: those of its rule. -/
def Leaf.constants : Leaf → List Value
  | eq allowed _ => [allowed]
  | oneOf options => options.map (·.2)
  | default value => [value]
  | _ => []

namespace Builtin

/-- The source and the flags that the arguments of `like` mean. -/
def patternArgs? : List Value → Option (Value × Value)
  | [source] => some (source, .text "")
  | [source, flags] => some (source, flags)
  | _ => none

/-- The field that a rule selects a schema by. -/
def selector? : Builtin → List Value → Option String
  | variableObject, [.text name, _] => some name
  | listOfDifferentObjects, [.text name, _] => some name
  | _, _ => none

end Builtin

/-- A check keeps what its builder was given: its constants are among the arguments or in one of
them, and its pattern and its selector are those of the arguments. -/
structure Builder.Keeps (builder : Builder) (args : List Value) (check : Check) : Prop where
  constants (leaf : Leaf) :
    check = .leaf leaf → ∀ v ∈ leaf.constants, ∃ arg ∈ args, v = arg ∨ v ∈ arg.parts
  pattern (p : Pattern) :
    check = .leaf (.text (.containing p)) → builder = builtin .like ∧
      ∃ source flags, Builtin.patternArgs? args = some (source, flags) ∧
        Arguments.pattern source flags = .ok p
  selector (name : String) (variants : List (String × CompiledSchema)) :
    check = .variant name variants ∨ check = .eachVariant name variants →
      ∃ rule, builder = builtin rule ∧ rule.selector? args = some name

/-! ## All that a recipe can yield -/

namespace Recipe

/-- All checks that the recipe can come to have a property. -/
def Only (c : Compilation) (Q : Check → Prop) (recipe : Recipe) : Prop :=
  ∀ check, recipe.Yields c check → Q check

variable {c : Compilation} {Q : Check → Prop}

theorem only_ready {check : Check} (h : Q check) : (ready check).Only c Q := by
  intro made hy
  rw [Yields.of_ready hy]
  exact h

theorem only_fail (failure : Failure) : (fail failure).Only c Q := fun _ h => nomatch h

theorem only_ofExcept {x : Except Fault Recipe} (h : ∀ recipe, x = .ok recipe → recipe.Only c Q) :
    (ofExcept x).Only c Q := by
  intro check hy
  obtain ⟨recipe, hr, hy⟩ := Yields.of_ofExcept hy
  exact h recipe hr check hy

theorem only_onSchema {schema : Value} {next : CompiledSchema → Recipe}
    (h : ∀ compiled, (next compiled).Only c Q) : (onSchema schema next).Only c Q := by
  intro check hy
  obtain ⟨compiled, -, hy⟩ := Yields.of_onSchema hy
  exact h compiled check hy

theorem only_onField {spec : Value} {next : Chain → Recipe} (h : ∀ chain, (next chain).Only c Q) :
    (onField spec next).Only c Q := by
  intro check hy
  obtain ⟨chain, -, hy⟩ := Yields.of_onField hy
  exact h chain check hy

theorem only_onFields {specs : List Value} {next : List Chain → Recipe}
    (h : ∀ chains, (next chains).Only c Q) : (onFields specs next).Only c Q := by
  intro check hy
  obtain ⟨chains, -, hy⟩ := Yields.of_onFields hy
  exact h chains check hy

end Recipe

/-- A check without constants, pattern and selector keeps nothing that could be missing. -/
theorem Builder.keeps_nothing {builder : Builder} {args : List Value} {check : Check}
    (hc : ∀ leaf, check = .leaf leaf → leaf.constants = [])
    (hp : ∀ p, check ≠ .leaf (.text (.containing p)))
    (hs : ∀ name variants, check ≠ .variant name variants ∧ check ≠ .eachVariant name variants) :
    builder.Keeps args check where
  constants leaf h v hv := by
    rw [hc leaf h] at hv
    exact absurd hv (by simp)
  pattern p h := absurd h (hp p)
  selector name variants h :=
    h.elim (fun h => absurd h (hs name variants).1) fun h => absurd h (hs name variants).2

namespace Builtin

open Recipe Builder

variable {c : Compilation} {Q : Check → Prop} {rule : Builtin} {args : List Value}

theorem only_leafOf {α : Type} {x : Except Fault α} {made : α → Leaf}
    (h : ∀ a, x = .ok a → Q (.leaf (made a))) : (leafOf (x.map made)).Only c Q := by
  refine only_ofExcept fun recipe hr => ?_
  obtain ⟨leaf, hleaf, rfl⟩ := Except.map_eq_ok.mp hr
  obtain ⟨a, ha, rfl⟩ := Except.map_eq_ok.mp hleaf
  exact only_ready (h a ha)

theorem only_onSelector {selector schemas : Value}
    {next : String → List (String × CompiledSchema) → Recipe}
    (h : ∀ name named, selector = .text name → (next name named).Only c Q) :
    (onSelector selector schemas next).Only c Q := by
  refine only_ofExcept fun recipe hr => ?_
  obtain ⟨name, hname, rfl⟩ := Except.map_eq_ok.mp hr
  split
  · intro check hy
    obtain ⟨named, hy, -⟩ := variant?_of_onVariants (by simp) hy
    exact h name named (Arguments.fullText_eq_ok hname) check hy
  · exact only_fail _

/-! ## The rules -/

/-- A check with constants, which are not any that it was not given. -/
theorem keeps_constants {leaf : Leaf} (hp : ∀ p, leaf ≠ .text (.containing p))
    (h : ∀ v ∈ leaf.constants, ∃ arg ∈ args, v = arg ∨ v ∈ arg.parts) :
    (builtin rule).Keeps args (.leaf leaf) where
  constants other ho := by
    cases ho
    exact h
  pattern p ho := by
    cases ho
    exact absurd rfl (hp p)
  selector name variants ho := ho.elim (fun h => nomatch h) fun h => nomatch h

theorem mem_optionArgs {v : Value} (h : v ∈ optionArgs args) :
    ∃ arg ∈ args, v = arg ∨ v ∈ arg.parts := by
  unfold optionArgs at h
  split at h
  case h_1 arg =>
    refine ⟨arg, List.mem_singleton.mpr rfl, ?_⟩
    cases hitems : arg.items? with
    | none =>
      rw [hitems] at h
      exact Or.inl (List.mem_singleton.mp h)
    | some items =>
      rw [hitems] at h
      rw [Value.parts_of_items? hitems]
      exact Or.inr h
  case h_2 => exact ⟨v, h, Or.inl rfl⟩

theorem keeps_eq (allowed : Value) :
    (leafOf (allowed.plainText.map (.eq allowed))).Only c ((builtin .eq).Keeps [allowed]) := by
  refine only_leafOf fun expected _ => keeps_constants (by simp) fun v hv => ?_
  exact ⟨allowed, List.mem_singleton.mpr rfl, Or.inl (List.mem_singleton.mp hv)⟩

theorem keeps_oneOf (args : List Value) :
    (leafOf ((Arguments.options (optionArgs args)).map .oneOf)).Only c
      ((builtin .oneOf).Keeps args) := by
  refine only_leafOf fun options ho => keeps_constants (by simp) fun v hv => ?_
  obtain ⟨e, he, rfl⟩ := List.mem_map.mp hv
  exact mem_optionArgs (Arguments.mem_options ho e he).1

theorem keeps_default (value : Value) :
    (Recipe.leaf (.default value)).Only c ((builtin .default).Keeps [value]) := by
  refine only_ready (keeps_constants (by simp) fun v hv => ?_)
  exact ⟨value, List.mem_singleton.mpr rfl, Or.inl (List.mem_singleton.mp hv)⟩

theorem keeps_like {source flags : Value} (hargs : patternArgs? args = some (source, flags)) :
    (leafOf ((Arguments.pattern source flags).map fun p => .text (.containing p))).Only c
      ((builtin .like).Keeps args) := by
  refine only_leafOf fun p hp => ⟨?_, ?_, ?_⟩
  · rintro _ ⟨⟩ v hv
    exact absurd hv (by simp [Leaf.constants])
  · rintro _ ⟨⟩
    exact ⟨rfl, source, flags, hargs, hp⟩
  · exact fun name variants h => h.elim (fun h => nomatch h) fun h => nomatch h

theorem keeps_selector {selector schemas : Value}
    {made : String → List (String × CompiledSchema) → Check}
    (hmade : ∀ name variants, made name variants = .variant name variants ∨
      made name variants = .eachVariant name variants)
    (hrule : ∀ name, rule.selector? [.text name, schemas] = some name) :
    (onSelector selector schemas fun name variants => .ready (made name variants)).Only c
      ((builtin rule).Keeps [selector, schemas]) := by
  refine only_onSelector fun name named hs => only_ready ?_
  rw [hs]
  rcases hmade name named with h | h
  all_goals
    rw [h]
    refine ⟨fun _ h => (nomatch h), fun _ h => (nomatch h), fun other variants h => ?_⟩
    rcases h with h | h <;> cases h
    exact ⟨rule, rfl, hrule _⟩

/-- **Each rule keeps what it is given.** -/
theorem keeps (c : Compilation) (rule : Builtin) (args : List Value) :
    (rule.recipe args).Only c ((builtin rule).Keeps args) := by
  unfold recipe
  split
  all_goals try split
  all_goals first
    | exact keeps_eq _
    | exact keeps_oneOf _
    | exact keeps_default _
    | exact keeps_like rfl
    | exact only_ready (keeps_nothing (by simp [Leaf.constants]) (by simp) (by simp))
    | exact only_leafOf fun _ _ => keeps_nothing (by simp [Leaf.constants]) (by simp) (by simp)
    | exact keeps_selector (fun _ _ => Or.inl rfl) fun _ => rfl
    | exact keeps_selector (fun _ _ => Or.inr rfl) fun _ => rfl
    | exact only_onSchema fun _ => only_ready (keeps_nothing (by simp) (by simp) (by simp))
    | exact only_onField fun _ => only_ready (keeps_nothing (by simp) (by simp) (by simp))
    | exact only_onFields fun _ => only_ready (keeps_nothing (by simp) (by simp) (by simp))
    | exact only_fail _

end Builtin

/-- The check of an alias keeps nothing but the alias. -/
theorem AliasDefinition.keeps (c : Compilation) (definition : AliasDefinition) (args : List Value) :
    ((Builder.aliased definition).recipe args).Only c
      ((Builder.aliased definition).Keeps args) := by
  cases args with
  | nil =>
    exact Recipe.only_onField fun _ =>
      Recipe.only_ready (Builder.keeps_nothing (by simp) (by simp) (by simp))
  | cons arg rest => exact Recipe.only_fail _

/-- **The checks of a compiled spec**, as in `check_of_mem`, with what they keep of the spec. -/
theorem Registry.Extends.made_of_mem {r : Registry} (hr : r.Extends Builder.IsAlias)
    {c : Compilation} {autoTrim : Bool} {spec : Value} {chain : Chain}
    (hc : c.MakesChain r autoTrim spec chain) {step : Step} (hs : step ∈ chain) :
    step.check = .autoTrim ∨ ∃ (invocation : Invocation) (builder : Builder),
      invocation.IsIn spec ∧ r.find? invocation.name = some builder ∧
        builder.Makes c invocation.args step.check ∧
        builder.Keeps invocation.args step.check := by
  rcases hc.yields_of_mem hs with htrim | ⟨invocation, builder, hin, hb, hyields⟩
  · exact Or.inl htrim
  · refine Or.inr ⟨invocation, builder, hin, hb, ?_⟩
    rcases hr.find?_cases hb with ⟨rule, -, rfl⟩ | ⟨definition, rfl, -⟩
    · exact ⟨Builtin.makes hyields, Builtin.keeps c rule _ _ hyields⟩
    · exact ⟨AliasDefinition.makes hyields, definition.keeps c _ _ hyields⟩

/-! ## Induction over what is compiled -/

/-- What a check is made of may be known by less: it is enough that what is compiled from the parts
of the rule is known by it. -/
theorem Builder.Makes.mono {c d : Compilation} {builder : Builder} {args : List Value}
    {check : Check} (hm : builder.Makes c args check)
    (hschemas : ∀ schema ∈ builder.schemas args, ∀ compiled, c.schema schema compiled →
      d.schema schema compiled)
    (hspecs : ∀ spec ∈ builder.specs args, ∀ chain, c.field spec chain → d.field spec chain) :
    builder.Makes d args check := by
  cases hm with
  | leaf h => exact .leaf h
  | object hm hc => exact .object hm (hschemas _ hm _ hc)
  | variant h => exact .variant fun v hv => (h v hv).imp fun s hs => ⟨hs.1, hschemas s hs.1 _ hs.2⟩
  | each hm hc => exact .each hm (hspecs _ hm _ hc)
  | eachObject hm hc => exact .eachObject hm (hschemas _ hm _ hc)
  | eachVariant h =>
    exact .eachVariant fun v hv => (h v hv).imp fun s hs => ⟨hs.1, hschemas s hs.1 _ hs.2⟩
  | firstOf h =>
    exact .firstOf fun chain hc => (h chain hc).imp fun s hs => ⟨hs.1, hspecs s hs.1 _ hs.2⟩
  | @aliased definition chain hb hc =>
    refine .aliased hb (hspecs definition.rules ?_ chain hc)
    rw [hb]
    exact List.mem_singleton.mpr rfl

/-- What is known of compiled schemas and chains, wherever they were compiled from. -/
def Compilation.knowing (S : CompiledSchema → Prop) (C : Chain → Prop) : Compilation where
  schema _ compiled := S compiled
  field _ chain := C chain

/-- **Induction over what is compiled from a part of a schema.** A property of checks holds of the
one that auto-trim adds, and of one that a rule of the schema makes of chains and schemas which have
their properties; a chain has its property if its checks do, and a schema if its chains do. -/
theorem Registry.Extends.compiled_induction {r : Registry} (hr : r.Extends Builder.IsAlias)
    {autoTrim : Bool} {root : SchemaPart} {K : Check → Prop} {C : Chain → Prop}
    {S : CompiledSchema → Prop} (trim : K .autoTrim)
    (rule : ∀ (spec : Value) (invocation : Invocation) (builder : Builder) (check : Check),
      r.Reaches root (.spec spec) → invocation.IsIn spec → r.find? invocation.name = some builder →
      builder.Makes (.knowing S C) invocation.args check → builder.Keeps invocation.args check →
      K check)
    (chain : ∀ steps, (∀ step ∈ withTrim autoTrim steps, K step.check) →
      C (withTrim autoTrim steps))
    (schema : ∀ compiled, compiled.autoTrim = autoTrim → (∀ f ∈ compiled.fields, C f.2) →
      S compiled) (n : Nat) :
    (∀ schema compiled, (Compilation.ofLevels r autoTrim n).schema schema compiled →
      r.Reaches root (.schema schema) → S compiled) ∧
    ∀ spec chain, (Compilation.ofLevels r autoTrim n).field spec chain →
      r.Reaches root (.spec spec) → C chain := by
  induction n with
  | zero => exact ⟨fun _ _ h => h.elim, fun _ _ h => h.elim⟩
  | succ n ih =>
    have hchain : ∀ spec made, (Compilation.ofLevels r autoTrim n).MakesChain r autoTrim spec made →
        r.Reaches root (.spec spec) → C made := by
      intro spec made hc hreach
      have hchecks : ∀ step ∈ made, K step.check := by
        intro step hs
        rcases hr.made_of_mem hc hs with htrim | ⟨invocation, builder, hin, hb, hmakes, hkeeps⟩
        · rw [htrim]
          exact trim
        · refine rule spec invocation builder _ hreach hin hb (hmakes.mono ?_ ?_) hkeeps
          · intro inner hm compiled hc
            exact ih.1 inner compiled hc (hreach.tail (.schema hin hb hm))
          · intro inner hm chain hc
            exact ih.2 inner chain hc (hreach.embedded ⟨invocation, builder, hin, hb, hm⟩)
      obtain ⟨invocations, steps, -, -, rfl⟩ := hc
      exact chain steps hchecks
    constructor
    · rintro _ compiled ⟨entries, rfl, htrim, hfields⟩ hreach
      refine schema compiled htrim fun f hf => ?_
      obtain ⟨⟨key, spec⟩, hm, -, hmakes⟩ := hfields.exists_of_mem_right hf
      exact hchain spec f.2 hmakes (hreach.field hm)
    · exact hchain

end FieldRules
