import FieldRules.Proofs.Compile.Reached

/-!
# Unknown rules cannot hide

A rule may stand in many places: in the spec of a field, in an alternative, in the rules for the
items of a list, in the schema of an object or in one variant of it, or in the rules of an alias
that is used in any of these. A schema compiles only if all the rules in all of these places are
registered (`compileSchema_registered`), so a misspelt one is found when the schema is compiled and
not by the first data that happens to reach it.

The variants are where this is least obvious. Two of them may have keys that read the same, and then
only the later one can ever be chosen; but the earlier one has been compiled all the same.
-/

set_option autoImplicit false

namespace FieldRules

/-- A rule stands somewhere in a part of a schema, at any depth. -/
def Registry.Mentions (r : Registry) (part : SchemaPart) (name : String) : Prop :=
  ∃ (spec : Value) (invocation : Invocation), r.Reaches part (.spec spec) ∧
    invocation.IsIn spec ∧ invocation.name = name

/-- A spec means rules, and each of these is registered and takes the arguments it is given. -/
def Registry.Knows (r : Registry) (spec : Value) : Prop :=
  ∃ invocations, Invocation.ofSpec spec = .ok invocations ∧
    ∀ invocation ∈ invocations, ∃ builder, r.find? invocation.name = some builder ∧
      builder.Takes invocation.args.length

theorem Registry.has_iff {r : Registry} {name : String} :
    r.has name = true ↔ ∃ builder, r.find? name = some builder :=
  Option.isSome_iff_exists

theorem Registry.Knows.has {r : Registry} {spec : Value} (h : r.Knows spec)
    {invocation : Invocation} (hi : invocation.IsIn spec) : r.has invocation.name = true := by
  obtain ⟨invocations, hof, hall⟩ := h
  obtain ⟨others, hothers, hm⟩ := hi
  rw [hof, Except.ok.injEq] at hothers
  rw [← hothers] at hm
  obtain ⟨builder, hb, -⟩ := hall invocation hm
  exact Registry.has_iff.mpr ⟨builder, hb⟩

theorem Registry.Extends.knows_of_has {r : Registry} (hr : r.Extends Builder.IsAlias)
    {autoTrim : Bool} {n : Nat} {part : SchemaPart}
    (hp : (Compilation.ofLevels r autoTrim n).Has part) {spec : Value}
    (hs : r.Reaches part (.spec spec)) : r.Knows spec := by
  have hspec : (Compilation.ofLevels r autoTrim n).Has (.spec spec) := hr.has_of_reaches hp hs
  cases n with
  | zero => exact absurd hspec Compilation.not_has_ofLevels_zero
  | succ n =>
    obtain ⟨chain, invocations, steps, hof, -⟩ := id hspec
    refine ⟨invocations, hof, fun invocation hi => ?_⟩
    obtain ⟨builder, -, hb, htakes, -⟩ :=
      hspec.yields (List.mem_singleton_self spec) ⟨invocations, hof, hi⟩
    exact ⟨builder, hb, htakes⟩

/-- **A schema compiles only if every rule in it is registered**, wherever in it the rule stands. So
a rule that is not registered makes the schema fail. -/
theorem compileSchema_registered {env : CompileEnv} (hr : env.registry.Extends Builder.IsAlias)
    (schema : Value) (autoTrim : Option Bool) :
    (∀ compiled, compileSchema env schema autoTrim = .ok compiled →
      ∀ spec, env.registry.Reaches (.schema schema) (.spec spec) → env.registry.Knows spec) ∧
    ∀ name, env.registry.Mentions (.schema schema) name → env.registry.has name = false →
      ∃ failure, compileSchema env schema autoTrim = .error failure := by
  have hknows : ∀ compiled, compileSchema env schema autoTrim = .ok compiled →
      ∀ spec, env.registry.Reaches (.schema schema) (.spec spec) → env.registry.Knows spec := by
    intro compiled h spec hs
    rw [compileSchema_eq_ok_iff hr.plain_of_isAlias] at h
    have htop : (Compilation.ofLevels env.registry (autoTrim.getD false) env.limit.toNat).Has
        (.schema schema) := ⟨compiled, h⟩
    exact hr.knows_of_has htop hs
  refine ⟨hknows, ?_⟩
  rintro name ⟨spec, invocation, hs, hi, rfl⟩ hunknown
  cases h : compileSchema env schema autoTrim with
  | error failure => exact ⟨failure, rfl⟩
  | ok compiled =>
    rw [(hknows compiled h spec hs).has hi] at hunknown
    exact nomatch hunknown

/-! ## A rule that is only in a variant that is never chosen -/

/-- The rules of the remarks to an order. -/
def remarks : AliasDefinition where
  name := "remarks"
  rules := .map [(.text "list_of", .list [.text "string", .map [(.text "max_length", .int 80)]])]
  error := none

/-- The catalogue with the alias. -/
def remarkRules : Registry := Registry.ofBuiltins.put "remarks" (.aliased remarks)

theorem remarkRules_extends : remarkRules.Extends Builder.IsAlias :=
  (Registry.extends_ofBuiltins _).put (by decide +kernel) ⟨remarks, rfl, by decide, by decide⟩

/-- An order that is paid in one of two ways, the keys of which read the same. -/
def paidOrder (rule : String) : Value :=
  .map [(.text "remarks", .map [(.text "or", .list [.text "string", .text "remarks"])]),
    (.text "payment", .map [(.text "variable_object", .list [.text "kind",
      .map [(.int 1, .map [(.text "card", .text rule)]),
        (.text "1", .map [(.text "card", .text "required")])]])])]

/-- The rules of the remarks are part of the order through an alternative that is an alias, and a
misspelt rule in the variant that is never chosen makes the order fail. -/
theorem compileSchema_registered_paidOrder :
    remarkRules.Extends Builder.IsAlias ∧
      (∃ compiled, compileSchema ⟨remarkRules, 20⟩ (paidOrder "integer") = .ok compiled) ∧
      remarkRules.Knows remarks.rules ∧
      remarkRules.Mentions (.schema (paidOrder "integre")) "integre" ∧
      remarkRules.has "integre" = false ∧
      ∃ failure, compileSchema ⟨remarkRules, 20⟩ (paidOrder "integre") = .error failure := by
  have hcompiles : ∃ compiled,
      compileSchema ⟨remarkRules, 20⟩ (paidOrder "integer") = .ok compiled :=
    Except.exists_eq_ok (by decide +kernel)
  have halias : remarkRules.Reaches (.schema (paidOrder "integer")) (.spec remarks.rules) := by
    have hfield : remarkRules.Holds (.schema (paidOrder "integer"))
        (.spec (.map [(.text "or", .list [.text "string", .text "remarks"])])) :=
      .field List.mem_cons_self
    have hor : remarkRules.Embeds (.map [(.text "or", .list [.text "string", .text "remarks"])])
        (.text "remarks") :=
      ⟨⟨"or", [.text "string", .text "remarks"]⟩, .builtin .or, ⟨_, rfl, List.mem_cons_self⟩,
        remarkRules_extends.builtin .or, by simp [Builder.specs]⟩
    have hrules : remarkRules.Embeds (.text "remarks") remarks.rules :=
      ⟨⟨"remarks", []⟩, .aliased remarks, ⟨_, rfl, List.mem_cons_self⟩, rfl, List.mem_cons_self⟩
    exact ((Relation.ReflTransGen.single hfield).tail (.spec hor)).tail (.spec hrules)
  have hmentions : remarkRules.Mentions (.schema (paidOrder "integre")) "integre" := by
    refine ⟨.text "integre", ⟨"integre", []⟩, ?_, ⟨_, rfl, List.mem_cons_self⟩, rfl⟩
    have hfield : remarkRules.Reaches (.schema (paidOrder "integre")) (.spec _) :=
      .single (.field (List.mem_cons_of_mem _ List.mem_cons_self))
    have hvariant : remarkRules.Reaches (.schema (paidOrder "integre"))
        (.schema (.map [(.text "card", .text "integre")])) :=
      hfield.tail (.schema ⟨_, rfl, List.mem_cons_self⟩
        (remarkRules_extends.builtin .variableObject) List.mem_cons_self)
    exact hvariant.field List.mem_cons_self
  have hhas : remarkRules.has "integre" = false := by decide +kernel
  obtain ⟨compiled, hc⟩ := id hcompiles
  exact ⟨remarkRules_extends, hcompiles,
    (@compileSchema_registered ⟨remarkRules, 20⟩ remarkRules_extends _ none).1 compiled hc _ halias,
    hmentions, hhas,
    (@compileSchema_registered ⟨remarkRules, 20⟩ remarkRules_extends _ none).2 _ hmentions hhas⟩

end FieldRules
