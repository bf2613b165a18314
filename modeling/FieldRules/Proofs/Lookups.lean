import FieldRules.Proofs.Compile.Activation
import FieldRules.Proofs.Positions
import FieldRules.Proofs.Splicing

/-!
# Rules that a schema does not use

A schema is compiled against a registry that may have many more rules than it uses. None of these
others matters. Compiling looks up some names, in the schema and in what is compiled on the way, and
the schema compiles to the same against any registry that has the same builders under these
(`compileSchema_of_lookups`). All names that it looks up are registered, so to register new ones
never breaks it.

Aliases are no exception, although their rules are looked up as well, in the registry that the
schema is compiled against. Which names these are can be read off the schema and the aliases in it
(`CompileEnv.LooksUp.mentions`).
-/

set_option autoImplicit false

namespace FieldRules

open Compiling

/-- All builders of a registry are built-in rules, aliases, or custom ones that have nothing
compiled, each under any name. -/
def Registry.IsOrdinary (r : Registry) : Prop :=
  ∀ name builder, r.find? name = some builder →
    (∃ rule, builder = .builtin rule) ∨ (∃ definition, builder = .aliased definition) ∨
      builder.IsImmediate

theorem Registry.IsOrdinary.plain {r : Registry} (h : r.IsOrdinary) : r.Plain := by
  intro name builder hb args
  rcases h name builder hb with ⟨rule, rfl⟩ | ⟨definition, rfl⟩ | himmediate
  · exact rule.recipe_plain args
  · exact definition.recipe_plain args
  · exact himmediate.plain args

/-! ## What is looked up -/

/-- A plain recipe asks for what is inside. -/
theorem Recipe.Confined.inside_of_asks {recipe : Recipe} {inside : SchemaPart → Prop}
    {own : Failure → Prop} (hc : recipe.Confined inside own) (hp : recipe.Plain) {inner : Compiler}
    {scope : Option Scope} {part : SchemaPart} {requested : Option Bool}
    (h : recipe.Asks inner scope part requested) : inside part := by
  induction hp with
  | ready check => exact nomatch h
  | notAValidator => exact nomatch h
  | fail failure => exact nomatch h
  | @withSchema schema next hfail _ ih =>
    cases h with
    | schema => exact hc.1
    | afterSchema h =>
      cases hans : answer (inner.schema schema none) scope with
      | error failure =>
        rw [hans, hfail] at h
        exact nomatch h
      | ok compiled =>
        rw [hans] at h
        exact ih compiled (hc.2 compiled) h
  | @withField spec next hfail _ ih =>
    cases h with
    | field => exact hc.1
    | afterField h =>
      cases hans : answer (inner.field spec none) scope with
      | error failure =>
        rw [hans, hfail] at h
        exact nomatch h
      | ok chain =>
        rw [hans] at h
        exact ih chain (hc.2 chain) h

theorem Recipe.IsImmediate.not_asks {recipe : Recipe} (h : recipe.IsImmediate) {inner : Compiler}
    {scope : Option Scope} {part : SchemaPart} {requested : Option Bool} :
    ¬ recipe.Asks inner scope part requested := by
  intro hasks
  cases hasks with
  | schema => exact h
  | field => exact h
  | afterSchema => exact h
  | afterField => exact h

theorem Registry.IsOrdinary.inside_of_asks {r : Registry} (h : r.IsOrdinary) {name : String}
    {builder : Builder} (hb : r.find? name = some builder) {args : List Value} {inner : Compiler}
    {scope : Option Scope} {part : SchemaPart} {requested : Option Bool}
    (hasks : (builder.recipe args).Asks inner scope part requested) : builder.Inside args part := by
  have hplain := h.plain name builder hb args
  rcases h name builder hb with ⟨rule, rfl⟩ | ⟨definition, rfl⟩ | ⟨rule, rfl, himmediate⟩
  · exact (rule.recipe_confined args).inside_of_asks hplain hasks
  · exact (definition.recipe_confined args).inside_of_asks hplain hasks
  · exact absurd hasks (himmediate args).not_asks

theorem Registry.reaches_of_mem_specs {r : Registry} {part : SchemaPart} {spec : Value}
    (h : spec ∈ part.specs) : r.Reaches part (.spec spec) := by
  cases part with
  | schema schema =>
    cases schema with
    | map entries =>
      obtain ⟨e, he, rfl⟩ := List.mem_map.mp h
      exact .single (.field he)
    | _ => exact absurd h (by simp [SchemaPart.specs])
  | spec whole =>
    rw [List.mem_singleton.mp h]
    exact .refl

theorem Registry.holds_of_inside {r : Registry} {spec : Value} {part : SchemaPart}
    {invocation : Invocation} (hi : invocation.IsIn spec) {builder : Builder}
    (hb : r.find? invocation.name = some builder) (hm : builder.Inside invocation.args part) :
    r.Holds (.spec spec) part := by
  cases part with
  | schema schema => exact .schema hi hb hm
  | spec inner => exact .spec ⟨invocation, builder, hi, hb, hm⟩

/-- The parts of a spec are what is inside of its rules. -/
theorem Registry.inside_of_holds {r : Registry} {spec : Value} {invocations : List Invocation}
    (hof : Invocation.ofSpec spec = .ok invocations) {part : SchemaPart}
    (h : r.Holds (.spec spec) part) :
    ∃ invocation ∈ invocations, ∃ builder, r.find? invocation.name = some builder ∧
      builder.Inside invocation.args part := by
  have hinside : ∃ (invocation : Invocation) (builder : Builder), invocation.IsIn spec ∧
      r.find? invocation.name = some builder ∧ builder.Inside invocation.args part := by
    cases h with
    | spec he => exact he
    | schema hi hb hm => exact ⟨_, _, hi, hb, hm⟩
  obtain ⟨invocation, builder, ⟨others, hothers, hi⟩, hb, hm⟩ := hinside
  rw [hof, Except.ok.injEq] at hothers
  rw [← hothers] at hi
  exact ⟨invocation, hi, builder, hb, hm⟩

/-- **What is looked up is what is written down**: a name that a compile looks up stands in the part
of a schema that is compiled, or in the rules of an alias that does. -/
theorem CompileEnv.LooksUp.mentions {env : CompileEnv} (hr : env.registry.IsOrdinary)
    {a : Activation} {name : String} (h : env.LooksUp a name) :
    env.registry.Mentions a.part name := by
  obtain ⟨b, invocation, hb, ⟨spec, hs, hi⟩, hname⟩ := h
  have hreaches : env.registry.Reaches a.part b.part := by
    clear hs hi
    induction hb with
    | refl => exact .refl
    | tail _ hstarts ih =>
      obtain ⟨-, outer, builder, ⟨spec, hs, hi⟩, hb, hasks⟩ := hstarts
      have hholds := Registry.holds_of_inside hi hb (hr.inside_of_asks hb hasks)
      exact (ih.trans (Registry.reaches_of_mem_specs hs)).tail hholds
  exact ⟨spec, invocation, hreaches.trans (Registry.reaches_of_mem_specs hs), hi, hname⟩

namespace CompileEnv

variable {env : CompileEnv} (hr : env.registry.Plain) {a b : Activation}
include hr

/-- All that is started in a compile that succeeds succeeds, at any depth. -/
theorem exists_has_of_starts {k : Nat} (hk : k ≤ env.levels a.outer)
    (ha : (Compilation.ofLevels env.registry a.scope.autoTrim k).Has a.part)
    (h : Relation.ReflTransGen env.Starts a b) :
    ∃ n ≤ env.levels b.outer,
      (Compilation.ofLevels env.registry b.scope.autoTrim n).Has b.part := by
  induction h with
  | refl => exact ⟨k, hk, ha⟩
  | @tail b c _ hstarts ih =>
    obtain ⟨n, hn, hb⟩ := ih
    cases n with
    | zero => exact absurd hb Compilation.not_has_ofLevels_zero
    | succ n =>
      obtain ⟨houter, hrequested, hc⟩ := env.has_of_starts hr hn hb hstarts
      refine ⟨n, ?_, ?_⟩
      · rw [houter, Activation.scope, levels_entered]
        omega
      · rw [Activation.scope, houter, hrequested]
        exact hc

/-- A name that is looked up in a compile that succeeds is registered. -/
theorem LooksUp.has {schema : Value} {autoTrim : Option Bool} {compiled : CompiledSchema}
    (h : compileSchema env schema autoTrim = .ok compiled) {name : String}
    (hl : env.LooksUp (.top schema autoTrim) name) : env.registry.has name = true := by
  obtain ⟨b, invocation, hb, ⟨spec, hs, hi⟩, rfl⟩ := hl
  have htop : (Compilation.ofLevels env.registry (Activation.top schema autoTrim).scope.autoTrim
      (env.levels none)).Has (Activation.top schema autoTrim).part :=
    ⟨compiled, env.schema_of_compileSchema hr h⟩
  obtain ⟨n, -, hn⟩ := env.exists_has_of_starts hr (Nat.le_refl _) htop hb
  cases n with
  | zero => exact absurd hn Compilation.not_has_ofLevels_zero
  | succ n =>
    obtain ⟨builder, -, hfind, -⟩ := hn.yields hs hi
    exact Registry.has_iff.mpr ⟨builder, hfind⟩

end CompileEnv

/-! ## Registering other names -/

namespace Registry

theorem checkEntry_eq_ok {r : Registry} {name : Value} {builder : Option Builder}
    {entry : String × Builder} (h : r.checkEntry name builder = .ok entry) :
    name = .text entry.1 := by
  unfold checkEntry at h
  cases name with
  | text s =>
    by_cases hs : s.isEmpty = true
    · simp only [hs, if_true] at h
      exact nomatch h
    · simp only [hs] at h
      cases builder with
      | none => exact nomatch h
      | some b =>
        rw [← Except.ok.inj h]
  | _ => exact nomatch h

/-- What is registered under other names is not found under this one. -/
theorem find?_register {r : Registry} {entries : List Entry} {name : String}
    (h : ∀ entry ∈ entries, entry.1 ≠ .text name) :
    (r.register entries).registry.find? name = r.find? name := by
  induction entries generalizing r with
  | nil => rfl
  | cons entry rest ih =>
    obtain ⟨key, builder⟩ := entry
    unfold register
    split
    case h_1 => rfl
    case h_2 other made hentry =>
      have hne : name ≠ other := by
        rintro rfl
        exact h _ List.mem_cons_self (checkEntry_eq_ok hentry)
      show ((r.put other made).register rest).registry.find? name = _
      rw [ih fun entry he => h entry (List.mem_cons_of_mem _ he), find?_put, if_neg hne]

end Registry

/-- **A schema compiles to the same wherever the names it looks up have the same builders.** In
particular it does after any others have been registered. -/
theorem compileSchema_of_lookups {env : CompileEnv} (hr : env.registry.IsOrdinary) {schema : Value}
    {autoTrim : Option Bool} {compiled : CompiledSchema}
    (h : compileSchema env schema autoTrim = .ok compiled) :
    (∀ other : Registry,
      (∀ name, env.LooksUp (.top schema autoTrim) name →
        other.find? name = env.registry.find? name) →
      compileSchema { env with registry := other } schema autoTrim = .ok compiled) ∧
    ∀ entries : List Registry.Entry,
      (∀ entry ∈ entries, ∀ name, entry.1 = .text name → env.registry.has name = false) →
      compileSchema { env with registry := (env.registry.register entries).registry } schema
        autoTrim = .ok compiled := by
  have hsame : ∀ other : Registry,
      (∀ name, env.LooksUp (.top schema autoTrim) name →
        other.find? name = env.registry.find? name) →
      compileSchema { env with registry := other } schema autoTrim = .ok compiled := by
    intro other hother
    -- There are as many levels as before, and they were enough.
    exact CompileEnv.compileSchema_of_nests hr.plain h { env with registry := other } hother
      fun count hn => hn.le_of_compileSchema hr.plain (Int.le_refl _) h
  refine ⟨hsame, fun entries hnew => hsame _ fun name hl => Registry.find?_register ?_⟩
  intro entry he hname
  have hhas := hl.has hr.plain h
  rw [hnew entry he name hname] at hhas
  exact nomatch hhas

/-! ## A registry of which a schema uses little -/

theorem Builder.not_inside {builder : Builder} {args : List Value} {part : SchemaPart}
    (hschemas : builder.schemas args = []) (hspecs : builder.specs args = []) :
    ¬ builder.Inside args part := by
  intro h
  cases part with
  | schema schema =>
    have h : schema ∈ builder.schemas args := h
    rw [hschemas] at h
    exact nomatch h
  | spec spec =>
    have h : spec ∈ builder.specs args := h
    rw [hspecs] at h
    exact nomatch h

theorem AliasDefinition.eq_of_inside {definition : AliasDefinition} {args : List Value}
    {part : SchemaPart} (h : (Builder.aliased definition).Inside args part) :
    part = .spec definition.rules := by
  cases part with
  | schema schema => exact nomatch h
  | spec spec => rw [List.mem_singleton.mp h]

/-- A custom rule for the codes of products. -/
def productCode : CustomRule where
  label := "product_code"
  signature := some {}
  recipe := fun _ => .ready (.custom fun _ _ => .ok .pass)

/-- The rules of a product. -/
def product : AliasDefinition where
  name := "product"
  rules := .list [.text "required", .text "product_code"]
  error := some "NO_PRODUCT"

/-- The catalogue with the custom rule and the alias. -/
def productRules : Registry :=
  (Registry.ofBuiltins.put "product_code" (.custom productCode)).put "product" (.aliased product)

/-- The same with one of the built-in rules replaced. -/
def otherProductRules : Registry := productRules.put "email" (.custom productCode)

theorem productRules_isOrdinary : productRules.IsOrdinary := by
  intro name builder hb
  unfold productRules at hb
  rw [Registry.find?_put] at hb
  split at hb
  · rw [← Option.some.inj hb]
    exact Or.inr (Or.inl ⟨product, rfl⟩)
  · rw [Registry.find?_put] at hb
    split at hb
    · rw [← Option.some.inj hb]
      exact Or.inr (Or.inr ⟨productCode, rfl, fun _ => trivial⟩)
    · rcases (Registry.extends_ofBuiltins fun _ => False).find?_cases hb with ⟨rule, -, hrule⟩ | hno
      · exact Or.inl ⟨rule, hrule⟩
      · exact hno.elim

/-- An offer of a product. -/
def offer : Value := .map [(.text "what", .text "product"), (.text "price", .text "decimal")]

/-- The parts of the offer. -/
theorem reaches_offer {part : SchemaPart} (h : productRules.Reaches (.schema offer) part) :
    part = .schema offer ∨ part = .spec (.text "product") ∨ part = .spec (.text "decimal") ∨
      part = .spec product.rules := by
  induction h with
  | refl => exact Or.inl rfl
  | tail _ hholds ih =>
    rcases ih with rfl | rfl | rfl | rfl
    · cases hholds with
      | field hm =>
        rcases List.mem_cons.mp hm with hm | hm
        · cases hm
          exact Or.inr (Or.inl rfl)
        · cases List.mem_singleton.mp hm
          exact Or.inr (Or.inr (Or.inl rfl))
    · obtain ⟨invocation, hi, builder, hb, hinside⟩ := Registry.inside_of_holds rfl hholds
      rw [List.mem_singleton.mp hi] at hb hinside
      cases hb
      cases product.eq_of_inside hinside
      exact Or.inr (Or.inr (Or.inr rfl))
    · obtain ⟨invocation, hi, builder, hb, hinside⟩ := Registry.inside_of_holds rfl hholds
      rw [List.mem_singleton.mp hi] at hb hinside
      cases hb
      exact absurd hinside (Builder.not_inside rfl rfl)
    · obtain ⟨invocation, hi, builder, hb, hinside⟩ := Registry.inside_of_holds rfl hholds
      rcases List.mem_cons.mp hi with rfl | hi
      · cases hb
        exact absurd hinside (Builder.not_inside rfl rfl)
      · rw [List.mem_singleton.mp hi] at hb hinside
        cases hb
        exact absurd hinside (Builder.not_inside rfl rfl)

theorem not_mentions_offer : ¬ productRules.Mentions (.schema offer) "email" := by
  rintro ⟨spec, invocation, hreaches, ⟨invocations, hof, hi⟩, hname⟩
  have hspec : spec = .text "product" ∨ spec = .text "decimal" ∨ spec = product.rules := by
    simpa using reaches_offer hreaches
  rcases hspec with rfl | rfl | rfl
  · cases hof
    rw [List.mem_singleton.mp hi] at hname
    exact absurd hname (by decide)
  · cases hof
    rw [List.mem_singleton.mp hi] at hname
    exact absurd hname (by decide)
  · cases hof
    rcases List.mem_cons.mp hi with rfl | hi
    · exact absurd hname (by decide)
    · rw [List.mem_singleton.mp hi] at hname
      exact absurd hname (by decide)

/-- An offer of a product compiles to the same if a rule that it does not use is replaced, or if new
ones are registered, some of which are refused. -/
theorem compileSchema_of_lookups_offer :
    let entries : List Registry.Entry := [(.text "sku", some (.custom productCode)),
      (.text "remark", some (.builtin .string)), (.text "", none)]
    productRules.IsOrdinary ∧
      (∀ name, CompileEnv.LooksUp ⟨productRules, 20⟩ (.top offer none) name →
        otherProductRules.find? name = productRules.find? name) ∧
      (∀ entry ∈ entries, ∀ name, entry.1 = .text name → productRules.has name = false) ∧
      ∃ compiled, compileSchema ⟨productRules, 20⟩ offer = .ok compiled ∧
        compileSchema ⟨otherProductRules, 20⟩ offer = .ok compiled ∧
        compileSchema ⟨(productRules.register entries).registry, 20⟩ offer = .ok compiled := by
  intro entries
  have hsame : ∀ name, CompileEnv.LooksUp ⟨productRules, 20⟩ (.top offer none) name →
      otherProductRules.find? name = productRules.find? name := by
    intro name h
    have hne : name ≠ "email" := by
      rintro rfl
      exact not_mentions_offer (h.mentions productRules_isOrdinary)
    rw [otherProductRules, Registry.find?_put, if_neg hne]
  have hnew : ∀ entry ∈ entries, ∀ name, entry.1 = .text name → productRules.has name = false := by
    intro entry he name hname
    simp only [entries, List.mem_cons, List.not_mem_nil, or_false] at he
    rcases he with rfl | rfl | rfl
    all_goals
      rw [← Value.text.inj hname]
      decide +kernel
  obtain ⟨compiled, h⟩ : ∃ compiled, compileSchema ⟨productRules, 20⟩ offer = .ok compiled :=
    ⟨_, rfl⟩
  obtain ⟨hother, hregistered⟩ := compileSchema_of_lookups productRules_isOrdinary h
  exact ⟨productRules_isOrdinary, hsame, hnew, compiled, h, hother _ hsame, hregistered _ hnew⟩

end FieldRules
