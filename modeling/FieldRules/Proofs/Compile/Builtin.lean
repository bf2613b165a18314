import FieldRules.Proofs.Compile.Built

/-!
# What the rules make of what is inside

The built-in rules and the aliases use their embedded schemas and specs in the plainest way: they
have them compiled as they are, in order, and fail as soon as one fails (`Builtin.recipe_plain`,
`AliasDefinition.recipe_plain`).

What they make of the answers is said once, for all of them, by `Builder.Makes`: the form of the
check, and that every chain and every schema in it is compiled from something inside the rule. It
follows from `Builder.Builds`, and leaves out which rule the check is of. The proofs about running
compiled schemas are by cases on this relation, not on the thirty-five rules.
-/

set_option autoImplicit false

namespace FieldRules

/-! ## Plain recipes -/

namespace Recipe

theorem plain_leaf (leaf : Leaf) : (Recipe.leaf leaf).Plain := .ready _

theorem plain_refuse (refusal : Refusal) : (refuse refusal).Plain := .fail _

theorem plain_ofExcept {x : Except Fault Recipe} (h : ∀ recipe, x = .ok recipe → recipe.Plain) :
    (ofExcept x).Plain := by
  cases x with
  | error f => exact .fail _
  | ok recipe => exact h recipe rfl

theorem plain_onSchema (schema : Value) {next : CompiledSchema → Recipe}
    (h : ∀ compiled, (next compiled).Plain) : (onSchema schema next).Plain :=
  .withSchema (fun _ => rfl) h

theorem plain_onField (spec : Value) {next : Chain → Recipe} (h : ∀ chain, (next chain).Plain) :
    (onField spec next).Plain :=
  .withField (fun _ => rfl) h

theorem plain_onFields (specs : List Value) {next : List Chain → Recipe}
    (h : ∀ chains, (next chains).Plain) : (onFields specs next).Plain := by
  induction specs generalizing next with
  | nil => exact h []
  | cons spec rest ih => exact plain_onField spec fun chain => ih fun chains => h _

end Recipe

namespace Builtin

open Recipe

theorem plain_leafOf (leaf : Except Fault Leaf) : (leafOf leaf).Plain := by
  refine plain_ofExcept fun recipe h => ?_
  obtain ⟨l, -, rfl⟩ := Except.map_eq_ok.mp h
  exact plain_leaf l

theorem plain_onVariants (variants : Entries) (done : List (String × CompiledSchema))
    {next : List (String × CompiledSchema) → Recipe} (h : ∀ named, (next named).Plain) :
    (onVariants variants done next).Plain := by
  induction variants generalizing done with
  | nil => exact h done
  | cons e rest ih =>
    obtain ⟨key, schema⟩ := e
    refine plain_ofExcept fun recipe hr => ?_
    obtain ⟨name, -, rfl⟩ := Except.map_eq_ok.mp hr
    exact plain_onSchema schema fun compiled => ih _

theorem plain_onSelector (selector schemas : Value)
    {next : String → List (String × CompiledSchema) → Recipe}
    (h : ∀ name named, (next name named).Plain) : (onSelector selector schemas next).Plain := by
  refine plain_ofExcept fun recipe hr => ?_
  obtain ⟨name, -, rfl⟩ := Except.map_eq_ok.mp hr
  split
  · exact plain_onVariants _ [] fun named => h name named
  · exact plain_refuse _

theorem recipe_plain (rule : Builtin) (args : List Value) : (rule.recipe args).Plain := by
  unfold recipe
  split
  -- Some rules look at their arguments before they choose between a refusal and a check.
  all_goals try split
  all_goals first
    | exact plain_leaf _
    | exact plain_leafOf _
    | exact Recipe.Plain.fail _
    | exact plain_onSchema _ fun _ => .ready _
    | exact plain_onSelector _ _ fun _ _ => .ready _
    | exact plain_onField _ fun _ => .ready _
    | exact plain_onFields _ fun _ => .ready _

end Builtin

theorem AliasDefinition.recipe_plain (definition : AliasDefinition) (args : List Value) :
    ((Builder.aliased definition).recipe args).Plain := by
  cases args with
  | nil => exact Recipe.plain_onField _ fun _ => .ready _
  | cons arg rest => exact .fail _

/-! ## What a check is made of -/

/-- A check that a builder makes of its arguments: what kind of check it is, and that its chains and
schemas are compiled from the specs and schemas inside. -/
inductive Builder.Makes (c : Compilation) (builder : Builder) (args : List Value) : Check → Prop
  | leaf {leaf : Leaf} :
    (∀ field, leaf = .equalTo field → builder = builtin .equalToField ∧ args = [.text field]) →
    Makes c builder args (.leaf leaf)
  | object {schema : Value} {compiled : CompiledSchema} :
    schema ∈ builder.schemas args → c.schema schema compiled → Makes c builder args (.object compiled)
  | variant {selector : String} {variants : List (String × CompiledSchema)} :
    (∀ v ∈ variants, ∃ schema ∈ builder.schemas args, c.schema schema v.2) →
    Makes c builder args (.variant selector variants)
  | each {spec : Value} {chain : Chain} :
    spec ∈ builder.specs args → c.field spec chain → Makes c builder args (.each chain)
  | eachObject {schema : Value} {compiled : CompiledSchema} :
    schema ∈ builder.schemas args → c.schema schema compiled →
    Makes c builder args (.eachObject compiled)
  | eachVariant {selector : String} {variants : List (String × CompiledSchema)} :
    (∀ v ∈ variants, ∃ schema ∈ builder.schemas args, c.schema schema v.2) →
    Makes c builder args (.eachVariant selector variants)
  | firstOf {chains : List Chain} :
    (∀ chain ∈ chains, ∃ spec ∈ builder.specs args, c.field spec chain) →
    Makes c builder args (.firstOf chains)
  | aliased {definition : AliasDefinition} {chain : Chain} :
    builder = aliased definition → c.field definition.rules chain →
    Makes c builder args (.aliased definition.error chain)

section
variable {c : Compilation} {check : Check}

/-! ### Comparisons -/

namespace Builtin

open Recipe

variable {rule : Builtin} {args : List Value} {leaf : Leaf}

/-- A check compares with another field only if its rule is the one for that, with that field as its
argument. -/
def ComparesAs (rule : Builtin) (args : List Value) (leaf : Leaf) : Prop :=
  ∀ field, leaf = .equalTo field → rule = equalToField ∧ args = [.text field]

theorem comparesAs_leaf {made : Leaf} (hl : ∀ field, made ≠ .equalTo field)
    (h : (Recipe.leaf made).Yields c (.leaf leaf)) : rule.ComparesAs args leaf := by
  cases h
  exact fun field hf => absurd hf (hl field)

theorem comparesAs_leafOf {α : Type} {x : Except Fault α} {made : α → Leaf}
    (hl : ∀ a field, made a ≠ .equalTo field)
    (h : (leafOf (x.map made)).Yields c (.leaf leaf)) : rule.ComparesAs args leaf := by
  obtain ⟨recipe, hr, h⟩ := Yields.of_ofExcept h
  obtain ⟨other, hother, rfl⟩ := Except.map_eq_ok.mp hr
  obtain ⟨a, -, rfl⟩ := Except.map_eq_ok.mp hother
  exact comparesAs_leaf (hl a) h

theorem comparesAs_equalToField {field : Value} {refusal : String → Refusal}
    (h : (leafOf ((Arguments.fullText field refusal).map .equalTo)).Yields c (.leaf leaf)) :
    equalToField.ComparesAs [field] leaf := by
  obtain ⟨recipe, hr, h⟩ := Yields.of_ofExcept h
  obtain ⟨other, hother, rfl⟩ := Except.map_eq_ok.mp hr
  obtain ⟨name, hname, rfl⟩ := Except.map_eq_ok.mp hother
  cases h
  refine fun other ho => ⟨rfl, ?_⟩
  cases ho
  rw [Arguments.fullText_eq_ok hname]

theorem comparesAs_of_yields (hrule : rule.isStructural = false)
    (h : (rule.recipe args).Yields c (.leaf leaf)) : rule.ComparesAs args leaf := by
  unfold recipe at h
  split at h
  all_goals try split at h
  all_goals first
    | exact comparesAs_equalToField h
    | exact comparesAs_leaf (by simp) h
    | exact comparesAs_leafOf (by simp) h
    | exact absurd hrule (by decide)
    | exact nomatch h

end Builtin

/-! ### The rules -/

theorem Entries.mem_of_variant? {entries : Entries} {name : String} {schema : Value}
    (h : entries.variant? name = some schema) : schema ∈ entries.map (·.2) := by
  induction entries with
  | nil => exact nomatch h
  | cons e rest ih =>
    obtain ⟨key, value⟩ := e
    rw [variant?, Option.or_eq_some_iff] at h
    rcases h with h | ⟨-, h⟩
    · exact List.mem_cons_of_mem _ (ih h)
    · split at h
      · rw [← Option.some.inj h]
        exact List.mem_cons_self
      · cases h

/-- **What is built is made of what is inside of the arguments.** -/
theorem Builder.Builds.makes {builder : Builder} {args : List Value}
    (h : builder.Builds c args check)
    (hcompares : ∀ rule leaf, builder = builtin rule → check = .leaf leaf →
      rule.ComparesAs args leaf) : builder.Makes c args check := by
  have hvariants : ∀ {entries : Entries} {variants : List (String × CompiledSchema)},
      (∀ v ∈ variants, ∃ schema, entries.variant? v.1 = some schema ∧ c.schema schema v.2) →
      ∀ v ∈ variants, ∃ schema ∈ entries.map (·.2), c.schema schema v.2 :=
    fun hall v hv => (hall v hv).imp fun _ h => ⟨Entries.mem_of_variant? h.1, h.2⟩
  cases h with
  | leaf =>
    refine .leaf fun field hf => ?_
    obtain ⟨rfl, hargs⟩ := hcompares _ _ rfl rfl field hf
    exact ⟨rfl, hargs⟩
  | object hc => exact .object (List.mem_singleton.mpr rfl) hc
  | eachObject hc => exact .eachObject (List.mem_singleton.mpr rfl) hc
  | variant hall => exact .variant (hvariants hall)
  | eachVariant hall => exact .eachVariant (hvariants hall)
  | each hs hc => exact .each (Option.mem_toList.mpr hs) hc
  | firstOf _ hc => exact .firstOf fun chain hchain => hc.exists_of_mem_right hchain
  | aliased hc => exact .aliased rfl hc

theorem Builtin.makes {rule : Builtin} {args : List Value}
    (h : (rule.recipe args).Yields c check) : (Builder.builtin rule).Makes c args check := by
  have hbuilds := Builtin.builds h
  refine hbuilds.makes fun other leaf ho hleaf => ?_
  cases ho
  rw [hleaf] at h hbuilds
  cases hbuilds with
  | leaf hrule => exact comparesAs_of_yields hrule h

theorem AliasDefinition.makes {definition : AliasDefinition} {args : List Value}
    (h : ((Builder.aliased definition).recipe args).Yields c check) :
    (Builder.aliased definition).Makes c args check :=
  (AliasDefinition.builds h).makes fun _ _ hb _ => nomatch hb

end

end FieldRules
