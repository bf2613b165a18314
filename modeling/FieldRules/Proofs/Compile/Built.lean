import FieldRules.Proofs.Compile.Arguments
import FieldRules.Proofs.Compile.Inside
import FieldRules.Proofs.Compile.Levels

/-!
# What each rule builds

`Builder.Builds` says which form of check each rule has, and which part of the check is compiled
from which part of the rule. A rule that is not structural has a check without parts, and of the
structural rules each has a form of its own; alternatives keep their order, and a variant has the
schema that stands under the last of the keys that read like its name.

Everything that the catalogue and the aliases yield is built in this way (`Builtin.builds`,
`AliasDefinition.builds`). Properties that all parts of a schema have alike need less than that, and
`Builder.Makes` has what they need.
-/

set_option autoImplicit false

namespace FieldRules

/-- The schema of a variant. Of several keys that read like its name the last one counts. -/
def Entries.variant? : Entries → String → Option Value
  | [], _ => none
  | (key, schema) :: rest, name =>
    (variant? rest name).or (if key.plainText? = some name then some schema else none)

/-- A rule with schemas or specs among its arguments. -/
def Builtin.isStructural : Builtin → Bool
  | nestedObject | variableObject | listOf | listOfObjects | listOfDifferentObjects | or => true
  | _ => false

/-- The check that a builder makes of its arguments: the form that belongs to the rule, with each
chain and each schema in it compiled from the part of the rule that it is for. -/
inductive Builder.Builds (c : Compilation) : Builder → List Value → Check → Prop
  | leaf {rule : Builtin} {args : List Value} {leaf : Leaf} :
    rule.isStructural = false → Builds c (builtin rule) args (.leaf leaf)
  | object {schema : Value} {compiled : CompiledSchema} :
    c.schema schema compiled → Builds c (builtin .nestedObject) [schema] (.object compiled)
  | variant {selector : String} {entries : Entries} {variants : List (String × CompiledSchema)} :
    (∀ v ∈ variants, ∃ schema, entries.variant? v.1 = some schema ∧ c.schema schema v.2) →
    Builds c (builtin .variableObject) [.text selector, .map entries] (.variant selector variants)
  | each {args : List Value} {spec : Value} {chain : Chain} :
    Builtin.elementSpec? args = some spec → c.field spec chain →
    Builds c (builtin .listOf) args (.each chain)
  | eachObject {schema : Value} {compiled : CompiledSchema} :
    c.schema schema compiled → Builds c (builtin .listOfObjects) [schema] (.eachObject compiled)
  | eachVariant {selector : String} {entries : Entries}
    {variants : List (String × CompiledSchema)} :
    (∀ v ∈ variants, ∃ schema, entries.variant? v.1 = some schema ∧ c.schema schema v.2) →
    Builds c (builtin .listOfDifferentObjects) [.text selector, .map entries]
      (.eachVariant selector variants)
  | firstOf {args : List Value} {chains : List Chain} :
    args ≠ [] → List.Forall₂ c.field args chains → Builds c (builtin .or) args (.firstOf chains)
  | aliased {definition : AliasDefinition} {chain : Chain} :
    c.field definition.rules chain →
    Builds c (aliased definition) [] (.aliased definition.error chain)

variable {c : Compilation} {check : Check}

/-! ## What recipes yield -/

namespace Recipe

theorem Yields.of_ready {made : Check} (h : (Recipe.ready made).Yields c check) : check = made := by
  cases h
  rfl

theorem Yields.of_ofExcept {x : Except Fault Recipe} (h : (ofExcept x).Yields c check) :
    ∃ recipe, x = .ok recipe ∧ recipe.Yields c check := by
  cases x with
  | error f => exact nomatch h
  | ok recipe => exact ⟨recipe, rfl, h⟩

theorem Yields.of_onSchema {schema : Value} {next : CompiledSchema → Recipe}
    (h : (onSchema schema next).Yields c check) :
    ∃ compiled, c.schema schema compiled ∧ (next compiled).Yields c check := by
  cases h with
  | withSchema hs hn => exact ⟨_, hs, hn⟩

theorem Yields.of_onField {spec : Value} {next : Chain → Recipe}
    (h : (onField spec next).Yields c check) :
    ∃ chain, c.field spec chain ∧ (next chain).Yields c check := by
  cases h with
  | withField hs hn => exact ⟨_, hs, hn⟩

theorem Yields.of_onFields {specs : List Value} {next : List Chain → Recipe}
    (h : (onFields specs next).Yields c check) :
    ∃ chains, List.Forall₂ c.field specs chains ∧ (next chains).Yields c check := by
  induction specs generalizing next with
  | nil => exact ⟨[], .nil, h⟩
  | cons spec rest ih =>
    obtain ⟨chain, hchain, h⟩ := Yields.of_onField h
    obtain ⟨chains, hchains, h⟩ := ih h
    exact ⟨chain :: chains, .cons hchain hchains, h⟩

end Recipe

/-! ## Rules without parts -/

namespace Builtin

open Recipe

variable {rule : Builtin} {args : List Value}

theorem leaf_of_leafOf {x : Except Fault Leaf} (h : (leafOf x).Yields c check) :
    ∃ leaf, check = .leaf leaf := by
  obtain ⟨recipe, hr, h⟩ := Yields.of_ofExcept h
  obtain ⟨leaf, -, rfl⟩ := Except.map_eq_ok.mp hr
  exact ⟨leaf, Yields.of_ready h⟩

/-- **A rule that is not structural makes a check without parts.** -/
theorem leaf_of_yields (hrule : rule.isStructural = false)
    (h : (rule.recipe args).Yields c check) : ∃ leaf, check = .leaf leaf := by
  unfold recipe at h
  split at h
  all_goals try split at h
  all_goals first
    | exact ⟨_, Yields.of_ready h⟩
    | exact leaf_of_leafOf h
    | exact absurd hrule (by decide)
    | exact nomatch h

end Builtin

/-! ## Variants -/

section
variable {α : Type} {name : String} {value : α} {named : List (String × α)}

/-- Where a name stands only once, nothing else is left under it. -/
theorem ne_of_mem_putNamed (hn : (named.map (·.1)).Nodup) {e : String × α}
    (h : e ∈ putNamed name value named) : e = (name, value) ∨ e ∈ named ∧ e.1 ≠ name := by
  induction named with
  | nil => exact Or.inl (List.mem_singleton.mp h)
  | cons first rest ih =>
    obtain ⟨other, old⟩ := first
    obtain ⟨hother, hrest⟩ := List.nodup_cons.mp hn
    unfold putNamed at h
    split at h
    case isTrue heq =>
      rcases List.mem_cons.mp h with rfl | h
      · exact Or.inl rfl
      · have hname : e.1 ∈ rest.map (·.1) := List.mem_map_of_mem h
        refine Or.inr ⟨List.mem_cons_of_mem _ h, fun he => hother ?_⟩
        rw [heq, ← he]
        exact hname
    case isFalse hne =>
      rcases List.mem_cons.mp h with rfl | h
      · exact Or.inr ⟨List.mem_cons_self, hne⟩
      · exact (ih hrest h).imp_right fun h => ⟨List.mem_cons_of_mem _ h.1, h.2⟩

theorem nodup_putNamed (hn : (named.map (·.1)).Nodup) :
    ((putNamed name value named).map (·.1)).Nodup := by
  induction named with
  | nil => simp [putNamed]
  | cons first rest ih =>
    obtain ⟨other, old⟩ := first
    obtain ⟨hother, hrest⟩ := List.nodup_cons.mp hn
    unfold putNamed
    split
    case isTrue heq =>
      rw [← heq]
      exact hn
    case isFalse hne =>
      refine List.nodup_cons.mpr ⟨fun h => ?_, ih hrest⟩
      obtain ⟨e, he, hname⟩ := List.mem_map.mp h
      rcases mem_putNamed he with rfl | he
      · exact hne hname.symm
      · rw [← hname] at hother
        exact hother (List.mem_map_of_mem he)

end

namespace Builtin

open Recipe

/-- The variants that are left have the schemas of the last keys that read like their names, or were
there before. -/
theorem variant?_of_onVariants {entries : Entries} {done : List (String × CompiledSchema)}
    {next : List (String × CompiledSchema) → Recipe} (hdone : (done.map (·.1)).Nodup)
    (h : (onVariants entries done next).Yields c check) :
    ∃ named, (next named).Yields c check ∧ ∀ v ∈ named,
      (∃ schema, entries.variant? v.1 = some schema ∧ c.schema schema v.2) ∨
        entries.variant? v.1 = none ∧ v ∈ done := by
  induction entries generalizing done with
  | nil => exact ⟨done, h, fun v hv => Or.inr ⟨rfl, hv⟩⟩
  | cons e rest ih =>
    obtain ⟨key, schema⟩ := e
    obtain ⟨recipe, hr, h⟩ := Yields.of_ofExcept h
    obtain ⟨name, hname, rfl⟩ := Except.map_eq_ok.mp hr
    obtain ⟨compiled, hcompiled, h⟩ := Yields.of_onSchema h
    have hkey : key.plainText? = some name := by
      unfold Value.plainText at hname
      split at hname
      · rename_i s hs
        rw [hs, Except.ok.inj hname]
      · exact nomatch hname
    obtain ⟨named, hnamed, hall⟩ := ih (nodup_putNamed hdone) h
    refine ⟨named, hnamed, fun v hv => ?_⟩
    simp only [Entries.variant?, hkey, Option.some.injEq]
    rcases hall v hv with ⟨inner, hinner, hv⟩ | ⟨hnone, hv⟩
    · exact Or.inl ⟨inner, by rw [hinner]; rfl, hv⟩
    · -- No later key reads like this one, so that it is the last.
      rw [hnone, Option.none_or]
      rcases ne_of_mem_putNamed hdone hv with rfl | ⟨hv, hne⟩
      · exact Or.inl ⟨schema, if_pos rfl, hcompiled⟩
      · exact Or.inr ⟨if_neg (Ne.symm hne), hv⟩

theorem variant?_of_onSelector {selector schemas : Value}
    {next : String → List (String × CompiledSchema) → Recipe}
    (h : (onSelector selector schemas next).Yields c check) :
    ∃ name entries named, selector = .text name ∧ schemas = .map entries ∧
      (next name named).Yields c check ∧
      ∀ v ∈ named, ∃ schema, Entries.variant? entries v.1 = some schema ∧
        c.schema schema v.2 := by
  obtain ⟨recipe, hr, h⟩ := Yields.of_ofExcept h
  obtain ⟨name, hname, rfl⟩ := Except.map_eq_ok.mp hr
  split at h
  · obtain ⟨named, hnamed, hall⟩ := variant?_of_onVariants (by simp) h
    refine ⟨name, _, named, Arguments.fullText_eq_ok hname, rfl, hnamed, fun v hv => ?_⟩
    exact (hall v hv).resolve_right fun h => absurd h.2 (by simp)
  · exact nomatch h

/-! ## The rules -/

variable {rule : Builtin} {args : List Value}

theorem builds_nestedObject {schema : Value}
    (h : (onSchema schema fun compiled => .ready (.object compiled)).Yields c check) :
    (Builder.builtin .nestedObject).Builds c [schema] check := by
  obtain ⟨compiled, hcompiled, h⟩ := Yields.of_onSchema h
  cases h
  exact .object hcompiled

theorem builds_listOfObjects {schema : Value}
    (h : (onSchema schema fun compiled => .ready (.eachObject compiled)).Yields c check) :
    (Builder.builtin .listOfObjects).Builds c [schema] check := by
  obtain ⟨compiled, hcompiled, h⟩ := Yields.of_onSchema h
  cases h
  exact .eachObject hcompiled

theorem builds_variableObject {selector schemas : Value}
    (h : (onSelector selector schemas fun name variants =>
      .ready (.variant name variants)).Yields c check) :
    (Builder.builtin .variableObject).Builds c [selector, schemas] check := by
  obtain ⟨name, entries, named, rfl, rfl, h, hall⟩ := variant?_of_onSelector h
  cases h
  exact .variant hall

theorem builds_listOfDifferentObjects {selector schemas : Value}
    (h : (onSelector selector schemas fun name variants =>
      .ready (.eachVariant name variants)).Yields c check) :
    (Builder.builtin .listOfDifferentObjects).Builds c [selector, schemas] check := by
  obtain ⟨name, entries, named, rfl, rfl, h, hall⟩ := variant?_of_onSelector h
  cases h
  exact .eachVariant hall

theorem builds_listOf {args : List Value} {spec : Value} (hs : elementSpec? args = some spec)
    (h : (onField spec fun chain => .ready (.each chain)).Yields c check) :
    (Builder.builtin .listOf).Builds c args check := by
  obtain ⟨chain, hchain, h⟩ := Yields.of_onField h
  cases h
  exact .each hs hchain

theorem builds_or {args : List Value} (hargs : ¬ args.isEmpty = true)
    (h : (onFields args fun chains => .ready (.firstOf chains)).Yields c check) :
    (Builder.builtin .or).Builds c args check := by
  obtain ⟨chains, hchains, h⟩ := Yields.of_onFields h
  cases h
  exact .firstOf (fun he => hargs (List.isEmpty_iff.mpr he)) hchains

theorem builds_of_leaf {rule : Builtin} {args : List Value} (hrule : rule.isStructural = false)
    (h : (rule.recipe args).Yields c check) : (Builder.builtin rule).Builds c args check := by
  obtain ⟨leaf, rfl⟩ := leaf_of_yields hrule h
  exact .leaf hrule

/-- **What a rule of the catalogue yields is built in the way of the rule.** -/
theorem builds {rule : Builtin} {args : List Value} (h : (rule.recipe args).Yields c check) :
    (Builder.builtin rule).Builds c args check := by
  by_cases hrule : rule.isStructural = false
  · exact builds_of_leaf hrule h
  · unfold recipe at h
    split at h
    all_goals try split at h
    all_goals first
      | exact absurd rfl hrule
      | exact builds_nestedObject h
      | exact builds_listOfObjects h
      | exact builds_variableObject h
      | exact builds_listOfDifferentObjects h
      | exact builds_listOf (by assumption) h
      | exact builds_or (by assumption) h
      | exact nomatch h

end Builtin

/-- What an alias yields has the chain of its rules inside. -/
theorem AliasDefinition.builds {definition : AliasDefinition} {args : List Value}
    (h : ((Builder.aliased definition).recipe args).Yields c check) :
    (Builder.aliased definition).Builds c args check := by
  cases args with
  | nil =>
    obtain ⟨chain, hchain, h⟩ := Recipe.Yields.of_onField h
    cases h
    exact .aliased hchain
  | cons arg rest => exact nomatch h

/-- Only the rules of the catalogue make checks without parts. -/
theorem Builder.Builds.exists_rule_of_leaf {builder : Builder} {args : List Value} {leaf : Leaf}
    (h : builder.Builds c args (.leaf leaf)) : ∃ rule, builder = .builtin rule := by
  cases h
  exact ⟨_, rfl⟩

theorem Builder.Builds.of_aliased {definition : AliasDefinition} {args : List Value}
    (h : (Builder.aliased definition).Builds c args check) :
    ∃ chain, check = .aliased definition.error chain ∧ c.field definition.rules chain := by
  cases h with
  | aliased hc => exact ⟨_, rfl, hc⟩

theorem Builder.Builds.of_or {args : List Value}
    (h : (Builder.builtin .or).Builds c args check) :
    ∃ chains, check = .firstOf chains ∧ args ≠ [] ∧ List.Forall₂ c.field args chains := by
  cases h with
  | leaf hrule => exact nomatch hrule
  | firstOf hne hc => exact ⟨_, rfl, hne, hc⟩

theorem Builder.Builds.mono {d : Compilation} (hcd : c.Within d) {builder : Builder}
    {args : List Value} (h : builder.Builds c args check) : builder.Builds d args check := by
  cases h with
  | leaf hrule => exact .leaf hrule
  | object hc => exact .object (hcd.schema _ _ hc)
  | variant hall =>
    exact .variant fun v hv => (hall v hv).imp fun s hs => ⟨hs.1, hcd.schema _ _ hs.2⟩
  | each hs hc => exact .each hs (hcd.field _ _ hc)
  | eachObject hc => exact .eachObject (hcd.schema _ _ hc)
  | eachVariant hall =>
    exact .eachVariant fun v hv => (hall v hv).imp fun s hs => ⟨hs.1, hcd.schema _ _ hs.2⟩
  | firstOf hne hc => exact .firstOf hne (hc.imp fun _ _ => hcd.field _ _)
  | aliased hc => exact .aliased (hcd.field _ _ hc)

end FieldRules
