import FieldRules.Proofs.Compile.Builtin

/-!
# Registries that extend the catalogue

Nothing stops a registry from having another rule under the name of a built-in one, and then the
engine makes no promise about errors or about what a field depends on. The promises are about
registries that keep the catalogue and add to it under other names (`Registry.Extends`): every
registry starts as one, and stays one as long as only new names are registered
(`extends_ofBuiltins`, `Extends.put`).

What is added is left open. Mostly it is aliases, of which we use that they were read from a
definition, so that their error code is not the empty text.
-/

set_option autoImplicit false

namespace FieldRules

namespace AliasDefinition

/-- Neither the name of an alias nor its error code is the empty text. -/
structure Valid (definition : AliasDefinition) : Prop where
  name : definition.name ≠ ""
  error : definition.error ≠ some ""

theorem readText_ne_empty {v : Value} {s : String} (h : readText v = .ok s) : s ≠ "" := by
  have hfull : ∀ t : String, (if t.isEmpty then
      .error ["String should have at least 1 character"] else .ok t : Part String) = .ok s →
      s ≠ "" := by
    intro t h
    by_cases ht : t.isEmpty = true
    · rw [if_pos ht] at h
      exact nomatch h
    · rw [if_neg ht, Except.ok.injEq] at h
      rw [← h]
      exact fun hempty => ht (String.isEmpty_iff.mpr hempty)
  cases v with
  | text t => exact hfull t h
  | bytes bs =>
    unfold readText at h
    cases hbs : String.fromUTF8? ⟨bs.toArray⟩ with
    | none =>
      simp only [hbs] at h
      exact nomatch h
    | some t =>
      simp only [hbs] at h
      exact hfull t h
  | _ => exact nomatch h

theorem readError_ne_empty {entries : Entries} {error : Option String}
    (h : readError entries = .ok error) : error ≠ some "" := by
  unfold readError at h
  split at h
  · cases h
    simp
  · cases h
    simp
  · obtain ⟨s, hs, rfl⟩ := Except.map_eq_ok.mp h
    simpa using readText_ne_empty hs

/-- **A definition that was read is valid.** -/
theorem valid_of_ofValue {v : Value} {definition : AliasDefinition}
    (h : ofValue v = .ok definition) : definition.Valid := by
  cases v with
  | map entries =>
    unfold ofValue at h
    simp only at h
    split at h
    case h_1 name rules error hname hrules herror _ =>
      cases h
      refine ⟨?_, readError_ne_empty herror⟩
      unfold readRequired at hname
      split at hname
      · exact readText_ne_empty hname
      · exact nomatch hname
    case h_2 => exact nomatch h
  | _ => exact nomatch h

end AliasDefinition

/-- An alias, as reading a definition makes one. -/
def Builder.IsAlias (builder : Builder) : Prop :=
  ∃ definition, builder = aliased definition ∧ definition.Valid

namespace Registry

/-- The registry has the built-in rules under their names, and under others only builders of a
certain kind. -/
structure Extends (r : Registry) (Extra : Builder → Prop) : Prop where
  builtin (rule : Builtin) : r.find? rule.name = some (.builtin rule)
  extra (name : String) (builder : Builder) :
    r.find? name = some builder → Builtin.ofName? name = none → Extra builder

variable {r : Registry} {Extra : Builder → Prop}

/-- **What is found in such a registry is a built-in rule under its own name, or an addition.** -/
theorem Extends.find?_cases (h : r.Extends Extra) {name : String} {builder : Builder}
    (hb : r.find? name = some builder) :
    (∃ rule, name = rule.name ∧ builder = .builtin rule) ∨ Extra builder := by
  cases hn : Builtin.ofName? name with
  | none => exact Or.inr (h.extra name builder hb hn)
  | some rule =>
    have hname : rule.name = name := by simpa using List.find?_some hn
    rw [← hname, h.builtin rule, Option.some.injEq] at hb
    exact Or.inl ⟨rule, hname.symm, hb.symm⟩

theorem extends_ofBuiltins (Extra : Builder → Prop) : ofBuiltins.Extends Extra := by
  have hfind : ∀ (rules : List Builtin) (rule : Builtin), rule ∈ rules →
      (rules.map fun rule => (rule.name, Builder.builtin rule)).lookup rule.name =
        some (.builtin rule) := by
    intro rules rule hm
    induction rules with
    | nil => exact absurd hm (by simp)
    | cons first rest ih =>
      by_cases hf : rule = first
      · rw [hf]
        simp
      · have hne : (rule.name == first.name) = false := by
          rw [beq_eq_false_iff_ne]
          exact fun h => hf (Builtin.name_injective h)
        rw [List.map_cons, List.lookup_cons, hne]
        exact ih ((List.mem_cons.mp hm).resolve_left hf)
  constructor
  · intro rule
    exact hfind Builtin.all rule (Builtin.mem_all rule)
  · intro name builder hb hn
    obtain ⟨before, after, hsplit, -⟩ := List.lookup_eq_some_iff.mp hb
    have hmem : (name, builder) ∈ Builtin.all.map fun rule => (rule.name, Builder.builtin rule) := by
      show (name, builder) ∈ ofBuiltins.builders
      rw [hsplit]
      simp
    obtain ⟨rule, -, heq⟩ := List.mem_map.mp hmem
    rw [Prod.mk.injEq] at heq
    rw [← heq.1, Builtin.ofName?_name] at hn
    exact nomatch hn

theorem Extends.put (h : r.Extends Extra) {name : String} {builder : Builder}
    (hn : Builtin.ofName? name = none) (hb : Extra builder) : (r.put name builder).Extends Extra := by
  constructor
  · intro rule
    have hne : rule.name ≠ name := by
      rintro rfl
      rw [Builtin.ofName?_name] at hn
      exact nomatch hn
    rw [find?_put, if_neg hne, h.builtin rule]
  · intro other builder' hb' hother
    rw [find?_put] at hb'
    split at hb'
    · rw [← Option.some.inj hb']
      exact hb
    · exact h.extra other builder' hb' hother

theorem Extends.plain (h : r.Extends Extra)
    (hextra : ∀ builder, Extra builder → ∀ args, (builder.recipe args).Plain) : r.Plain := by
  intro name builder hb args
  rcases h.find?_cases hb with ⟨rule, -, rfl⟩ | hb
  · exact rule.recipe_plain args
  · exact hextra builder hb args

/-- An alias in the registry is valid, if those that may be added are. -/
theorem Extends.valid_of_find? (h : r.Extends Extra)
    (hextra : ∀ definition, Extra (.aliased definition) → definition.Valid) {name : String}
    {definition : AliasDefinition} (hd : r.find? name = some (.aliased definition)) :
    definition.Valid := by
  rcases h.find?_cases hd with ⟨rule, -, hrule⟩ | hadded
  · cases hrule
  · exact hextra definition hadded

end Registry

theorem Builder.IsAlias.valid {definition : AliasDefinition} (h : (aliased definition).IsAlias) :
    definition.Valid := by
  obtain ⟨other, hother, hvalid⟩ := h
  cases hother
  exact hvalid

theorem Builder.IsAlias.plain {builder : Builder} (h : builder.IsAlias) (args : List Value) :
    (builder.recipe args).Plain := by
  obtain ⟨definition, rfl, -⟩ := h
  exact definition.recipe_plain args

theorem Registry.Extends.plain_of_isAlias {r : Registry} (h : r.Extends Builder.IsAlias) :
    r.Plain :=
  h.plain fun _ hb args => hb.plain args

/-- Only under its own name a built-in rule is found. -/
theorem Registry.Extends.name_of_find? {r : Registry} (hr : r.Extends Builder.IsAlias)
    {name : String} {rule : Builtin} (h : r.find? name = some (.builtin rule)) :
    name = rule.name := by
  rcases hr.find?_cases h with ⟨other, hname, hrule⟩ | ⟨definition, hd, -⟩
  · cases hrule
    exact hname
  · exact nomatch hd

/-- What an invocation of a built-in rule compiles to is yielded by the recipe of that rule. -/
theorem Registry.Extends.yields_of_name {r : Registry} (hr : r.Extends Builder.IsAlias)
    {c : Compilation} {invocation : Invocation} {rule : Builtin}
    (hname : invocation.name = rule.name) {step : Step} (hs : c.MakesStep r invocation step) :
    (rule.recipe invocation.args).Yields c step.check := by
  obtain ⟨-, builder, hb, -, hyields⟩ := hs
  rw [hname, hr.builtin rule, Option.some.injEq] at hb
  rw [← hb] at hyields
  exact hyields

/-- The steps of a compiled spec: the one that auto-trim adds, and those that the rules of the spec
yield. -/
theorem Compilation.MakesChain.yields_of_mem {c : Compilation} {r : Registry} {autoTrim : Bool}
    {spec : Value} {chain : Chain} (hc : c.MakesChain r autoTrim spec chain) {step : Step}
    (hs : step ∈ chain) :
    step.check = .autoTrim ∨ ∃ (invocation : Invocation) (builder : Builder),
      invocation.IsIn spec ∧ r.find? invocation.name = some builder ∧
        (builder.recipe invocation.args).Yields c step.check := by
  obtain ⟨invocations, steps, hspec, hsteps, rfl⟩ := hc
  rcases mem_withTrim hs with rfl | hs
  · exact Or.inl rfl
  · obtain ⟨invocation, hi, -, builder, hb, -, hyields⟩ := hsteps.exists_of_mem_right hs
    exact Or.inr ⟨invocation, builder, ⟨invocations, hspec, hi⟩, hb, hyields⟩

/-- What is found in the registry builds its checks in the way of its rule. -/
theorem Registry.Extends.builds_of_yields {r : Registry} (hr : r.Extends Builder.IsAlias)
    {c : Compilation} {name : String} {builder : Builder} (hb : r.find? name = some builder)
    {args : List Value} {check : Check} (h : (builder.recipe args).Yields c check) :
    builder.Builds c args check := by
  rcases hr.find?_cases hb with ⟨rule, -, rfl⟩ | ⟨definition, rfl, -⟩
  · exact Builtin.builds h
  · exact AliasDefinition.builds h

/-- **The checks of a compiled spec**: the one that auto-trim adds, and those that the rules of the
spec make of what is compiled one level below. -/
theorem Registry.Extends.check_of_mem {r : Registry} (hr : r.Extends Builder.IsAlias)
    {c : Compilation} {autoTrim : Bool} {spec : Value} {chain : Chain}
    (hc : c.MakesChain r autoTrim spec chain) {step : Step} (hs : step ∈ chain) :
    step.check = .autoTrim ∨ ∃ (invocation : Invocation) (builder : Builder),
      invocation.IsIn spec ∧ r.find? invocation.name = some builder ∧
        builder.Makes c invocation.args step.check := by
  rcases hc.yields_of_mem hs with htrim | ⟨invocation, builder, hin, hb, hyields⟩
  · exact Or.inl htrim
  · refine Or.inr ⟨invocation, builder, hin, hb, ?_⟩
    rcases hr.find?_cases hb with ⟨rule, -, rfl⟩ | ⟨definition, rfl, -⟩
    · exact Builtin.makes hyields
    · exact AliasDefinition.makes hyields

end FieldRules
