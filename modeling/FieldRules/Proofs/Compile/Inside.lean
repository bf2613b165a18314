import Mathlib.Logic.Relation
import FieldRules.Registry

/-!
# What is inside a schema

A schema has a spec for each field, a spec means rules, and among the arguments of a rule there may
be schemas and specs again; an alias stands for a spec that is not written down there at all. This
module says what of that can be reached from where, without compiling anything, so that a property
of compiled schemas can be stated about what the author of a schema wrote.

There are two ways in. A spec *embeds* another one when a rule in it has that one checked in the
same place, against the same mapping: an alternative, the rules for the items of a list, the rules
of an alias. The schema of an object is another place, with siblings of its own, and only `Holds`
enters it.
-/

set_option autoImplicit false

namespace FieldRules

/-- The specs that a rule has compiled: those among its arguments, or the one an alias stands for.
-/
def Builder.specs : Builder → List Value → List Value
  | builtin .listOf, args => (Builtin.elementSpec? args).toList
  | builtin .or, args => args
  | aliased definition, _ => [definition.rules]
  | _, _ => []

/-- The schemas that a rule has compiled. -/
def Builder.schemas : Builder → List Value → List Value
  | builtin .nestedObject, [schema] => [schema]
  | builtin .listOfObjects, [schema] => [schema]
  | builtin .variableObject, [_, .map variants] => variants.map (·.2)
  | builtin .listOfDifferentObjects, [_, .map variants] => variants.map (·.2)
  | _, _ => []

/-- The invocation is one of those that a spec means. -/
def Invocation.IsIn (invocation : Invocation) (spec : Value) : Prop :=
  ∃ invocations, Invocation.ofSpec spec = .ok invocations ∧ invocation ∈ invocations

/-- A schema, or a spec. -/
inductive SchemaPart where
  | schema (schema : Value)
  | spec (spec : Value)

namespace Registry

variable {r : Registry}

/-- A rule of a spec has another one checked in the same place. -/
def Embeds (r : Registry) (spec inner : Value) : Prop :=
  ∃ (invocation : Invocation) (builder : Builder), invocation.IsIn spec ∧
    r.find? invocation.name = some builder ∧ inner ∈ builder.specs invocation.args

/-- The invocation is in a spec or in one that is embedded there. -/
def Applies (r : Registry) (spec : Value) (invocation : Invocation) : Prop :=
  ∃ inner, Relation.ReflTransGen r.Embeds spec inner ∧ invocation.IsIn inner

/-- A spec has its value compared with another field's. -/
def Compares (r : Registry) (spec : Value) (field : String) : Prop :=
  r.Applies spec { name := Builtin.equalToField.name, args := [.text field] }

/-- A schema or spec is a direct part of another. -/
inductive Holds (r : Registry) : SchemaPart → SchemaPart → Prop
  | field {entries : Entries} {key spec : Value} :
    (key, spec) ∈ entries → Holds r (.schema (.map entries)) (.spec spec)
  | spec {spec inner : Value} : r.Embeds spec inner → Holds r (.spec spec) (.spec inner)
  | schema {spec schema : Value} {invocation : Invocation} {builder : Builder} :
    invocation.IsIn spec → r.find? invocation.name = some builder →
    schema ∈ builder.schemas invocation.args → Holds r (.spec spec) (.schema schema)

/-- A schema or spec is a part of another, at any depth, or that one itself. -/
def Reaches (r : Registry) : SchemaPart → SchemaPart → Prop := Relation.ReflTransGen r.Holds

theorem Applies.of_isIn {spec : Value} {invocation : Invocation} (h : invocation.IsIn spec) :
    r.Applies spec invocation := ⟨spec, .refl, h⟩

theorem Applies.of_embeds {spec inner : Value} {invocation : Invocation} (h : r.Embeds spec inner)
    (ha : r.Applies inner invocation) : r.Applies spec invocation := by
  obtain ⟨last, hlast, hin⟩ := ha
  exact ⟨last, hlast.head h, hin⟩

/-- What applies in a spec is one of its own rules, or applies in a spec that one of them has. -/
theorem Applies.cases {spec : Value} {invocation : Invocation} (h : r.Applies spec invocation)
    {invocations : List Invocation} (hspec : Invocation.ofSpec spec = .ok invocations) :
    invocation ∈ invocations ∨ ∃ outer ∈ invocations, ∃ builder,
      r.find? outer.name = some builder ∧
        ∃ inner ∈ builder.specs outer.args, r.Applies inner invocation := by
  obtain ⟨last, hlast, hin⟩ := h
  rcases hlast.cases_head with rfl | ⟨inner, ⟨outer, builder, ⟨all, hall, hm⟩, hb, hinner⟩, hrest⟩
  · obtain ⟨all, hall, hm⟩ := hin
    rw [hspec, Except.ok.injEq] at hall
    exact Or.inl (by rw [hall]; exact hm)
  · rw [hspec, Except.ok.injEq] at hall
    exact Or.inr ⟨outer, by rw [hall]; exact hm, builder, hb, inner, hinner, last, hrest, hin⟩

theorem Reaches.field {part : SchemaPart} {entries : Entries} {key spec : Value}
    (h : r.Reaches part (.schema (.map entries))) (hm : (key, spec) ∈ entries) :
    r.Reaches part (.spec spec) := h.tail (.field hm)

theorem Reaches.embedded {part : SchemaPart} {spec inner : Value} (h : r.Reaches part (.spec spec))
    (he : r.Embeds spec inner) : r.Reaches part (.spec inner) := h.tail (.spec he)

end Registry

end FieldRules
