import FieldRules.Proofs.Compile.Meaning
import FieldRules.Proofs.Options

/-!
# Spread and wrapped arguments

The rules for the items of a list and the options of a choice can be written down as the arguments
of their rule, or as one argument that is the list of them. Such a list is taken apart twice. Reading
a spec takes one list off the arguments of every rule, and the rule takes off another one if its only
argument is a list. So the two ways of writing agree at once where there are several arguments. Where
there is one, it is a rule or an option by itself in the one spec and the only element of a list in
the other; but a list of one rule is the same spec as the rule alone, and so in the end they always
mean the same (`sameMeaning_wrapped`).

The elements must not be lists themselves. The only element, if it is a list, is taken apart when it
stands alone, and is an element still when it is wrapped.
-/

set_option autoImplicit false

namespace FieldRules

variable {r : Registry} {limit : Int} {autoTrim : Option Bool} {xs : List Value}

namespace Builtin

/-- The spec that arguments mean has them for its items, if none of them is a list. -/
theorem exists_elementSpec? (hne : xs ≠ []) (hxs : ∀ x ∈ xs, x.items? = none) :
    ∃ spec, elementSpec? xs = some spec ∧ specItems spec = xs := by
  match xs, hne, hxs with
  | [x], _, hxs =>
    refine ⟨x, rfl, ?_⟩
    rw [specItems, hxs x List.mem_cons_self]
    rfl
  | x :: y :: rest, _, _ => exact ⟨.list (x :: y :: rest), rfl, rfl⟩

end Builtin

/-- Lists whose rules have the same items mean the same. -/
theorem CompileEnv.keepsMeaning_listOf (hr : r.Extends Builder.IsAlias) {arg other spec spec' : Value}
    (hspec : Builtin.elementSpec? arg.arguments = some spec)
    (hother : Builtin.elementSpec? other.arguments = some spec')
    (hitems : specItems spec = specItems spec') :
    CompileEnv.KeepsMeaning ⟨r, limit⟩ autoTrim (Builtin.listOf.spec arg)
      (Builtin.listOf.spec other) := by
  refine CompileEnv.keepsMeaning_of_yields hr (Builtin.takes_of_variadic rfl _) fun n check h => ?_
  cases Builtin.builds h with
  | leaf hrule => exact nomatch hrule
  | @each args found chain hfound hchain =>
    rw [hspec, Option.some.injEq] at hfound
    rw [← hfound] at hchain
    exact Builtin.yields_listOf hother (Compilation.field_congr hitems hchain)

/-- Choices of the same options mean the same. -/
theorem CompileEnv.keepsMeaning_oneOf (hr : r.Extends Builder.IsAlias) {arg other : Value}
    (hargs : Builtin.optionArgs arg.arguments = Builtin.optionArgs other.arguments) :
    CompileEnv.KeepsMeaning ⟨r, limit⟩ autoTrim (Builtin.oneOf.spec arg)
      (Builtin.oneOf.spec other) := by
  refine CompileEnv.keepsMeaning_of_yields hr (Builtin.takes_of_variadic rfl _) fun n check h => ?_
  have hrecipe : Builtin.oneOf.recipe arg.arguments = Builtin.oneOf.recipe other.arguments := by
    show Builtin.leafOf ((Arguments.options (Builtin.optionArgs arg.arguments)).map Leaf.oneOf) =
      Builtin.leafOf ((Arguments.options (Builtin.optionArgs other.arguments)).map Leaf.oneOf)
    rw [hargs]
  rwa [← hrecipe]

/-- **Arguments mean the same, spread out or wrapped in a list**: the rules for the items of a list,
if there are any and none of them is a list, and the options of a choice, if they are primitive. -/
theorem sameMeaning_wrapped (hr : r.Extends Builder.IsAlias) (limit : Int) (autoTrim : Option Bool)
    (xs : List Value) :
    (xs ≠ [] → (∀ x ∈ xs, x.items? = none) →
      CompileEnv.SameMeaning ⟨r, limit⟩ autoTrim (Builtin.listOf.spec (.list xs))
        (Builtin.listOf.spec (.list [.list xs]))) ∧
    ((∀ x ∈ xs, x.isPrimitive = true) →
      CompileEnv.SameMeaning ⟨r, limit⟩ autoTrim (Builtin.oneOf.spec (.list xs))
        (Builtin.oneOf.spec (.list [.list xs]))) := by
  constructor
  · intro hne hxs
    obtain ⟨spec, hspec, hitems⟩ := Builtin.exists_elementSpec? hne hxs
    have hwrapped : Builtin.elementSpec? (Value.arguments (.list [.list xs])) =
        some (.list xs) := rfl
    exact ⟨CompileEnv.keepsMeaning_listOf hr hspec hwrapped hitems,
      CompileEnv.keepsMeaning_listOf hr hwrapped hspec hitems.symm⟩
  · intro hxs
    have hoptions : Builtin.optionArgs (Value.arguments (.list xs)) =
        Builtin.optionArgs (Value.arguments (.list [.list xs])) :=
      Builtin.optionArgs_of_isPrimitive hxs
    exact ⟨CompileEnv.keepsMeaning_oneOf hr hoptions, CompileEnv.keepsMeaning_oneOf hr hoptions.symm⟩

/-- The only rule for some labels, so that it is also the spec of each of them. -/
def labelRules : List Value := [.map [(.text "max_length", .int 3)]]

theorem sameMeaning_wrapped_labels :
    Registry.ofBuiltins.Extends Builder.IsAlias ∧ labelRules ≠ [] ∧
      (∀ x ∈ labelRules, x.items? = none) ∧ (∀ x ∈ consents, x.isPrimitive = true) ∧
      CompileEnv.SameMeaning ⟨.ofBuiltins, 20⟩ none (Builtin.listOf.spec (.list labelRules))
        (Builtin.listOf.spec (.list [.list labelRules])) ∧
      CompileEnv.SameMeaning ⟨.ofBuiltins, 20⟩ none (Builtin.oneOf.spec (.list consents))
        (Builtin.oneOf.spec (.list [.list consents])) ∧
      ∃ c, compileField ⟨.ofBuiltins, 20⟩ (Builtin.listOf.spec (.list [.list labelRules])) none =
          .ok c ∧
        runChain c (.list [.text "new", .text "fresh"]) [] false = .ok
          { value := .list [.text "new", .text "fresh"]
            error := some (.list [.null, .text "TOO_LONG"]) } := by
  have hr := Registry.extends_ofBuiltins Builder.IsAlias
  have hne : labelRules ≠ [] := List.cons_ne_nil _ _
  have hrules : ∀ x ∈ labelRules, x.items? = none := by
    intro x hx
    rw [List.mem_singleton.mp hx]
    rfl
  have hoptions : ∀ x ∈ consents, x.isPrimitive = true := by decide +kernel
  exact ⟨hr, hne, hrules, hoptions, (sameMeaning_wrapped hr 20 none labelRules).1 hne hrules,
    (sameMeaning_wrapped hr 20 none consents).2 hoptions, _, rfl, rfl⟩

end FieldRules
