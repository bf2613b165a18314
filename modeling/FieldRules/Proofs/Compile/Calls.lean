import FieldRules.Proofs.Catalogue

/-!
# Specs of built-in rules

A spec that names rules of the catalogue compiles to one step for each of them, and the check of a
step is what the recipe of its rule yields for the arguments (`Registry.Extends.yields_of_field`).
Most laws about single rules are about a spec with one rule in it, written with its argument or with
a list of them (`Builtin.spec`), and for these the statement is repeated without lists
(`Registry.Extends.yields_of_call`).
-/

set_option autoImplicit false

namespace FieldRules

/-- The spec of a rule with an argument, or with a list of arguments. -/
def Builtin.spec (rule : Builtin) (arg : Value) : Value := .map [(.text rule.name, arg)]

/-- The arguments that a value stands for in a spec: its items, or the value alone. -/
def Value.arguments (v : Value) : List Value := v.items?.getD [v]

theorem Value.arguments_of_isPrimitive {v : Value} (h : v.isPrimitive = true) :
    v.arguments = [v] := by
  cases v <;> first | rfl | exact nomatch h

theorem Value.arguments_of_number? {v : Value} {n : Number} (h : v.number? = some n) :
    v.arguments = [v] := by
  cases v <;> first | rfl | exact nomatch h

theorem Builtin.name_isEmpty (rule : Builtin) : rule.name.isEmpty = false := by
  cases rule <;> decide +kernel

namespace Invocation

/-- What an invocation of a built-in rule looks like. -/
def ofCall (call : Builtin × List Value) : Invocation := ⟨call.1.name, call.2⟩

theorem ofListItem_spec (rule : Builtin) (arg : Value) :
    ofListItem (rule.spec arg) = .ok (ofCall (rule, arg.arguments)) := by
  show ofItem (rule.spec arg) = _
  simp [Builtin.spec, ofItem, Builtin.name_isEmpty, ofCall, Value.arguments]

theorem ofSpec_spec (rule : Builtin) (arg : Value) :
    ofSpec (rule.spec arg) = .ok [ofCall (rule, arg.arguments)] := by
  show (ofItem (rule.spec arg)).map _ = _
  simp [Builtin.spec, ofItem, Builtin.name_isEmpty, ofCall, Value.arguments, Except.map]

theorem ofSpec_name (rule : Builtin) : ofSpec (.text rule.name) = .ok [ofCall (rule, [])] := by
  show (ofItem (.text rule.name)).map _ = _
  simp [ofItem, Builtin.name_isEmpty, ofCall, Except.map]

theorem ofSpec_pair (first second : Builtin) (a b : Value) :
    ofSpec (.list [first.spec a, second.spec b]) =
      .ok [ofCall (first, a.arguments), ofCall (second, b.arguments)] := by
  show ofItems [first.spec a, second.spec b] = _
  simp only [ofItems, ofListItem_spec, Except.ok_bind]
  rfl

end Invocation

section
variable {r : Registry} (hr : r.Extends Builder.IsAlias) {autoTrim : Bool} {n : Nat} {spec : Value}
  {chain : Chain}
include hr

/-- **A spec of built-in rules compiles to the checks that their recipes yield**, with one level
less, in the order of the rules. -/
theorem Registry.Extends.yields_of_field (calls : List (Builtin × List Value))
    (hspec : Invocation.ofSpec spec = .ok (calls.map .ofCall))
    (h : (Compilation.ofLevels r autoTrim n).field spec chain) :
    ∃ m steps, n = m + 1 ∧ chain = withTrim autoTrim steps ∧
      List.Forall₂ (fun call step => (call.1.recipe call.2).Yields
        (Compilation.ofLevels r autoTrim m) step.check) calls steps := by
  cases n with
  | zero => exact h.elim
  | succ m =>
    obtain ⟨invocations, steps, hof, hsteps, rfl⟩ := h
    rw [hspec, Except.ok.injEq] at hof
    rw [← hof, List.forall₂_map_left_iff] at hsteps
    exact ⟨m, steps, rfl, rfl, hsteps.imp fun _ _ hs => hr.yields_of_name rfl hs⟩

theorem Registry.Extends.yields_of_call {rule : Builtin} {args : List Value}
    (hspec : Invocation.ofSpec spec = .ok [.ofCall (rule, args)])
    (h : (Compilation.ofLevels r autoTrim n).field spec chain) :
    ∃ m step, n = m + 1 ∧ chain = withTrim autoTrim [step] ∧
      (rule.recipe args).Yields (Compilation.ofLevels r autoTrim m) step.check := by
  obtain ⟨m, steps, hn, hchain, hsteps⟩ := hr.yields_of_field [(rule, args)] hspec h
  obtain ⟨step, rest, hstep, hrest, rfl⟩ := List.forall₂_cons_left_iff.mp hsteps
  cases hrest
  exact ⟨m, step, hn, hchain, hstep⟩

end

/-- What the recipe of a rule without parts yields, if the rule reads its arguments first. -/
theorem Builtin.eq_leaf_of_leafOf {c : Compilation} {check : Check} {α : Type} {x : Except Fault α}
    {made : α → Leaf} (h : (leafOf (x.map made)).Yields c check) :
    ∃ a, x = .ok a ∧ check = .leaf (made a) := by
  obtain ⟨recipe, hrecipe, h⟩ := Recipe.Yields.of_ofExcept h
  obtain ⟨leaf, hleaf, rfl⟩ := Except.map_eq_ok.mp hrecipe
  obtain ⟨a, ha, rfl⟩ := Except.map_eq_ok.mp hleaf
  exact ⟨a, ha, Recipe.Yields.of_ready h⟩

end FieldRules
