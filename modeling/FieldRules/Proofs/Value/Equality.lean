import FieldRules.Value.Equality

/-!
# Comparing a primitive value

The rules compare only primitive values with others, and then nothing has to be compared inside: the
other value is either primitive as well, or it is of another kind and so it is different
(`Value.equal?_of_container`).
-/

set_option autoImplicit false

namespace FieldRules.Value

variable {v w : Value}

theorem equal?_of_isPrimitive (hp : v.isPrimitive = true) (w : Value) :
    equal? v w = equalAtoms? v w := by
  cases v <;> simp_all [isPrimitive, equal?]

/-- **A primitive value is different from every list, tuple and mapping**, and the comparison with one
is never refused, not even if the value signals. -/
theorem equal?_of_container (hp : v.isPrimitive = true)
    (hw : w.items?.isSome = true ∨ w.entries?.isSome = true) : equal? v w = some false := by
  rw [equal?_of_isPrimitive hp]
  unfold equalAtoms?
  have hworth : w.worth? = none := by cases w <;> simp_all [items?, entries?, worth?]
  rw [hworth]
  cases v.worth? with
  | some x => rfl
  | none => cases v <;> cases w <;> simp_all [isPrimitive, items?, entries?]

end FieldRules.Value
