import FieldRules.Proofs.Run.Chain
import FieldRules.Rule.Catalogue

/-!
# Rules for formats

The rules for formats differ in the format only. Each makes a check that lets a text pass if it has
the format and refuses it with the code of the format otherwise, and that never writes
(`Check.decides_format`).
-/

set_option autoImplicit false

namespace FieldRules

variable {v : Value} {siblings : Entries} {effect : Effect}

/-- The rule for a format. -/
def FormatTest.rule : FormatTest → Builtin
  | email => .email
  | url => .url
  | isoDate => .isoDate

/-- The rule for a format makes its check at once. -/
theorem FormatTest.recipe_rule (test : FormatTest) :
    test.rule.recipe [] = .ready (.leaf (.format test)) := by
  cases test <;> rfl

namespace Leaf

/-- A check of a format writes nothing. -/
theorem write_of_format {test : FormatTest} (h : (format test).run v siblings = .ok effect) :
    effect.write = none := by
  rw [run] at h
  unfold onText at h
  split at h
  · rw [← Except.ok.inj h]
    rfl
  · split at h
    · rw [← Except.ok.inj h]
      rfl
    · obtain ⟨s, -, h⟩ := Except.bind_eq_ok.mp h
      rw [← Except.ok.inj h]
      split <;> rfl

theorem run_format_text (test : FormatTest) {s : String} (hs : s ≠ "") (siblings : Entries) :
    (format test).run (.text s) siblings =
      .ok (if test.accepts s then .pass else .fail test.code) := by
  have hempty : (Value.text s).isMissing = false := by simpa [Value.isMissing] using hs
  rw [run, onText_of_isPrimitive hempty rfl]
  rfl

end Leaf

/-- **What the check of a format makes of values**, if the format is that of the texts that satisfy
a condition: a text passes if it satisfies the condition, another one that is not empty fails with
the code of the format, and nothing is ever written. -/
structure Check.Decides (check : Check) (p : String → Prop) (code : Code) : Prop where
  passes : ∀ s ≠ "", ∀ siblings, check.run (.text s) siblings = .ok .pass ↔ p s
  fails : ∀ s ≠ "", ∀ siblings, ¬ p s → check.run (.text s) siblings = .ok (.fail code)
  writes_nothing : ∀ v siblings effect, check.run v siblings = .ok effect → effect.write = none

theorem Check.decides_format {test : FormatTest} {p : String → Prop}
    (h : ∀ s, test.accepts s = true ↔ p s) :
    (Check.leaf (.format test)).Decides p test.code := by
  constructor
  · intro s hs siblings
    rw [Check.run, Leaf.run_format_text test hs, ← h s]
    by_cases haccepts : test.accepts s = true
    · simp [haccepts]
    · simp [haccepts, Effect.pass, Effect.fail]
  · intro s hs siblings hp
    rw [← h s] at hp
    rw [Check.run, Leaf.run_format_text test hs, if_neg hp]
  · intro v siblings effect hrun
    rw [Check.run] at hrun
    exact Leaf.write_of_format hrun

end FieldRules
