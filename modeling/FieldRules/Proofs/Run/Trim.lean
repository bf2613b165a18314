import Mathlib.Data.List.DropRight
import FieldRules.Proofs.Compile.Levels
import FieldRules.Proofs.Run.Chain

/-!
# The pass in front

Auto-trim puts a pass in front of every chain, at every depth, so that a value may go through many
of them before a rule sees it. The first of them makes all the difference: what has been trimmed is
not changed by trimming it again. So the rules behind the pass run on the value as it is *prepared*
(`runChain_withTrim`), and it does not matter whether it was prepared before
(`runChain_withTrim_prepared`).

The pass has one more effect, which is easily forgotten. It writes every text, also a text that has
no blanks around it, and what comes out of the chain then counts as written whatever the rules do.
-/

set_option autoImplicit false

namespace FieldRules

namespace Text

/-- The blanks at the end can be dropped without a blank coming to the front. -/
theorem dropWhile_rdropWhile (cs : List Char) :
    ((cs.dropWhile isBlank).rdropWhile isBlank).dropWhile isBlank =
      (cs.dropWhile isBlank).rdropWhile isBlank := by
  obtain ⟨rest, hrest⟩ := List.rdropWhile_prefix isBlank (cs.dropWhile isBlank)
  rw [List.dropWhile_eq_self_iff]
  intro hl
  have hlong : 0 < (cs.dropWhile isBlank).length := by
    rw [← hrest, List.length_append]
    exact Nat.lt_add_right _ hl
  have hfirst := List.dropWhile_get_zero_not isBlank cs hlong
  rw [List.get_eq_getElem] at hfirst
  rwa [List.getElem_of_eq hrest.symm, List.getElem_append_left hl] at hfirst

theorem trim_trim (s : String) : trim (trim s) = trim s := by
  have hlist : ∀ cs, trimList cs = (cs.dropWhile isBlank).rdropWhile isBlank := fun _ => rfl
  rw [trim, toList_trim, hlist, hlist, dropWhile_rdropWhile, List.rdropWhile_idempotent, ← hlist,
    trim]

end Text

namespace Value

/-- Whether the value is a text. -/
def isText : Value → Bool
  | text _ => true
  | _ => false

/-- The value as the rules of a chain see it. -/
def prepared (autoTrim : Bool) (v : Value) : Value := if autoTrim then v.trimmed else v

@[simp] theorem trimmed_trimmed (v : Value) : v.trimmed.trimmed = v.trimmed := by
  cases v with
  | text s => rw [trimmed, trimmed, Text.trim_trim]
  | _ => rfl

@[simp] theorem isText_trimmed (v : Value) : v.trimmed.isText = v.isText := by cases v <;> rfl

@[simp] theorem prepared_prepared (autoTrim : Bool) (v : Value) :
    (v.prepared autoTrim).prepared autoTrim = v.prepared autoTrim := by
  cases autoTrim <;> simp [prepared]

@[simp] theorem isText_prepared (autoTrim : Bool) (v : Value) :
    (v.prepared autoTrim).isText = v.isText := by
  cases autoTrim <;> simp [prepared]

end Value

variable (autoTrim : Bool) (steps : List Step) (v : Value) (siblings : Entries)

/-- **The rules of a chain run on the prepared value**, and with auto-trim a text counts as written
before the first of them. -/
theorem runChain_withTrim : runChain (withTrim autoTrim steps) v siblings false =
    runChain steps (v.prepared autoTrim) siblings (autoTrim && v.isText) := by
  cases autoTrim with
  | false => rfl
  | true =>
    show runChain (Compiler.trimStep :: steps) v siblings false = _
    cases v with
    | text s =>
      have hwrote : Compiler.trimStep.check.run (.text s) siblings =
          .ok (.wrote (.text (Text.trim s))) := by
        rw [Compiler.trimStep, Check.run]
      exact runChain_of_wrote hwrote
    | _ => exact runChain_of_pass (by simp [Compiler.trimStep, Check.run])

theorem runChain_withTrim_prepared :
    runChain (withTrim autoTrim steps) (v.prepared autoTrim) siblings false =
      runChain (withTrim autoTrim steps) v siblings false := by
  rw [runChain_withTrim, runChain_withTrim, Value.prepared_prepared, Value.isText_prepared]

/-- What was prepared by writing it is written at the end. -/
theorem written_of_withTrim {o : Outcome}
    (h : runChain (withTrim autoTrim steps) v siblings false = .ok o)
    (ht : (autoTrim && v.isText) = true) : o.written = true := by
  rw [runChain_withTrim, ht] at h
  exact written_of_runChain h

end FieldRules
