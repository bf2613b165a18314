import FieldRules.Check.Run
import FieldRules.Proofs.Except

/-!
# What is made of objects and of items

An object that has no error is a mapping that its schema has a report for, and its value is the
output of that report (`checkObject_of_passes`). The outcomes of the items of a list are put
together in one of two ways: if none has an error the values are written, and else the errors are
reported (`Effect.ofItems_of_null`, `Effect.ofItems_of_error`).
-/

set_option autoImplicit false

namespace FieldRules

namespace Effect

variable {outcomes : List ItemOutcome}

/-- The test for null that decides it. -/
theorem all_null_iff : (outcomes.all fun o => match o.2 with | .null => true | _ => false) = true ↔
    ∀ o ∈ outcomes, o.2 = .null := by
  rw [List.all_eq_true]
  refine forall_congr' fun o => imp_congr_right fun _ => ?_
  cases o.2 <;> simp

theorem ofItems_of_null (h : ∀ o ∈ outcomes, o.2 = .null) :
    ofItems outcomes = .wrote (.list (outcomes.map (·.1))) :=
  if_pos (all_null_iff.mpr h)

theorem ofItems_of_error (h : ¬ ∀ o ∈ outcomes, o.2 = .null) :
    ofItems outcomes = { error := .list (outcomes.map (·.2)) } :=
  if_neg fun hall => h (all_null_iff.mp hall)

theorem forall_null_congr {other : List ItemOutcome}
    (h : outcomes.map (·.2) = other.map (·.2)) :
    (∀ o ∈ outcomes, o.2 = .null) ↔ ∀ o ∈ other, o.2 = .null := by
  have hnull : ∀ os : List ItemOutcome,
      (∀ o ∈ os, o.2 = .null) ↔ ∀ error ∈ os.map (·.2), error = .null := by
    intro os
    rw [List.forall_mem_map]
  rw [hnull, h, ← hnull]

/-- No error is made of items only if none of them has one. -/
theorem null_of_ofItems_passes (h : (ofItems outcomes).error.truthy = false) :
    ∀ o ∈ outcomes, o.2 = .null := by
  by_contra hne
  rw [ofItems_of_error hne] at h
  cases outcomes with
  | nil => exact hne (by simp)
  | cons o rest => exact nomatch h

theorem error_ofItem (o : ItemOutcome) : (ofItem o).error = o.2 := by
  obtain ⟨value, error⟩ := o
  cases error <;> rfl

end Effect

/-- What the check of the items of a list comes to, if it comes to anything: a missing value passes,
what has no items has the wrong format, and else the outcomes of the items are put together. -/
theorem checkItems_cases {check : Value → Except Fault ItemOutcome} {v : Value} {effect : Effect}
    (h : checkItems check v = .ok effect) :
    (v.isMissing = true ∧ effect = .pass) ∨ effect = .fail .formatError ∨
      ∃ items outcomes, v.items? = some items ∧
        List.Forall₂ (fun item o => check item = .ok o) items outcomes ∧
        effect = .ofItems outcomes := by
  unfold checkItems at h
  split at h
  case isTrue hm => exact Or.inl ⟨hm, (Except.ok.inj h).symm⟩
  case isFalse =>
    split at h
    · exact Or.inr (Or.inl (Except.ok.inj h).symm)
    · rename_i items hitems
      obtain ⟨outcomes, houtcomes, h⟩ := Except.bind_eq_ok.mp h
      exact Or.inr (Or.inr ⟨items, outcomes, hitems, Except.mapM_eq_ok.mp houtcomes,
        (Except.ok.inj h).symm⟩)

/-- Only a report without errors has no error. -/
theorem Report.errors_of_errorValue {report : Report} (h : report.errorValue.truthy = false) :
    report.errors = [] := by
  unfold errorValue at h
  cases herrors : report.errors with
  | nil => rfl
  | cons e rest =>
    rw [herrors] at h
    exact nomatch h

theorem Report.errorValue_of_errors {report : Report} (h : report.errors = []) :
    report.errorValue = .null := by
  rw [errorValue, h]
  rfl

theorem checkObject_of_passes {execute : Entries → Except Fault Report} {v : Value}
    {o : ItemOutcome} (h : checkObject execute v = .ok o) (hp : o.2.truthy = false) :
    ∃ entries report, v = .map entries ∧ execute entries = .ok report ∧ report.errors = [] ∧
      o = (report.outputValue, .null) := by
  unfold checkObject at h
  split at h
  · rw [← Except.ok.inj h] at hp
    exact nomatch hp
  · rename_i entries hv
    obtain ⟨report, hr, h⟩ := Except.bind_eq_ok.mp h
    rw [← Except.ok.inj h] at hp ⊢
    have herrors := Report.errors_of_errorValue hp
    refine ⟨entries, report, ?_, hr, herrors, by rw [Report.errorValue_of_errors herrors]⟩
    cases v with
    | map _ => rw [Option.some.inj hv]
    | _ => exact nomatch hv

namespace Check

variable {schema : CompiledSchema} {v : Value} {siblings : Entries} {effect : Effect}

/-- An object passes if it is missing, or with the output of its report. -/
theorem run_object_of_passes (h : (object schema).run v siblings = .ok effect)
    (hp : effect.error.truthy = false) :
    (v.isMissing = true ∧ effect = .pass) ∨ ∃ entries report,
      schema.execute entries = .ok report ∧ effect = .wrote report.outputValue := by
  rw [run] at h
  split at h
  case isTrue hm => exact Or.inl ⟨hm, (Except.ok.inj h).symm⟩
  case isFalse =>
    obtain ⟨o, ho, h⟩ := Except.bind_eq_ok.mp h
    cases h
    rw [Effect.error_ofItem] at hp
    obtain ⟨entries, report, -, hr, -, rfl⟩ := checkObject_of_passes ho hp
    exact Or.inr ⟨entries, report, hr, rfl⟩

/-- A list of objects passes if it is missing, or with the outputs of their reports. -/
theorem run_eachObject_of_passes (h : (eachObject schema).run v siblings = .ok effect)
    (hp : effect.error.truthy = false) :
    (v.isMissing = true ∧ effect = .pass) ∨ ∃ outputs, effect = .wrote (.list outputs) ∧
      ∀ output ∈ outputs, ∃ entries report,
        schema.execute entries = .ok report ∧ output = report.outputValue := by
  rw [run] at h
  rcases checkItems_cases h with hmissing | rfl | ⟨items, outcomes, -, houtcomes, rfl⟩
  · exact Or.inl hmissing
  · exact nomatch hp
  · have hnull := Effect.null_of_ofItems_passes hp
    refine Or.inr ⟨outcomes.map (·.1), Effect.ofItems_of_null hnull, fun output ho => ?_⟩
    obtain ⟨o, hm, rfl⟩ := List.mem_map.mp ho
    obtain ⟨item, -, hitem⟩ := houtcomes.exists_of_mem_right hm
    obtain ⟨entries, report, -, hr, -, heq⟩ :=
      checkObject_of_passes hitem (by rw [hnull o hm]; rfl)
    exact ⟨entries, report, hr, by rw [heq]⟩

end Check

end FieldRules
