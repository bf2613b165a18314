import FieldRules.Check.Run
import FieldRules.Proofs.Except

/-!
# Chains compose

A chain is run by one function that carries the value along and remembers whether it was ever
replaced. Two facts make it possible to reason about chains by their parts. Running one chain after
another is running the second from where the first one stopped, unless that one failed
(`runChain_append`); and what was written before a run shows only in the flag that comes out
(`runChain_written`).

`failingStep` tells *where* a run fails, which the run itself does not: two chains that fail with
the same error may do so at different rules, and an alias cares about the difference.
-/

set_option autoImplicit false

namespace FieldRules

variable {c d : List Step} {v : Value} {siblings : Entries} {written : Bool} {o : Outcome}

/-! ## One check -/

/-- A check without parts looks at siblings only to compare a primitive value with one of them. It
does the same among any siblings with which the comparison comes out the same. -/
theorem Leaf.run_among {leaf : Leaf} {a b : Entries}
    (h : ∀ field, leaf = .equalTo field → ∀ u : Value, u.isPrimitive = true →
      u.equal ((a.get? field).getD .null) = u.equal ((b.get? field).getD .null)) (v : Value) :
    leaf.run v a = leaf.run v b := by
  cases leaf with
  | equalTo field =>
    unfold run
    simp only
    split
    · rfl
    · split
      · rfl
      · rename_i hp
        rw [Bool.not_eq_true', Bool.not_eq_false] at hp
        rw [h field rfl v hp]
  | _ => rfl

/-- What auto-trim puts in front of a chain does what the rule `trim` does. -/
theorem Check.run_autoTrim (v : Value) (siblings : Entries) :
    Check.autoTrim.run v siblings = (Leaf.modify .trim).run v siblings := by
  cases v <;> simp [Check.run, Leaf.run, Modifier.apply]

/-! What becomes of a value for a check of texts or of numbers. -/

namespace Leaf

variable {check : String → Except Fault Effect}

theorem onText_of_isMissing (h : v.isMissing = true) : onText v check = .ok .pass := if_pos h

theorem onText_of_not_isPrimitive (hm : v.isMissing = false) (hp : v.isPrimitive = false) :
    onText v check = .ok (.fail .formatError) := by
  simp [onText, hm, hp]

theorem onText_of_isPrimitive (hm : v.isMissing = false) (hp : v.isPrimitive = true) :
    onText v check = v.plainText >>= check := by
  simp [onText, hm, hp]

theorem run_number_of_isPrimitive {nonNumber : Code} {whole : Bool} {test : NumberTest}
    (hm : v.isMissing = false) (hp : v.isPrimitive = true) :
    (number nonNumber whole test).run v siblings = .ok (checkNumber nonNumber whole test v) := by
  simp [run, hm, hp]

end Leaf

/-! ## One step -/

theorem runChain_nil (v : Value) (siblings : Entries) (written : Bool) :
    runChain [] v siblings written = .ok { value := v, written } := by
  rw [runChain]

/-- A step either ends the run with its error, or hands on the value that it wrote, if it did. -/
theorem runChain_cons (step : Step) (c : List Step) (v : Value) (siblings : Entries)
    (written : Bool) :
    runChain (step :: c) v siblings written = step.check.run v siblings >>= fun effect =>
      if effect.error.truthy then .ok { value := v, error := some effect.error, written }
      else runChain c (effect.write.getD v) siblings (written || effect.write.isSome) := by
  obtain ⟨rule, check⟩ := step
  rw [runChain]
  congr 1
  funext effect
  cases effect.write with
  | some w => rw [Option.isSome_some, Bool.or_true]; rfl
  | none => rw [Option.isSome_none, Bool.or_false]; rfl

/-- How a run that begins with a step ends. -/
theorem runChain_cons_eq_ok {step : Step} (h : runChain (step :: c) v siblings written = .ok o) :
    ∃ effect, step.check.run v siblings = .ok effect ∧
      ((effect.error.truthy = true ∧ o = { value := v, error := some effect.error, written }) ∨
        (effect.error.truthy = false ∧ runChain c (effect.write.getD v) siblings
          (written || effect.write.isSome) = .ok o)) := by
  rw [runChain_cons] at h
  obtain ⟨effect, heffect, h⟩ := Except.bind_eq_ok.mp h
  refine ⟨effect, heffect, ?_⟩
  by_cases ht : effect.error.truthy = true
  · rw [if_pos ht, Except.ok.injEq] at h
    exact Or.inl ⟨ht, h.symm⟩
  · rw [if_neg ht] at h
    exact Or.inr ⟨Bool.eq_false_iff.mpr ht, h⟩

/-- A code is never the empty text, so that a check that fails with one does not pass. -/
@[simp] theorem Effect.truthy_fail (code : Code) : (Effect.fail code).error.truthy = true := by
  simp [fail, Value.truthy, code.text_ne_empty]

/-! What becomes of a run, by the effect of its first step. -/

theorem runChain_of_pass {step : Step} (h : step.check.run v siblings = .ok .pass) :
    runChain (step :: c) v siblings written = runChain c v siblings written := by
  rw [runChain_cons, h, Except.ok_bind]
  simp [Effect.pass, Value.truthy]

theorem runChain_of_wrote {step : Step} {w : Value}
    (h : step.check.run v siblings = .ok (.wrote w)) :
    runChain (step :: c) v siblings written = runChain c w siblings true := by
  rw [runChain_cons, h, Except.ok_bind]
  simp [Effect.wrote, Value.truthy]

theorem runChain_of_fail {step : Step} {code : Code}
    (h : step.check.run v siblings = .ok (.fail code)) :
    runChain (step :: c) v siblings written =
      .ok { value := v, error := some (.text code.text), written } := by
  rw [runChain_cons, h, Except.ok_bind, if_pos (Effect.truthy_fail code), Effect.fail]

theorem runChain_of_fault {step : Step} {fault : Fault}
    (h : step.check.run v siblings = .error fault) :
    runChain (step :: c) v siblings written = .error fault := by
  rw [runChain_cons, h, Except.error_bind]

/-- A run fails with an error that counts as one. -/
theorem truthy_of_runChain (h : runChain c v siblings written = .ok o) {e : Value}
    (he : o.error = some e) : e.truthy = true := by
  induction c generalizing v written with
  | nil =>
    rw [runChain_nil, Except.ok.injEq] at h
    rw [← h] at he
    cases he
  | cons step c ih =>
    obtain ⟨effect, -, ⟨ht, rfl⟩ | ⟨-, h⟩⟩ := runChain_cons_eq_ok h
    · cases he
      exact ht
    · exact ih h

/-! ## One chain after another -/

/-- **A chain that passed hands its value and its flag to the next one; a chain that failed is the
end.** -/
theorem runChain_append (c d : List Step) (v : Value) (siblings : Entries) (written : Bool) :
    runChain (c ++ d) v siblings written = runChain c v siblings written >>= fun o =>
      match o.error with
      | some _ => .ok o
      | none => runChain d o.value siblings o.written := by
  induction c generalizing v written with
  | nil => rw [List.nil_append, runChain_nil, Except.ok_bind]
  | cons step c ih =>
    rw [List.cons_append, runChain_cons, runChain_cons]
    cases step.check.run v siblings with
    | error fault => rfl
    | ok effect =>
      rw [Except.ok_bind, Except.ok_bind]
      by_cases ht : effect.error.truthy = true
      · rw [if_pos ht, if_pos ht, Except.ok_bind]
      · rw [if_neg ht, if_neg ht]
        exact ih _ _

/-- The outcome of a run that began with a value already replaced. -/
def Outcome.since (o : Outcome) (written : Bool) : Outcome :=
  { o with written := written || o.written }

@[simp] theorem Outcome.since_value (o : Outcome) (b : Bool) : (o.since b).value = o.value := rfl

@[simp] theorem Outcome.since_error (o : Outcome) (b : Bool) : (o.since b).error = o.error := rfl

@[simp] theorem Outcome.since_written (o : Outcome) (b : Bool) :
    (o.since b).written = (b || o.written) := rfl

/-- What was written before a run neither helps nor hinders it. -/
theorem runChain_written (c : List Step) (v : Value) (siblings : Entries) (written : Bool) :
    runChain c v siblings written = (runChain c v siblings false).map (·.since written) := by
  induction c generalizing v written with
  | nil =>
    rw [runChain_nil, runChain_nil]
    simp [Except.map, Outcome.since]
  | cons step c ih =>
    rw [runChain_cons, runChain_cons]
    cases step.check.run v siblings with
    | error fault => rfl
    | ok effect =>
      rw [Except.ok_bind, Except.ok_bind]
      by_cases ht : effect.error.truthy = true
      · rw [if_pos ht, if_pos ht]
        simp [Except.map, Outcome.since]
      · -- Both sides are the run of the rest, with the flag at the outside.
        rw [if_neg ht, if_neg ht, ih _ (written || _), ih _ (false || _)]
        cases runChain c (effect.write.getD v) siblings false with
        | error fault => rfl
        | ok o => simp [Except.map, Outcome.since, Bool.or_assoc]

/-- What has been written stays written. -/
theorem written_of_runChain (h : runChain c v siblings true = .ok o) : o.written = true := by
  rw [runChain_written] at h
  obtain ⟨o', -, rfl⟩ := Except.map_eq_ok.mp h
  rfl

/-- A run that wrote nothing ends with the value that it began with. -/
theorem value_of_runChain (h : runChain c v siblings written = .ok o) (hw : o.written = false) :
    o.value = v := by
  induction c generalizing v written with
  | nil =>
    rw [runChain_nil, Except.ok.injEq] at h
    rw [← h]
  | cons step c ih =>
    obtain ⟨effect, -, ⟨-, rfl⟩ | ⟨-, h⟩⟩ := runChain_cons_eq_ok h
    · rfl
    · have hvalue := ih h
      cases hwrite : effect.write with
      | none =>
        rw [hwrite] at hvalue
        exact hvalue
      | some w =>
        rw [hwrite, Option.isSome_some, Bool.or_true] at h
        rw [written_of_runChain h] at hw
        exact nomatch hw

/-! ## The step that fails -/

/-- The place of the step at which a run fails, if it does. -/
def failingStep : List Step → Value → Entries → Except Fault (Option Nat)
  | [], _, _ => .ok none
  | step :: rest, v, siblings => do
    let effect ← step.check.run v siblings
    if effect.error.truthy then return some 0
    else return (← failingStep rest (effect.write.getD v) siblings).map (· + 1)

theorem failingStep_cons (step : Step) (c : List Step) (v : Value) (siblings : Entries) :
    failingStep (step :: c) v siblings = step.check.run v siblings >>= fun effect =>
      if effect.error.truthy then .ok (some 0)
      else (failingStep c (effect.write.getD v) siblings).map (Option.map (· + 1)) := by
  rw [failingStep]
  rfl

/-- A run that ends has a failing step just when it has an error, and it is one of the chain. -/
theorem failingStep_of_runChain (h : runChain c v siblings written = .ok o) :
    ∃ place, failingStep c v siblings = .ok place ∧ (place = none ↔ o.error = none) ∧
      ∀ i, place = some i → i < c.length := by
  induction c generalizing v written with
  | nil =>
    rw [runChain_nil, Except.ok.injEq] at h
    refine ⟨none, rfl, ?_, fun i hi => nomatch hi⟩
    simp [← h]
  | cons step c ih =>
    obtain ⟨effect, heffect, hend⟩ := runChain_cons_eq_ok h
    rw [failingStep_cons, heffect, Except.ok_bind]
    rcases hend with ⟨ht, rfl⟩ | ⟨ht, h⟩
    · refine ⟨some 0, if_pos ht, by simp, fun i hi => ?_⟩
      cases hi
      exact Nat.succ_pos _
    · obtain ⟨place, hplace, hnone, hlt⟩ := ih h
      refine ⟨place.map (· + 1), by rw [if_neg (by rw [ht]; simp), hplace]; rfl, ?_, fun i hi => ?_⟩
      · rw [Option.map_eq_none_iff, hnone]
      · obtain ⟨j, hj, rfl⟩ := Option.map_eq_some_iff.mp hi
        exact Nat.succ_lt_succ (hlt j hj)

/-- A run that fails does so at one of its steps. -/
theorem exists_failingStep {error : Value} (h : runChain c v siblings written = .ok o)
    (he : o.error = some error) :
    ∃ place, failingStep c v siblings = .ok (some place) ∧ place < c.length := by
  obtain ⟨place, hplace, hnone, hlt⟩ := failingStep_of_runChain h
  cases place with
  | none =>
    rw [hnone.mp rfl] at he
    cases he
  | some i => exact ⟨i, hplace, hlt i rfl⟩

/-- **The failing step of two chains is that of the first one, or that of the second one counted on
from its end.** -/
theorem failingStep_append (h : runChain c v siblings written = .ok o) (d : List Step) :
    failingStep (c ++ d) v siblings = match o.error with
      | some _ => failingStep c v siblings
      | none => (failingStep d o.value siblings).map (Option.map (· + c.length)) := by
  induction c generalizing v written with
  | nil =>
    rw [runChain_nil, Except.ok.injEq] at h
    rw [← h, List.nil_append]
    cases failingStep d v siblings with
    | error fault => rfl
    | ok place => simp [Except.map]
  | cons step c ih =>
    obtain ⟨effect, heffect, hend⟩ := runChain_cons_eq_ok h
    rw [List.cons_append, failingStep_cons, failingStep_cons, heffect, Except.ok_bind,
      Except.ok_bind]
    rcases hend with ⟨ht, rfl⟩ | ⟨ht, h⟩
    · rw [if_pos ht, if_pos ht]
    · have hne : ¬ effect.error.truthy = true := by
        rw [ht]
        simp
      rw [if_neg hne, if_neg hne, ih h]
      cases o.error with
      | some e => rfl
      | none =>
        cases failingStep d o.value siblings with
        | error fault => rfl
        | ok place => cases place <;> simp [Except.map, Nat.add_assoc]

/-! ## Steps that do the same -/

/-- Chains whose steps do the same, one by one, run alike and fail at the same place. -/
theorem runChain_congr (h : List.Forall₂ (fun s t => s.check.run = t.check.run) c d) (v : Value)
    (siblings : Entries) (written : Bool) :
    runChain c v siblings written = runChain d v siblings written ∧
      failingStep c v siblings = failingStep d v siblings := by
  induction h generalizing v written with
  | nil => exact ⟨rfl, rfl⟩
  | cons hstep _ ih =>
    rw [runChain_cons, runChain_cons, failingStep_cons, failingStep_cons, hstep]
    constructor
    · simp only [fun v written => (ih v written).1]
    · simp only [fun v => (ih v false).2]

end FieldRules
