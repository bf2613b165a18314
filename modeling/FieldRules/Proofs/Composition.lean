import FieldRules.Proofs.Run.Chain

/-!
# The course of a chain

How a run of a chain goes is told by the effects of its checks: of those that passed, and of the one
that failed, if one did (`Course`). The outcome can be read off its course, whatever the checks are:
a value is what was written last before the failure, and what the failing check itself wrote is not
to be seen (`runChain_eq_ok_iff`).

From this and from what is known of one chain after another, the laws of composition follow
(`runChain_composes`): the second of two chains is run from where the first one stopped, and never
after a failure.
-/

set_option autoImplicit false

namespace FieldRules

variable {c : Chain} {v : Value} {siblings : Entries} {written : Bool} {o : Outcome}

/-- How a run of a chain on a value goes: the effects of the checks that passed, in order, and the
effect of the check that failed, if one did. A check sees what the last write before it has left. -/
inductive Course (siblings : Entries) : Chain → Value → List Effect → Option Effect → Prop
  | finished (v : Value) : Course siblings [] v [] none
  | failed {step : Step} {v : Value} {effect : Effect} (c : Chain) :
      step.check.run v siblings = .ok effect → effect.error.truthy = true →
      Course siblings (step :: c) v [] (some effect)
  | passed {step : Step} {v : Value} {effect : Effect} {c : Chain} {effects : List Effect}
      {failing : Option Effect} :
      step.check.run v siblings = .ok effect → effect.error.truthy = false →
      Course siblings c (effect.write.getD v) effects failing →
      Course siblings (step :: c) v (effect :: effects) failing

/-- What was written last, if anything was. -/
def lastWrite? (effects : List Effect) : Option Value := (effects.filterMap Effect.write).getLast?

theorem lastWrite?_cons (effect : Effect) (effects : List Effect) :
    lastWrite? (effect :: effects) = (lastWrite? effects).or effect.write := by
  cases h : effect.write with
  | none => simp [lastWrite?, h]
  | some w => cases hl : lastWrite? effects <;> simp_all [lastWrite?, List.getLast?_cons]

/-- The outcome that a course leads to. -/
def Outcome.ofCourse (v : Value) (effects : List Effect) (failing : Option Effect)
    (written : Bool) : Outcome where
  value := (lastWrite? effects).getD v
  error := failing.map Effect.error
  written := written || effects.any fun effect => effect.write.isSome

/-- A check that passes puts its write under those that follow. -/
theorem Outcome.ofCourse_cons (v : Value) (effect : Effect) (effects : List Effect)
    (failing : Option Effect) (written : Bool) :
    ofCourse v (effect :: effects) failing written =
      ofCourse (effect.write.getD v) effects failing (written || effect.write.isSome) := by
  simp only [ofCourse, lastWrite?_cons, List.any_cons, Bool.or_assoc, Outcome.mk.injEq, and_true]
  cases lastWrite? effects <;> simp

/-! ## The course and the outcome -/

theorem Course.runChain {effects : List Effect} {failing : Option Effect}
    (h : Course siblings c v effects failing) (written : Bool) :
    runChain c v siblings written = .ok (.ofCourse v effects failing written) := by
  induction h generalizing written with
  | finished v =>
    rw [runChain_nil]
    simp [Outcome.ofCourse, lastWrite?]
  | failed c hrun ht =>
    rw [runChain_cons, hrun, Except.ok_bind, if_pos ht]
    simp [Outcome.ofCourse, lastWrite?]
  | passed hrun ht _ ih =>
    rw [runChain_cons, hrun, Except.ok_bind, if_neg (by simp [ht]), ih, Outcome.ofCourse_cons]

/-- **A run comes to an outcome just when it has a course that leads there.** -/
theorem runChain_eq_ok_iff : runChain c v siblings written = .ok o ↔
    ∃ effects failing, Course siblings c v effects failing ∧
      o = .ofCourse v effects failing written := by
  constructor
  · intro h
    induction c generalizing v written with
    | nil =>
      rw [runChain_nil, Except.ok.injEq] at h
      exact ⟨[], none, .finished v, by simp [← h, Outcome.ofCourse, lastWrite?]⟩
    | cons step c ih =>
      obtain ⟨effect, hrun, ⟨ht, rfl⟩ | ⟨ht, h⟩⟩ := runChain_cons_eq_ok h
      · exact ⟨[], some effect, .failed c hrun ht, by simp [Outcome.ofCourse, lastWrite?]⟩
      · obtain ⟨effects, failing, hcourse, rfl⟩ := ih h
        exact ⟨effect :: effects, failing, .passed hrun ht hcourse,
          (Outcome.ofCourse_cons v effect effects failing written).symm⟩
  · rintro ⟨effects, failing, hcourse, rfl⟩
    exact hcourse.runChain written

/-- Without a failure every check of the chain has passed. -/
theorem Course.length_eq {effects : List Effect} (h : Course siblings c v effects none) :
    effects.length = c.length := by
  generalize hf : (none : Option Effect) = failing at h
  induction h with
  | finished v => rfl
  | failed c _ _ => exact nomatch hf
  | passed _ _ _ ih => simp [ih hf]

/-! ## Composition -/

/-- A chain that failed is the end. -/
theorem runChain_append_of_fails (h : runChain c v siblings written = .ok o) (hfail : o.ok = false)
    (d : Chain) : runChain (c ++ d) v siblings written = .ok o := by
  rw [runChain_append, h, Except.ok_bind]
  cases herror : o.error with
  | some error => rfl
  | none => simp [Outcome.ok, herror] at hfail

/-- A chain that passed hands its value on, and its flag is added to that of the next one. -/
theorem runChain_append_of_passes (h : runChain c v siblings written = .ok o)
    (hpass : o.ok = true) (d : Chain) : runChain (c ++ d) v siblings written =
      (runChain d o.value siblings false).map (·.since o.written) := by
  rw [runChain_append, h, Except.ok_bind]
  cases herror : o.error with
  | some error => simp [Outcome.ok, herror] at hpass
  | none => exact runChain_written d o.value siblings o.written

/-- **Chains compose**, whatever their checks do, be it to write and fail at once or to return an
error that counts as none. A chain that has a fault or fails is the end of the run, and one that
passes hands on its value, its flag being joined to that of the next one.

A chain passes if every check of it does. Then its flag tells whether one of them wrote, and its
value is what was written last or else what it was given. Of a check that fails there is nothing to
be seen but its error. -/
theorem runChain_composes (c : Chain) (v : Value) (siblings : Entries) :
    (∀ fault, runChain c v siblings false = .error fault →
      ∀ d, runChain (c ++ d) v siblings false = .error fault) ∧
    ∀ o, runChain c v siblings false = .ok o →
      (o.ok = false → ∀ d, runChain (c ++ d) v siblings false = .ok o) ∧
      (o.ok = true → ∀ d, runChain (c ++ d) v siblings false =
        (runChain d o.value siblings false).map (·.since o.written)) ∧
      (o.ok = true → ∀ (step : Step) (effect : Effect),
        step.check.run o.value siblings = .ok effect → effect.error.truthy = true →
        ∀ d, runChain (c ++ step :: d) v siblings false = .ok { o with error := effect.error }) ∧
      ∃ effects failing, Course siblings c v effects failing ∧
        o.error = failing.map Effect.error ∧
        (o.ok = true ↔ failing = none) ∧ (failing = none → effects.length = c.length) ∧
        (o.written = true ↔ ∃ effect ∈ effects, effect.write.isSome = true) ∧
        o.value = (lastWrite? effects).getD v := by
  constructor
  · intro fault h d
    rw [runChain_append, h, Except.error_bind]
  · intro o h
    refine ⟨runChain_append_of_fails h, runChain_append_of_passes h, ?_, ?_⟩
    · intro hpass step effect hrun ht d
      rw [runChain_append_of_passes h hpass, runChain_cons, hrun, Except.ok_bind, if_pos ht]
      simp [Except.map, Outcome.since]
    · obtain ⟨effects, failing, hcourse, rfl⟩ := runChain_eq_ok_iff.mp h
      refine ⟨effects, failing, hcourse, rfl, ?_, ?_, ?_, rfl⟩
      · cases failing <;> simp [Outcome.ok, Outcome.ofCourse]
      · rintro rfl
        exact hcourse.length_eq
      · simp [Outcome.ofCourse]

/-- A check that writes a text, whatever error it returns. -/
def Step.writing (w : String) (error : Value) : Step where
  rule := { name := "write" }
  check := .custom fun _ _ => .ok { error, write := some (.text w) }

/-- A check that always has a fault. -/
def Step.faulty : Step where
  rule := { name := "fault" }
  check := .custom fun _ _ => .error .crossedGroup

/-- The empty text is no error, so that the first write counts; the second one fails and is lost. -/
theorem runChain_composes_writes :
    runChain [.faulty] .null [] false = .error .crossedGroup ∧
      runChain ([.faulty] ++ [.writing "c" .null]) .null [] false = .error .crossedGroup ∧
      ∃ o p, runChain [.writing "a" (.text "")] .null [] false = .ok o ∧ o.ok = true ∧
        runChain [.writing "b" (.text "FAILED")] .null [] false = .ok p ∧ p.ok = false ∧
        (∀ d, runChain ([.writing "b" (.text "FAILED")] ++ d) .null [] false = .ok p) ∧
        (∀ d, runChain ([.writing "a" (.text "")] ++ d) .null [] false =
          (runChain d (.text "a") [] false).map (·.since true)) ∧
        ∀ d, runChain ([.writing "a" (.text "")] ++ .writing "b" (.text "FAILED") :: d) .null []
          false = .ok { value := .text "a", error := some (.text "FAILED"), written := true } := by
  have hwrites : runChain [.writing "a" (.text "")] .null [] false =
      .ok { value := .text "a", written := true } := rfl
  have hfails : runChain [.writing "b" (.text "FAILED")] .null [] false =
      .ok { value := .null, error := some (.text "FAILED") } := rfl
  have hfault : runChain [.faulty] .null [] false = .error .crossedGroup := rfl
  obtain ⟨-, hpasses, hlast, -⟩ := (runChain_composes _ _ _).2 _ hwrites
  obtain ⟨hends, -⟩ := (runChain_composes _ _ _).2 _ hfails
  refine ⟨hfault, (runChain_composes _ _ _).1 _ hfault _, _, _, hwrites, rfl, hfails, rfl,
    hends rfl, hpasses rfl, ?_⟩
  exact hlast rfl (.writing "b" (.text "FAILED")) _ rfl rfl

end FieldRules
