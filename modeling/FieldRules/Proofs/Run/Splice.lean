import FieldRules.Proofs.Run.Chain

/-!
# An alias runs as its rules

The check of an alias runs a chain of its own, from the value that the chain around it has reached.
It collapses what happens in there: all that the rules wrote becomes one write, and any error of
theirs becomes the code of the alias, if it has one. For the chain around it that makes almost no
difference. Putting an alias in front of a chain is the same as putting its rules there, except for
the outcome of a failure among them (`runChain_aliased`), and so the two ways of writing a chain
have the same faults, pass on the same values, and on the others have the same errors up to that
code (`runsLike_splice`).
-/

set_option autoImplicit false

namespace FieldRules

variable {v : Value} {siblings : Entries}

/-- The code of an alias in the place of an error of its rules. -/
def coded (fixed : Option String) (error : Value) : Value := (fixed.map Value.text).getD error

theorem truthy_coded {fixed : Option String} (hf : fixed ≠ some "") {error : Value}
    (he : error.truthy = true) : (coded fixed error).truthy = true := by
  cases fixed with
  | none => exact he
  | some code =>
    have hne : code ≠ "" := fun h => hf (by rw [h])
    show (!code.isEmpty) = true
    rw [Bool.not_eq_true', ← Bool.not_eq_true, String.isEmpty_iff]
    exact hne

/-- **An alias in front of a chain is its rules in front of it, except for what an error of theirs
comes to**: the error is coded, and what the rules wrote before it is lost. -/
theorem runChain_aliased {step : Step} {fixed : Option String} {inner : List Step}
    (hstep : step.check = .aliased fixed inner) (hf : fixed ≠ some "") (after : List Step)
    (v : Value) (siblings : Entries) (written : Bool) :
    runChain (step :: after) v siblings written = runChain inner v siblings written >>= fun o =>
      match o.error with
      | some error => .ok { value := v, error := some (coded fixed error), written }
      | none => runChain after o.value siblings o.written := by
  rw [runChain_cons, hstep, Check.run, runChain_written inner v siblings written]
  cases hrun : runChain inner v siblings false with
  | error fault => rfl
  | ok o =>
    show _ = match (o.since written).error with
      | some error => _
      | none => runChain after (o.since written).value siblings (o.since written).written
    rw [Except.ok_bind, Outcome.since_error, Outcome.since_value, Outcome.since_written]
    cases he : o.error with
    | some error =>
      have ht := truthy_coded hf (truthy_of_runChain hrun he)
      show (if (coded fixed error).truthy then _ else _) = _
      rw [if_pos ht]
      rfl
    | none =>
      cases hw : o.written with
      | true => rfl
      | false =>
        -- Nothing was written, so the value that the rest goes on with is still the same.
        rw [value_of_runChain hrun hw]
        rfl

/-! ## Two ways of writing a chain -/

/-- Where one chain has an alias with the code `fixed`, the other one has its rules, from the place
`first` to before the place `past`: the chains have the same faults, pass on the same values with
the same outcome, and fail with the same error, unless the other one fails at a rule of the alias,
whose error is then coded. -/
structure RunsLike (fixed : Option String) (first past : Nat) (c c' : Chain) (v : Value)
    (siblings : Entries) : Prop where
  fault (f : Fault) :
    runChain c v siblings false = .error f ↔ runChain c' v siblings false = .error f
  passes (o o' : Outcome) : runChain c v siblings false = .ok o →
    runChain c' v siblings false = .ok o' → (o.error = none ↔ o'.error = none)
  result (o o' : Outcome) : runChain c v siblings false = .ok o →
    runChain c' v siblings false = .ok o' → o.error = none →
    o.value = o'.value ∧ o.written = o'.written
  failure (o o' : Outcome) (error : Value) : runChain c v siblings false = .ok o →
    runChain c' v siblings false = .ok o' → o'.error = some error →
    ∃ place, failingStep c' v siblings = .ok (some place) ∧
      o.error = some (if first ≤ place ∧ place < past then coded fixed error else error)

/-- Two chains with the same outcome. -/
theorem RunsLike.of_eq {fixed : Option String} {first past : Nat} {c c' : Chain}
    (h : runChain c v siblings false = runChain c' v siblings false)
    (hplace : ∀ o, runChain c' v siblings false = .ok o → o.error ≠ none →
      ∃ place, failingStep c' v siblings = .ok (some place) ∧ ¬ (first ≤ place ∧ place < past)) :
    RunsLike fixed first past c c' v siblings := by
  constructor
  case fault =>
    intro f
    rw [h]
  case passes =>
    intro o o' ho ho'
    rw [h, ho', Except.ok.injEq] at ho
    rw [ho]
  case result =>
    intro o o' ho ho' _
    rw [h, ho', Except.ok.injEq] at ho
    rw [ho]
    exact ⟨rfl, rfl⟩
  case failure =>
    intro o o' error ho ho' herror
    rw [h, ho', Except.ok.injEq] at ho
    obtain ⟨place, hp, hout⟩ := hplace o' ho' (by rw [herror]; simp)
    exact ⟨place, hp, by rw [if_neg hout, ← ho, herror]⟩

/-- Two chains that fail, the other one at a rule of the alias. -/
theorem RunsLike.of_coded {fixed : Option String} {first past : Nat} {c c' : Chain}
    {o o' : Outcome} {error : Value} {place : Nat}
    (ho : runChain c v siblings false = .ok o) (ho' : runChain c' v siblings false = .ok o')
    (he : o.error = some (coded fixed error)) (he' : o'.error = some error)
    (hplace : failingStep c' v siblings = .ok (some place))
    (hin : first ≤ place ∧ place < past) : RunsLike fixed first past c c' v siblings := by
  constructor
  case fault =>
    intro f
    rw [ho, ho']
    exact ⟨fun h => (nomatch h), fun h => (nomatch h)⟩
  case passes =>
    intro q q' hq hq'
    rw [ho, Except.ok.injEq] at hq
    rw [ho', Except.ok.injEq] at hq'
    rw [← hq, ← hq', he, he']
    simp
  case result =>
    intro q q' hq _ hnone
    rw [ho, Except.ok.injEq] at hq
    rw [← hq, he] at hnone
    cases hnone
  case failure =>
    intro q q' error' hq hq' herror
    rw [ho, Except.ok.injEq] at hq
    rw [ho', Except.ok.injEq] at hq'
    rw [← hq', he', Option.some.injEq] at herror
    exact ⟨place, hplace, by rw [if_pos hin, ← hq, he, herror]⟩

/-- **A chain with an alias in it runs like the chain with the rules of the alias in its place.** -/
theorem runsLike_splice {step : Step} {fixed : Option String} {inner : List Step}
    (hstep : step.check = .aliased fixed inner) (hf : fixed ≠ some "") (before after : List Step)
    (v : Value) (siblings : Entries) :
    RunsLike fixed before.length (before.length + inner.length) (before ++ step :: after)
      (before ++ (inner ++ after)) v siblings := by
  have hrun : ∀ rest, runChain (before ++ rest) v siblings false = _ :=
    fun rest => runChain_append before rest v siblings false
  cases hb : runChain before v siblings false with
  | error fault =>
    -- The rules before the alias end in a fault.
    simp only [hb, Except.error_bind] at hrun
    refine .of_eq (by rw [hrun, hrun]) fun o ho _ => ?_
    rw [hrun] at ho
    exact nomatch ho
  | ok o =>
    simp only [hb, Except.ok_bind] at hrun
    cases he : o.error with
    | some error =>
      -- They fail, and the chain ends there.
      simp only [he] at hrun
      refine .of_eq (by rw [hrun, hrun]) fun _ _ _ => ?_
      obtain ⟨place, hplace, hlt⟩ := exists_failingStep hb he
      refine ⟨place, ?_, by omega⟩
      rw [failingStep_append hb, he]
      exact hplace
    | none =>
      simp only [he] at hrun
      have hsplice := hrun (inner ++ after)
      have halias := hrun (step :: after)
      rw [runChain_append inner after] at hsplice
      rw [runChain_aliased hstep hf] at halias
      have hplace : failingStep (before ++ (inner ++ after)) v siblings =
          (failingStep (inner ++ after) o.value siblings).map (Option.map (· + before.length)) := by
        rw [failingStep_append hb, he]
      cases hi : runChain inner o.value siblings o.written with
      | error fault =>
        rw [hi, Except.error_bind] at hsplice halias
        refine .of_eq (by rw [hsplice, halias]) fun p hp _ => ?_
        rw [hsplice] at hp
        exact nomatch hp
      | ok p =>
        rw [hi, Except.ok_bind] at hsplice halias
        rw [failingStep_append hi] at hplace
        cases hp : p.error with
        | none =>
          -- The rules of the alias pass, and both chains go on with what follows.
          simp only [hp] at hsplice halias hplace
          refine .of_eq (by rw [hsplice, halias]) fun q hq hne => ?_
          obtain ⟨error, hq'⟩ := Option.ne_none_iff_exists'.mp hne
          rw [hsplice] at hq
          obtain ⟨place, hfail, -⟩ := exists_failingStep hq hq'
          refine ⟨place + inner.length + before.length, ?_, by omega⟩
          rw [hplace, hfail]
          rfl
        | some error =>
          -- They fail, and this is where the chains differ.
          simp only [hp] at hsplice halias hplace
          obtain ⟨place, hfail, hlt⟩ := exists_failingStep hi hp
          rw [hfail] at hplace
          have hin : before.length ≤ place + before.length ∧
              place + before.length < before.length + inner.length := by omega
          exact .of_coded halias hsplice rfl hp hplace hin

/-- The steps of the other chain may be replaced by steps that do the same. -/
theorem RunsLike.congr {fixed : Option String} {first past : Nat} {c c' c'' : Chain}
    (h : RunsLike fixed first past c c' v siblings)
    (hsame : List.Forall₂ (fun s t => s.check.run = t.check.run) c'' c') :
    RunsLike fixed first past c c'' v siblings := by
  obtain ⟨hrun, hplace⟩ := runChain_congr hsame v siblings false
  constructor
  · rw [hrun]
    exact h.fault
  · rw [hrun]
    exact h.passes
  · rw [hrun]
    exact h.result
  · rw [hrun, hplace]
    exact h.failure

end FieldRules
