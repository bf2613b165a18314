import FieldRules.Proofs.Run.Trim

/-!
# The first alternative that passes

A choice runs its alternatives on the value that it was given, one after another, until one passes.
What an alternative wrote before it failed is lost with it, and of its failure only the error is
kept, until there is another one. So the alternatives that come first can be run apart from the
others (`runFirst_append`), and the whole run is what the first one that passes makes of the value
(`FirstPassing`, `firstPassing_runChain`).

An alternative may itself be a choice, in a chain of its own. With auto-trim both chains have their
pass, and the alternatives inside have theirs; since the outer pass has prepared the value, the
others change nothing but the flag, and the flag comes out the same, because the alternative that
passes has set it as well. So an inner choice can be dissolved into the outer one
(`runFirst_dissolve`).
-/

set_option autoImplicit false

namespace FieldRules

variable {v : Value} {siblings : Entries} {chain : Chain} {chains rest : List Chain} {last : Value}
  {o : Outcome}

/-- What a choice makes of the outcome of one of its alternatives. -/
def Outcome.effect (o : Outcome) : Effect :=
  match o.error with
  | some error => { error }
  | none => if o.written then .wrote o.value else .pass

theorem Outcome.effect_of_error {error : Value} (h : o.error = some error) :
    o.effect = { error } := by
  rw [effect, h]

theorem Outcome.error_effect (h : o.error = none) : o.effect.error = .null := by
  rw [effect, h]
  cases o.written <;> rfl

theorem Outcome.write_effect (h : o.error = none) :
    o.effect.write = if o.written then some o.value else none := by
  rw [effect, h]
  cases o.written <;> rfl

/-! ## One alternative after another -/

/-- The error from before is forgotten as soon as there is another alternative. -/
theorem runFirst_cons_last (chain : Chain) (rest : List Chain) (v : Value) (siblings : Entries)
    (last other : Value) :
    runFirst (chain :: rest) v siblings last = runFirst (chain :: rest) v siblings other := by
  rw [runFirst, runFirst]

theorem runFirst_cons_of_fault {fault : Fault}
    (h : runChain chain v siblings false = .error fault) :
    runFirst (chain :: rest) v siblings last = .error fault := by
  rw [runFirst, h, Except.error_bind]

theorem runFirst_cons_of_error {error : Value} (h : runChain chain v siblings false = .ok o)
    (herror : o.error = some error) :
    runFirst (chain :: rest) v siblings last = runFirst rest v siblings error := by
  rw [runFirst, h, Except.ok_bind, herror]

theorem runFirst_cons_of_passes (h : runChain chain v siblings false = .ok o)
    (hpass : o.error = none) : runFirst (chain :: rest) v siblings last = .ok o.effect := by
  rw [runFirst, h, Except.ok_bind, Outcome.effect, hpass]
  rfl

/-- **What a choice ends with comes of one of its alternatives**, and no write and no error is mixed
with those of another one. -/
theorem runFirst_eq_ok {effect : Effect} (hne : chains ≠ [])
    (h : runFirst chains v siblings last = .ok effect) :
    ∃ chain ∈ chains, ∃ o, runChain chain v siblings false = .ok o ∧ effect = o.effect := by
  induction chains generalizing last with
  | nil => exact absurd rfl hne
  | cons chain rest ih =>
    cases hrun : runChain chain v siblings false with
    | error fault =>
      rw [runFirst_cons_of_fault hrun] at h
      exact nomatch h
    | ok o =>
      cases herror : o.error with
      | none =>
        rw [runFirst_cons_of_passes hrun herror, Except.ok.injEq] at h
        exact ⟨chain, List.mem_cons_self, o, hrun, h.symm⟩
      | some error =>
        rw [runFirst_cons_of_error hrun herror] at h
        cases rest with
        | nil =>
          rw [runFirst, ← Outcome.effect_of_error herror, Except.ok.injEq] at h
          exact ⟨chain, List.mem_cons_self, o, hrun, h.symm⟩
        | cons other rest =>
          obtain ⟨found, hm, hfound⟩ := ih (List.cons_ne_nil _ _) h
          exact ⟨found, List.mem_cons_of_mem _ hm, hfound⟩

/-- A choice with one alternative. -/
theorem runFirst_singleton (chain : Chain) (v : Value) (siblings : Entries) (last : Value) :
    runFirst [chain] v siblings last = (runChain chain v siblings false).map Outcome.effect := by
  cases h : runChain chain v siblings false with
  | error fault => exact runFirst_cons_of_fault h
  | ok o =>
    cases herror : o.error with
    | some error =>
      rw [runFirst_cons_of_error h herror, runFirst]
      exact congrArg Except.ok (Outcome.effect_of_error herror).symm
    | none => exact runFirst_cons_of_passes h herror

/-- **The alternatives that come first are a choice of their own**, and the others are tried if it
fails. -/
theorem runFirst_append (hne : chains ≠ []) (rest : List Chain) (v : Value) (siblings : Entries)
    (last : Value) :
    runFirst (chains ++ rest) v siblings last = runFirst chains v siblings last >>= fun effect =>
      if effect.error.truthy then runFirst rest v siblings effect.error else .ok effect := by
  induction chains generalizing last with
  | nil => exact absurd rfl hne
  | cons chain others ih =>
    rw [List.cons_append]
    cases h : runChain chain v siblings false with
    | error fault => rw [runFirst_cons_of_fault h, runFirst_cons_of_fault h, Except.error_bind]
    | ok o =>
      cases herror : o.error with
      | none =>
        have hnull : ¬ o.effect.error.truthy = true := by
          rw [Outcome.error_effect herror]
          exact Bool.false_ne_true
        rw [runFirst_cons_of_passes h herror, runFirst_cons_of_passes h herror, Except.ok_bind,
          if_neg hnull]
      | some error =>
        rw [runFirst_cons_of_error h herror, runFirst_cons_of_error h herror]
        cases others with
        | nil =>
          have htruthy := truthy_of_runChain h herror
          rw [List.nil_append, runFirst.eq_1, Except.ok_bind, if_pos htruthy]
        | cons other others => exact ih (List.cons_ne_nil _ _) error

/-- Alternatives in front of a choice make no difference to what it can be replaced by. -/
theorem runFirst_append_congr {others : List Chain}
    (h : ∀ last, runFirst rest v siblings last = runFirst others v siblings last)
    (chains : List Chain) (last : Value) :
    runFirst (chains ++ rest) v siblings last = runFirst (chains ++ others) v siblings last := by
  induction chains generalizing last with
  | nil => exact h last
  | cons chain before ih =>
    rw [List.cons_append, List.cons_append, runFirst, runFirst]
    simp only [ih]

/-! ## The first one that passes -/

/-- The chain ends with an error on the value. -/
def Chain.Fails (chain : Chain) (v : Value) (siblings : Entries) : Prop :=
  ∃ o error, runChain chain v siblings false = .ok o ∧ o.error = some error

/-- The result is what the first of the chains that passes makes of the value itself; if none
passes, it has the error of the last one. A chain with a fault is not passed over. -/
inductive FirstPassing (chains : List Chain) (v : Value) (siblings : Entries) :
    Except Fault Outcome → Prop
  | passes {before after : List Chain} {chain : Chain} {o : Outcome} :
    chains = before ++ chain :: after → (∀ other ∈ before, Chain.Fails other v siblings) →
    runChain chain v siblings false = .ok o → o.error = none →
    FirstPassing chains v siblings (.ok o)
  | fails {last : Chain} {failed o : Outcome} :
    (∀ chain ∈ chains, Chain.Fails chain v siblings) → chains.getLast? = some last →
    runChain last v siblings false = .ok failed → o.error = failed.error →
    FirstPassing chains v siblings (.ok o)
  | faults {before after : List Chain} {chain : Chain} {fault : Fault} :
    chains = before ++ chain :: after → (∀ other ∈ before, Chain.Fails other v siblings) →
    runChain chain v siblings false = .error fault → FirstPassing chains v siblings (.error fault)

/-- Of some chains all fail on a value, or there is a first one that does not. -/
theorem Chain.fails_or_exists (chains : List Chain) (v : Value) (siblings : Entries) :
    (∀ chain ∈ chains, Chain.Fails chain v siblings) ∨ ∃ before chain after,
      chains = before ++ chain :: after ∧ (∀ other ∈ before, Chain.Fails other v siblings) ∧
        ¬ Chain.Fails chain v siblings := by
  classical
  cases h : chains.find? fun chain => decide ¬ Chain.Fails chain v siblings with
  | none =>
    left
    simpa using h
  | some chain =>
    right
    obtain ⟨hchain, before, after, hchains, hbefore⟩ := List.find?_eq_some_iff_append.mp h
    exact ⟨before, chain, after, hchains, by simpa using hbefore, by simpa using hchain⟩

/-- Chains that fail are passed over. -/
theorem runFirst_append_of_fails {before : List Chain}
    (h : ∀ chain ∈ before, Chain.Fails chain v siblings) (chain : Chain) (after : List Chain)
    (last : Value) :
    runFirst (before ++ chain :: after) v siblings last =
      runFirst (chain :: after) v siblings last := by
  induction before generalizing last with
  | nil => rfl
  | cons first others ih =>
    rw [List.forall_mem_cons] at h
    obtain ⟨⟨o, error, hrun, herror⟩, hothers⟩ := h
    rw [List.cons_append, runFirst_cons_of_error hrun herror, ih hothers,
      runFirst_cons_last _ _ _ _ error last]

/-- If all chains fail, the choice fails with the error of the last one. -/
theorem runFirst_of_fails (h : ∀ chain ∈ chains, Chain.Fails chain v siblings)
    {final : Chain} (hfinal : chains.getLast? = some final) (last : Value) :
    ∃ o error, runChain final v siblings false = .ok o ∧ o.error = some error ∧
      runFirst chains v siblings last = .ok { error } := by
  obtain ⟨before, rfl⟩ := List.getLast?_eq_some_iff.mp hfinal
  rw [List.forall_mem_append, List.forall_mem_singleton] at h
  obtain ⟨hbefore, o, error, hrun, herror⟩ := h
  refine ⟨o, error, hrun, herror, ?_⟩
  rw [runFirst_append_of_fails hbefore, runFirst_cons_of_error hrun herror, runFirst]

/-- **Running a choice finds the first alternative that passes.** -/
theorem exists_firstPassing (hne : chains ≠ []) (v : Value) (siblings : Entries) (last : Value) :
    ∃ result, FirstPassing chains v siblings result ∧
      runFirst chains v siblings last = result.map Outcome.effect := by
  rcases Chain.fails_or_exists chains v siblings with hall | ⟨before, chain, after, hsplit, hb, hc⟩
  · have hfinal := List.getLast?_eq_some_getLast hne
    obtain ⟨o, error, hrun, herror, heffect⟩ := runFirst_of_fails hall hfinal last
    refine ⟨.ok o, .fails hall hfinal hrun rfl, ?_⟩
    rw [heffect, ← Outcome.effect_of_error herror]
    rfl
  · have hrest : runFirst chains v siblings last = runFirst (chain :: after) v siblings last := by
      rw [hsplit, runFirst_append_of_fails hb]
    cases hrun : runChain chain v siblings false with
    | error fault =>
      exact ⟨.error fault, .faults hsplit hb hrun, hrest.trans (runFirst_cons_of_fault hrun)⟩
    | ok o =>
      cases herror : o.error with
      | some error => exact absurd ⟨o, error, hrun, herror⟩ hc
      | none =>
        exact ⟨.ok o, .passes hsplit hb hrun herror,
          hrest.trans (runFirst_cons_of_passes hrun herror)⟩

/-- Which alternative is the first that passes depends on how they run, and on nothing else. -/
theorem FirstPassing.congr {w : Value} {result : Except Fault Outcome}
    (h : ∀ chain ∈ chains, runChain chain v siblings false = runChain chain w siblings false)
    (hfirst : FirstPassing chains v siblings result) : FirstPassing chains w siblings result := by
  have hfails : ∀ chain ∈ chains, Chain.Fails chain v siblings → Chain.Fails chain w siblings := by
    rintro chain hm ⟨o, error, hrun, herror⟩
    exact ⟨o, error, (h chain hm).symm.trans hrun, herror⟩
  cases hfirst with
  | @passes before after chain o hsplit hb hrun hpass =>
    refine .passes hsplit (fun other hm => hfails other ?_ (hb other hm)) ?_ hpass
    · simp [hsplit, hm]
    · rw [← h chain (by simp [hsplit]), hrun]
  | @fails final failed o hall hfinal hrun herror =>
    refine .fails (fun chain hm => hfails chain hm (hall chain hm)) hfinal ?_ herror
    rw [← h final (List.mem_of_getLast? hfinal), hrun]
  | @faults before after chain fault hsplit hb hrun =>
    refine .faults hsplit (fun other hm => hfails other ?_ (hb other hm)) ?_
    · simp [hsplit, hm]
    · rw [← h chain (by simp [hsplit]), hrun]

/-! ## A choice in a chain of its own -/

/-- The chains prepare their value: they have the pass of auto-trim in front, if it is on. -/
def Prepare (autoTrim : Bool) (chains : List Chain) : Prop :=
  ∀ chain ∈ chains, ∃ steps, chain = withTrim autoTrim steps

section
variable {autoTrim : Bool}

theorem Prepare.runChain_prepared (h : Prepare autoTrim chains) (hm : chain ∈ chains) :
    runChain chain (v.prepared autoTrim) siblings false = runChain chain v siblings false := by
  obtain ⟨steps, rfl⟩ := h chain hm
  exact runChain_withTrim_prepared autoTrim steps v siblings

/-- The outcome of a chain with nothing but a choice in it, by the effect that the choice has. -/
def Outcome.ofChoice (autoTrim : Bool) (v : Value) (effect : Effect) : Outcome :=
  if effect.error.truthy then
    { value := v.prepared autoTrim, error := some effect.error, written := autoTrim && v.isText }
  else
    { value := effect.write.getD (v.prepared autoTrim)
      written := (autoTrim && v.isText) || effect.write.isSome }

theorem runChain_firstOf (rule : Invocation) (chains : List Chain) (v : Value)
    (siblings : Entries) :
    runChain (withTrim autoTrim [⟨rule, .firstOf chains⟩]) v siblings false =
      (runFirst chains (v.prepared autoTrim) siblings .null).map (Outcome.ofChoice autoTrim v) := by
  rw [runChain_withTrim, runChain_cons, Check.run]
  cases runFirst chains (v.prepared autoTrim) siblings .null with
  | error fault => rfl
  | ok effect =>
    rw [Except.ok_bind, runChain_nil]
    show _ = Except.ok (Outcome.ofChoice autoTrim v effect)
    unfold Outcome.ofChoice
    split <;> rfl

/-- Where an alternative passes, the chain of the choice has the same outcome. -/
theorem Outcome.ofChoice_effect (h : Prepare autoTrim chains) (hm : chain ∈ chains)
    (hrun : runChain chain v siblings false = .ok o) (hpass : o.error = none) :
    Outcome.ofChoice autoTrim v o.effect = o := by
  have hnull : ¬ o.effect.error.truthy = true := by
    rw [Outcome.error_effect hpass]
    exact Bool.false_ne_true
  rw [ofChoice, if_neg hnull, write_effect hpass]
  obtain ⟨steps, rfl⟩ := h chain hm
  obtain ⟨value, error, written⟩ := o
  cases hpass
  cases written with
  | true => simp
  | false =>
    -- Nothing has been written, not even by the pass in front.
    have ht : (autoTrim && v.isText) = false := by
      by_contra ht
      exact nomatch written_of_withTrim _ _ _ _ hrun (Bool.not_eq_false _ ▸ ht)
    rw [runChain_withTrim, ht] at hrun
    have hvalue : value = v.prepared autoTrim := value_of_runChain hrun rfl
    simp [ht, hvalue]

/-- **A choice has the outcome of the first of its alternatives that passes on the value itself**,
although it is run on the prepared value. -/
theorem firstPassing_runChain (hne : chains ≠ []) (h : Prepare autoTrim chains)
    (rule : Invocation) (v : Value) (siblings : Entries) :
    FirstPassing chains v siblings
      (runChain (withTrim autoTrim [⟨rule, .firstOf chains⟩]) v siblings false) := by
  obtain ⟨result, hfirst, hrun⟩ := exists_firstPassing hne (v.prepared autoTrim) siblings .null
  have hsame := hfirst.congr fun chain hm => h.runChain_prepared hm
  rw [runChain_firstOf, hrun]
  cases hsame with
  | @passes before after chain o hsplit hb hchain hpass =>
    have hchoice : Outcome.ofChoice autoTrim v o.effect = o :=
      Outcome.ofChoice_effect h (by simp [hsplit]) hchain hpass
    show FirstPassing chains v siblings (.ok (Outcome.ofChoice autoTrim v o.effect))
    rw [hchoice]
    exact .passes hsplit hb hchain hpass
  | @fails final failed o hall hfinal hlast herror =>
    refine .fails hall hfinal hlast ?_
    obtain ⟨other, error, hother, hfailed⟩ := hall final (List.mem_of_getLast? hfinal)
    obtain rfl : other = failed := Except.ok.inj (hother.symm.trans hlast)
    have htruthy : error.truthy = true := truthy_of_runChain hother hfailed
    rw [Outcome.effect_of_error (herror.trans hfailed), Outcome.ofChoice, if_pos htruthy, hfailed]
  | faults hsplit hb hchain => exact .faults hsplit hb hchain

/-- A choice alone in its chain, as the alternative of another choice, does what its own
alternatives do. -/
theorem runFirst_singleton_firstOf (hne : chains ≠ []) (h : Prepare autoTrim chains)
    (rule : Invocation) (v : Value) (siblings : Entries) (last : Value) :
    runFirst [withTrim autoTrim [⟨rule, .firstOf chains⟩]] (v.prepared autoTrim) siblings last =
      runFirst chains (v.prepared autoTrim) siblings last := by
  obtain ⟨chain, others, rfl⟩ := List.exists_cons_of_ne_nil hne
  rw [runFirst_singleton, runChain_firstOf, Value.prepared_prepared,
    runFirst_cons_last chain others _ _ last .null]
  cases hrun : runFirst (chain :: others) (v.prepared autoTrim) siblings .null with
  | error fault => rfl
  | ok effect =>
    show Except.ok (Outcome.ofChoice autoTrim (v.prepared autoTrim) effect).effect = .ok effect
    obtain ⟨found, hm, o, ho, rfl⟩ := runFirst_eq_ok hne hrun
    cases herror : o.error with
    | none => rw [Outcome.ofChoice_effect h hm ho herror]
    | some error =>
      have htruthy : error.truthy = true := truthy_of_runChain ho herror
      rw [Outcome.effect_of_error herror, Outcome.ofChoice, if_pos htruthy]
      rfl

/-- **A choice among the alternatives of another one can be dissolved into it.** -/
theorem runFirst_dissolve (hne : chains ≠ []) (h : Prepare autoTrim chains) (rule : Invocation)
    (before after : List Chain) (v : Value) (siblings : Entries) (last : Value) :
    runFirst (before ++ withTrim autoTrim [⟨rule, .firstOf chains⟩] :: after)
        (v.prepared autoTrim) siblings last =
      runFirst (before ++ chains ++ after) (v.prepared autoTrim) siblings last := by
  rw [List.append_assoc]
  refine runFirst_append_congr (fun last => ?_) before last
  rw [← List.singleton_append, runFirst_append (List.cons_ne_nil _ _), runFirst_append hne,
    runFirst_singleton_firstOf hne h]

end

end FieldRules
