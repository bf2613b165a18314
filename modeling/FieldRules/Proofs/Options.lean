import FieldRules.Proofs.Compile.Arguments
import FieldRules.Proofs.Compile.Calls
import FieldRules.Proofs.Run.Choice

/-!
# A choice of options is a choice of rules

`one_of` looks the text of a value up in a table of its options. The same could be said with `or`: a
rule `eq` for each option, the first that passes deciding. The two find the same option, also where
several options read the same: the table then has the first of them, because it is filled from the
last one on, and the first is the one at which `or` stops (`Arguments.lookup_options`,
`runFirst_of_reading`). So the two rules have the same outcome on every value, in every case
(`oneOf_eq_firstOf`).

A value that is missing is not an option that was chosen: both rules let it pass and leave it as it
is, whatever the options are (`oneOf_passes_blank`).
-/

set_option autoImplicit false

namespace FieldRules

open Arguments (firstReading?)

variable {v : Value} {siblings : Entries}

/-! ## Alternatives of one rule each -/

/-- An alternative with one rule is decided by the effect of the rule. -/
theorem runFirst_cons_singleton (step : Step) (rest : List Chain) (v : Value) (siblings : Entries)
    (last : Value) :
    runFirst ([step] :: rest) v siblings last = step.check.run v siblings >>= fun effect =>
      if effect.error.truthy then runFirst rest v siblings effect.error
      else .ok { write := effect.write } := by
  rw [runFirst, runChain_cons]
  cases step.check.run v siblings with
  | error fault => rfl
  | ok effect =>
    rw [Except.ok_bind, Except.ok_bind]
    by_cases ht : effect.error.truthy = true
    · rw [if_pos ht, if_pos ht]
      rfl
    · rw [if_neg ht, if_neg ht, runChain_nil]
      cases effect.write <;> rfl

/-! ## The rules for single options -/

/-- The check that accepts what reads like an option, and writes that option. -/
def Check.Accepts (check : Check) (option : Value) : Prop :=
  ∃ expected, option.plainText = .ok expected ∧ check = .leaf (.eq option expected)

/-- The alternatives are a rule for each of the options, in order. -/
def AcceptEach (chains : List Chain) (options : List Value) : Prop :=
  List.Forall₂ (fun chain option => ∃ step, chain = [step] ∧ step.check.Accepts option)
    chains options

/-- What becomes of a text that should be one of some options. -/
def chosen (options : List Value) (s : String) : Effect :=
  match firstReading? s options with
  | some option => .wrote option
  | none => .fail .notAllowedValue

theorem chosen_cons_of_reads {option : Value} {s : String} (h : option.plainText = .ok s)
    (options : List Value) : chosen (option :: options) s = .wrote option := by
  rw [Value.plainText_eq_ok] at h
  simp [chosen, firstReading?, h]

theorem chosen_cons_of_not_reads {option : Value} {s expected : String}
    (h : option.plainText = .ok expected) (hne : s ≠ expected) (options : List Value) :
    chosen (option :: options) s = chosen options s := by
  rw [Value.plainText_eq_ok] at h
  simp [chosen, firstReading?, h, Ne.symm hne]

namespace AcceptEach

variable {chains : List Chain} {options : List Value}

theorem run_eq {step : Step} {option : Value} {expected : String}
    (h : step.check = .leaf (.eq option expected)) (v : Value) (siblings : Entries) :
    step.check.run v siblings = Leaf.onText v fun s =>
      .ok (if s = expected then .wrote option else .fail .notAllowedValue) := by
  rw [h, Check.run, Leaf.run]

/-- A missing value passes at the first alternative. -/
theorem runFirst_of_isMissing (h : AcceptEach chains options) (hne : options ≠ [])
    (hm : v.isMissing = true) (last : Value) : runFirst chains v siblings last = .ok .pass := by
  cases h with
  | nil => exact absurd rfl hne
  | cons hfirst _ =>
    obtain ⟨step, rfl, expected, -, hcheck⟩ := hfirst
    rw [runFirst_cons_singleton, run_eq hcheck, Leaf.onText_of_isMissing hm]
    rfl

/-- A value that is not primitive fails at all of them, for the same reason. -/
theorem runFirst_of_not_isPrimitive (h : AcceptEach chains options) (hm : v.isMissing = false)
    (hp : v.isPrimitive = false) :
    runFirst chains v siblings (.text Code.formatError.text) = .ok (.fail .formatError) := by
  induction h with
  | nil => rw [runFirst]; rfl
  | cons hfirst _ ih =>
    obtain ⟨step, rfl, expected, -, hcheck⟩ := hfirst
    rw [runFirst_cons_singleton, run_eq hcheck, Leaf.onText_of_not_isPrimitive hm hp,
      Except.ok_bind, if_pos (Effect.truthy_fail _)]
    exact ih

/-- **A text passes at the first option that reads like it.** -/
theorem runFirst_of_reading (h : AcceptEach chains options) (hm : v.isMissing = false)
    (hp : v.isPrimitive = true) {s : String} (hs : v.plainText = .ok s) :
    runFirst chains v siblings (.text Code.notAllowedValue.text) = .ok (chosen options s) := by
  induction h with
  | nil => rw [runFirst]; rfl
  | cons hfirst _ ih =>
    obtain ⟨step, rfl, expected, ht, hcheck⟩ := hfirst
    rw [runFirst_cons_singleton, run_eq hcheck, Leaf.onText_of_isPrimitive hm hp, hs,
      Except.ok_bind, Except.ok_bind]
    by_cases hreads : s = expected
    · rw [if_pos hreads, hreads, chosen_cons_of_reads ht]
      rfl
    · rw [if_neg hreads, if_pos (Effect.truthy_fail _), chosen_cons_of_not_reads ht hreads]
      exact ih

/-- Taken together, the alternatives choose by the text of the value. -/
theorem runFirst_eq (h : AcceptEach chains options) (hne : options ≠ []) (v : Value)
    (siblings : Entries) (last : Value) :
    runFirst chains v siblings last = Leaf.onText v fun s => .ok (chosen options s) := by
  by_cases hm : v.isMissing = true
  · rw [h.runFirst_of_isMissing hne hm, Leaf.onText_of_isMissing hm]
  rw [Bool.not_eq_true] at hm
  by_cases hp : v.isPrimitive = true
  · rw [Leaf.onText_of_isPrimitive hm hp]
    cases hs : v.plainText with
    | ok s =>
      cases h with
      | nil => exact absurd rfl hne
      | cons hfirst hrest =>
        rw [runFirst_cons_last _ _ _ _ _ (.text Code.notAllowedValue.text)]
        exact runFirst_of_reading (.cons hfirst hrest) hm hp hs
    | error fault =>
      -- The text cannot be written, and the first rule is the one that notices.
      cases h with
      | nil => exact absurd rfl hne
      | cons hfirst hrest =>
        obtain ⟨step, rfl, expected, -, hcheck⟩ := hfirst
        rw [runFirst_cons_singleton, run_eq hcheck, Leaf.onText_of_isPrimitive hm hp, hs]
        rfl
  · rw [Bool.not_eq_true] at hp
    rw [Leaf.onText_of_not_isPrimitive hm hp]
    cases h with
    | nil => exact absurd rfl hne
    | cons hfirst hrest =>
      rw [runFirst_cons_last _ _ _ _ _ (.text Code.formatError.text)]
      exact runFirst_of_not_isPrimitive (.cons hfirst hrest) hm hp

end AcceptEach

/-! ## The two specs -/

namespace Builtin

/-- A rule `eq` for each of some options. -/
def eqSpecs (options : List Value) : List Value := options.map eq.spec

theorem optionArgs_of_isPrimitive {options : List Value}
    (h : ∀ option ∈ options, option.isPrimitive = true) : optionArgs options = options := by
  unfold optionArgs
  split
  case h_1 option =>
    have hoption := h option (by simp)
    cases option <;> first | rfl | exact nomatch hoption
  case h_2 => rfl

end Builtin

section
variable {r : Registry} (hr : r.Extends Builder.IsAlias) {n : Nat} {options : List Value}
include hr

theorem Registry.Extends.run_oneOf (hp : ∀ option ∈ options, option.isPrimitive = true)
    {chain : Chain}
    (h : (Compilation.ofLevels r false n).field (Builtin.oneOf.spec (.list options)) chain) :
    ∃ step, chain = [step] ∧ ∀ v siblings,
      step.check.run v siblings = Leaf.onText v fun s => .ok (chosen options s) := by
  obtain ⟨m, step, -, hchain, hyields⟩ := hr.yields_of_call (Invocation.ofSpec_spec _ _) h
  obtain ⟨table, htable, hcheck⟩ := Builtin.eq_leaf_of_leafOf hyields
  have hargs : Builtin.optionArgs (Value.arguments (.list options)) = options :=
    Builtin.optionArgs_of_isPrimitive hp
  rw [hargs] at htable
  refine ⟨step, hchain, fun v siblings => ?_⟩
  rw [hcheck, Check.run, Leaf.run]
  simp only [Arguments.lookup_options htable]
  rfl

theorem Registry.Extends.accepts_eq {option : Value} (hp : option.isPrimitive = true) {chain : Chain}
    (h : (Compilation.ofLevels r false n).field (Builtin.eq.spec option) chain) :
    ∃ step, chain = [step] ∧ step.check.Accepts option := by
  obtain ⟨m, step, -, hchain, hyields⟩ := hr.yields_of_call (Invocation.ofSpec_spec _ _) h
  rw [Value.arguments_of_isPrimitive hp] at hyields
  simp only [Builtin.recipe, if_pos hp] at hyields
  obtain ⟨expected, ht, hcheck⟩ := Builtin.eq_leaf_of_leafOf hyields
  exact ⟨step, hchain, expected, ht, hcheck⟩

theorem Registry.Extends.acceptEach_eqSpecs {chains : List Chain}
    (hp : ∀ option ∈ options, option.isPrimitive = true)
    (h : List.Forall₂ (Compilation.ofLevels r false n).field (Builtin.eqSpecs options) chains) :
    AcceptEach chains options := by
  induction options generalizing chains with
  | nil =>
    cases h
    exact .nil
  | cons option rest ih =>
    obtain ⟨chain, others, hchain, hothers, rfl⟩ := List.forall₂_cons_left_iff.mp h
    exact .cons (hr.accepts_eq (hp option (by simp)) hchain)
      (ih (fun other ho => hp other (by simp [ho])) hothers)

theorem Registry.Extends.run_or_eqSpecs (hp : ∀ option ∈ options, option.isPrimitive = true)
    {chain : Chain}
    (h : (Compilation.ofLevels r false n).field
      (Builtin.or.spec (.list (Builtin.eqSpecs options))) chain) :
    ∃ step, chain = [step] ∧ ∀ v siblings,
      step.check.run v siblings = Leaf.onText v fun s => .ok (chosen options s) := by
  obtain ⟨m, step, -, hchain, hyields⟩ := hr.yields_of_call (Invocation.ofSpec_spec _ _) h
  obtain ⟨chains, hcheck, hne, hchains⟩ := (Builtin.builds hyields).of_or
  have haccept := hr.acceptEach_eqSpecs hp hchains
  refine ⟨step, hchain, fun v siblings => ?_⟩
  rw [hcheck, Check.run]
  exact haccept.runFirst_eq (fun hnil => hne (by rw [hnil]; rfl)) v siblings .null

end

/-- What a choice among options comes to, if it passes: a missing value as it is, without a write,
and for any other one the first option that reads like it. -/
def Outcome.IsChoice (options : List Value) (v : Value) (o : Outcome) : Prop :=
  if v.isMissing then o = { value := v }
  else ∃ s option, v.plainText = .ok s ∧ firstReading? s options = some option ∧
    o = { value := option, written := true }

theorem isChoice_of_onText {options : List Value} {step : Step}
    (hrun : step.check.run v siblings = Leaf.onText v fun s => .ok (chosen options s))
    {o : Outcome} (h : runChain [step] v siblings false = .ok o) (hpass : o.error = none) :
    o.IsChoice options v := by
  have hfails : ∀ code : Code, step.check.run v siblings ≠ .ok (.fail code) := by
    intro code hcode
    rw [runChain_of_fail hcode, Except.ok.injEq] at h
    rw [← h] at hpass
    cases hpass
  unfold Outcome.IsChoice
  by_cases hm : v.isMissing = true
  · rw [Leaf.onText_of_isMissing hm] at hrun
    rw [runChain_of_pass hrun, runChain_nil, Except.ok.injEq] at h
    rw [if_pos hm, ← h]
  · rw [if_neg hm]
    rw [Bool.not_eq_true] at hm
    by_cases hp : v.isPrimitive = true
    · rw [Leaf.onText_of_isPrimitive hm hp] at hrun
      cases hs : v.plainText with
      | error fault =>
        rw [hs, Except.error_bind] at hrun
        rw [runChain_of_fault hrun] at h
        cases h
      | ok s =>
        rw [hs, Except.ok_bind, chosen] at hrun
        cases hfirst : firstReading? s options with
        | none =>
          rw [hfirst] at hrun
          exact absurd hrun (hfails _)
        | some option =>
          rw [hfirst] at hrun
          rw [runChain_of_wrote hrun, runChain_nil, Except.ok.injEq] at h
          exact ⟨s, option, rfl, hfirst, h.symm⟩
    · rw [Bool.not_eq_true] at hp
      rw [Leaf.onText_of_not_isPrimitive hm hp] at hrun
      exact absurd hrun (hfails _)

/-- **A choice of options has the same outcome as the choice of the rules for them**: the same fault,
the same error, or the same value with or without a write. If it passes, a value that is not missing
has become the first option that reads like it. -/
theorem oneOf_eq_firstOf {r : Registry} {limit : Int} (hr : r.Extends Builder.IsAlias)
    {autoTrim : Option Bool} (hoff : autoTrim.getD false = false) {options : List Value}
    (hp : ∀ option ∈ options, option.isPrimitive = true) {c d : Chain}
    (hc : compileField ⟨r, limit⟩ (Builtin.oneOf.spec (.list options)) autoTrim = .ok c)
    (hd : compileField ⟨r, limit⟩ (Builtin.or.spec (.list (options.map Builtin.eq.spec))) autoTrim =
      .ok d) (v : Value) (siblings : Entries) :
    runChain c v siblings false = runChain d v siblings false ∧
      ∀ o, runChain c v siblings false = .ok o → o.error = none → o.IsChoice options v := by
  rw [compileField_eq_ok_iff hr.plain_of_isAlias, hoff] at hc hd
  obtain ⟨step, rfl, hstep⟩ := hr.run_oneOf hp hc
  obtain ⟨other, rfl, hother⟩ := hr.run_or_eqSpecs hp hd
  refine ⟨?_, fun o h hpass => isChoice_of_onText (hstep v siblings) h hpass⟩
  rw [runChain_cons, runChain_cons, hstep, hother]

/-- Options of which two read the same. -/
def consents : List Value := [.text "yes", .bool true, .text "true"]

theorem oneOf_eq_firstOf_consents :
    Registry.ofBuiltins.Extends Builder.IsAlias ∧ (none : Option Bool).getD false = false ∧
      (∀ option ∈ consents, option.isPrimitive = true) ∧
      ∃ c d, compileField ⟨.ofBuiltins, 20⟩ (Builtin.oneOf.spec (.list consents)) none = .ok c ∧
        compileField ⟨.ofBuiltins, 20⟩ (Builtin.or.spec (.list (consents.map Builtin.eq.spec)))
          none = .ok d ∧
        runChain d (.text "true") [] false = .ok { value := .bool true, written := true } ∧
        ∀ v siblings, runChain c v siblings false = runChain d v siblings false ∧
          ∀ o, runChain c v siblings false = .ok o → o.error = none → o.IsChoice consents v := by
  have hp : ∀ option ∈ consents, option.isPrimitive = true := by decide +kernel
  have hr := Registry.extends_ofBuiltins Builder.IsAlias
  obtain ⟨c, hc⟩ : ∃ c, compileField ⟨.ofBuiltins, 20⟩ (Builtin.oneOf.spec (.list consents)) none =
      .ok c := ⟨_, rfl⟩
  obtain ⟨d, hd, htrue⟩ : ∃ d, compileField ⟨.ofBuiltins, 20⟩
      (Builtin.or.spec (.list (consents.map Builtin.eq.spec))) none = .ok d ∧
      runChain d (.text "true") [] false = .ok { value := .bool true, written := true } := ⟨_, rfl, rfl⟩
  exact ⟨hr, rfl, hp, c, d, hc, hd, htrue, oneOf_eq_firstOf hr rfl hp hc hd⟩

/-- The empty text passes both rules, although no option reads like it. -/
theorem oneOf_passes_blank :
    ∃ c d, compileField ⟨.ofBuiltins, 20⟩ (Builtin.oneOf.spec (.list [.text "a"])) none = .ok c ∧
      compileField ⟨.ofBuiltins, 20⟩ (Builtin.or.spec (.list [Builtin.eq.spec (.text "a")])) none =
        .ok d ∧
      runChain c (.text "") [] false = .ok { value := .text "" } ∧
      runChain d (.text "") [] false = .ok { value := .text "" } ∧
      firstReading? "" [.text "a"] = none := by
  obtain ⟨c, hc, hcrun⟩ : ∃ c, compileField ⟨.ofBuiltins, 20⟩
      (Builtin.oneOf.spec (.list [.text "a"])) none = .ok c ∧
      runChain c (.text "") [] false = .ok { value := .text "" } := ⟨_, rfl, rfl⟩
  obtain ⟨d, hd, hdrun⟩ : ∃ d, compileField ⟨.ofBuiltins, 20⟩
      (Builtin.or.spec (.list [Builtin.eq.spec (.text "a")])) none = .ok d ∧
      runChain d (.text "") [] false = .ok { value := .text "" } := ⟨_, rfl, rfl⟩
  exact ⟨c, d, hc, hd, hcrun, hdrun, by decide +kernel⟩

end FieldRules
