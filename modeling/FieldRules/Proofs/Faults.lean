import FieldRules.Proofs.Compile.Kept
import FieldRules.Proofs.Number.Size
import FieldRules.Proofs.Run.Fields
import FieldRules.Proofs.Value.Equality

/-!
# What can stop a validation

Validating is meant to return what it finds, and it nearly always does. Three things can stop it
instead. A check that needs the plain text of a value is stuck with a whole number that is too large
to have one; a comparison of fields is refused by a signalling not-a-number; and the search for a
pattern ends in a group that stops before it starts. None of the three comes out of nothing: a
number that is too large, or a signalling not-a-number, stands in the input or in a spec, since no
rule makes one (`Leaf.run_ends`), and a search goes wrong only for a pattern of the schema.

So `execute_ends` says of every run that it returns or which of the three is to blame, and where
there is nothing to blame, it returns. It speaks of faults only: that the machine runs out of its
stack on what is nested too deeply, or out of memory on what is too large, is none, and no
statement here excludes it.

What carries the induction is that all values on the way are as harmless as the input and the specs
are: what a check writes is what it was given, a constant of its rule, a text, a number that can
still be written, or a container of such values.
-/

set_option autoImplicit false

namespace FieldRules

/-! ## Values that stop nothing -/

namespace Value

/-- The value is no signalling not-a-number. -/
def IsQuiet (v : Value) : Prop := ∀ negative payload, v ≠ decimal (.nan negative true payload)

/-- The value is short and quiet, as far as that can be expected. -/
structure Harmless (short quiet : Prop) (v : Value) : Prop where
  short : short → v.IsShort
  quiet : quiet → v.IsQuiet

variable {short quiet : Prop} {v : Value}

theorem every_harmless (hshort : short → v.Every IsShort) (hquiet : quiet → v.Every IsQuiet) :
    v.Every (Harmless short quiet) := by
  induction v using induction_parts with
  | h v ih =>
    refine .intro ⟨fun h => (hshort h).here, fun h => (hquiet h).here⟩ fun w hw => ?_
    exact ih w hw (fun h => (hshort h).part hw) fun h => (hquiet h).part hw

/-- A value that is no number and no decimal is harmless. -/
theorem harmless_of_number?_eq_none (hn : v.number? = none) (hd : ∀ d, v ≠ decimal d) :
    v.Harmless short quiet where
  short _ n h := by
    rw [hn] at h
    exact nomatch h
  quiet _ _ _ := hd _

theorem harmless_text (s : String) : (text s).Harmless short quiet where
  short _ := isShort_text s
  quiet _ _ _ := by simp

theorem every_text (s : String) : (text s).Every (Harmless short quiet) :=
  .of_parts_eq_nil (harmless_text s) rfl

theorem every_null : null.Every (Harmless short quiet) :=
  .of_parts_eq_nil (harmless_of_number?_eq_none rfl (by simp)) rfl

theorem every_list {vs : List Value} (h : ∀ v ∈ vs, v.Every (Harmless short quiet)) :
    (list vs).Every (Harmless short quiet) :=
  .intro (harmless_of_number?_eq_none rfl (by simp)) h

theorem every_map {entries : Entries} (h : ∀ e ∈ entries, e.2.Every (Harmless short quiet)) :
    (map entries).Every (Harmless short quiet) := by
  refine .intro (harmless_of_number?_eq_none rfl (by simp)) fun w hw => ?_
  obtain ⟨e, he, rfl⟩ := List.mem_map.mp hw
  exact h e he

/-- A number whose whole part can be written is harmless. -/
theorem every_ofNumber {n : Number} (h : short → n.truncate.natAbs < Numeral.textless) :
    (ofNumber n).Every (Harmless short quiet) := by
  refine .of_parts_eq_nil ⟨fun hs => isShort_ofNumber (h hs), fun _ negative payload => ?_⟩ ?_
  · cases n <;> simp [ofNumber]
  · cases n <;> rfl

theorem Every.trimmed (h : v.Every (Harmless short quiet)) :
    v.trimmed.Every (Harmless short quiet) := by
  cases v with
  | text s => exact every_text _
  | _ => exact h

end Value

section
variable {short quiet : Prop} {entries : Entries}

theorem Entries.every_of_get? (h : (Value.map entries).Every (Value.Harmless short quiet))
    {name : String} {v : Value} (hv : entries.get? name = some v) :
    v.Every (Value.Harmless short quiet) :=
  h.part (mem_parts (mem_of_get? hv))

theorem Entries.every_getD (h : (Value.map entries).Every (Value.Harmless short quiet))
    (name : String) : ((entries.get? name).getD .null).Every (Value.Harmless short quiet) := by
  cases hv : entries.get? name with
  | some v => exact every_of_get? h hv
  | none => exact Value.every_null

theorem Entries.every_trimmed (h : (Value.map entries).Every (Value.Harmless short quiet)) :
    (Value.map entries.trimmed).Every (Value.Harmless short quiet) := by
  refine Value.every_map fun e he => ?_
  obtain ⟨e', he', rfl⟩ := List.mem_map.mp he
  exact (h.part (mem_parts he')).trimmed

end

/-! ## Faults with a cause -/

/-- A fault that has a cause: something is too large, or signals, or has groups out of order. -/
inductive Fault.HasCause (short quiet ordered : Prop) : Fault → Prop
  | numberTooLong : ¬ short → HasCause short quiet ordered .numberTooLong
  | signallingNan : ¬ quiet → HasCause short quiet ordered .signallingNan
  | crossedGroup : ¬ ordered → HasCause short quiet ordered .crossedGroup

variable {short quiet ordered : Prop}

namespace Value

theorem plainText_ends {v : Value} (hp : v.isPrimitive = true) (h : v.Harmless short quiet) :
    Except.Ends (fun _ => True) (Fault.HasCause short quiet ordered) v.plainText := by
  refine ⟨fun _ _ => trivial, fun fault hf => ?_⟩
  have htoo : fault = .numberTooLong := by
    unfold plainText at hf
    split at hf
    · exact nomatch hf
    · exact (Except.error.inj hf).symm
  rw [htoo]
  refine .numberTooLong fun hs => ?_
  obtain ⟨s, htext⟩ := plainText_of_isShort hp (h.short hs)
  rw [htext] at hf
  exact nomatch hf

/-- Only signalling not-a-numbers refuse to be compared. -/
theorem worth?_of_isQuiet {v : Value} (h : v.IsQuiet) : v.worth? ≠ some .signalling := by
  intro hw
  cases v with
  | decimal d =>
    cases d with
    | nan negative signalling payload =>
      cases signalling with
      | true => exact h negative payload rfl
      | false => exact absurd hw (by simp [worth?])
    | _ => exact absurd hw (by simp [worth?])
  | float x => cases x <;> simp [worth?] at hw
  | _ => simp [worth?] at hw

theorem equalAtoms?_isSome {v w : Value} (hv : v.IsQuiet) (hw : w.IsQuiet) :
    (equalAtoms? v w).isSome = true := by
  have hv := worth?_of_isQuiet hv
  have hw := worth?_of_isQuiet hw
  unfold equalAtoms?
  cases hvw : v.worth? with
  | none =>
    cases w.worth? with
    | none =>
      simp only
      split <;> rfl
    | some y => rfl
  | some x =>
    rw [hvw] at hv
    cases hww : w.worth? with
    | none => rfl
    | some y =>
      rw [hww] at hw
      cases x <;> cases y <;> simp_all [Worth.equal?]

theorem equal_ends {v w : Value} (hp : v.isPrimitive = true) (hv : v.Harmless short quiet)
    (hw : w.Harmless short quiet) :
    Except.Ends (fun _ => True) (Fault.HasCause short quiet ordered) (v.equal w) := by
  refine ⟨fun _ _ => trivial, fun fault hf => ?_⟩
  unfold equal at hf
  rw [equal?_of_isPrimitive hp] at hf
  split at hf
  · exact nomatch hf
  · rename_i hnone
    rw [← Except.error.inj hf]
    refine .signallingNan fun hq => ?_
    have hsome := equalAtoms?_isSome (hv.quiet hq) (hw.quiet hq)
    rw [hnone] at hsome
    exact nomatch hsome

end Value

/-! ## Leaves -/

/-- What the effect writes, if it does, is harmless. -/
def Effect.Writes (short quiet : Prop) (effect : Effect) : Prop :=
  ∀ v, effect.write = some v → v.Every (Value.Harmless short quiet)

/-- The computation has an effect that writes harmless values, or a fault that has a cause. -/
abbrev EffectEnds (short quiet ordered : Prop) (x : Except Fault Effect) : Prop :=
  Except.Ends (Effect.Writes short quiet) (Fault.HasCause short quiet ordered) x

namespace Effect

@[simp] theorem writes_pass : pass.Writes short quiet := fun _ h => nomatch h

@[simp] theorem writes_fail (code : Code) : (fail code).Writes short quiet := fun _ h => nomatch h

theorem writes_error (error : Value) : ({ error } : Effect).Writes short quiet :=
  fun _ h => nomatch h

theorem writes_wrote {v : Value} (h : v.Every (Value.Harmless short quiet)) :
    (wrote v).Writes short quiet := by
  intro w hw
  rw [← Option.some.inj hw]
  exact h

end Effect

namespace Leaf

open Effect

variable {v : Value} {siblings : Entries}

theorem onText_ends {check : String → Except Fault Effect} (hv : v.Harmless short quiet)
    (h : ∀ s, EffectEnds short quiet ordered (check s)) :
    EffectEnds short quiet ordered (onText v check) := by
  unfold onText
  split
  · exact .ok writes_pass
  · split
    case isTrue => exact .ok (writes_fail _)
    case isFalse hp =>
      rw [Bool.not_eq_true', Bool.not_eq_false] at hp
      exact (Value.plainText_ends hp hv).bind fun s _ => h s

theorem checkText_ends {test : TextTest} (s : String)
    (h : ∀ p trace, test = .containing p → p.search? s = some trace → ordered →
      trace.isOrdered = true) :
    EffectEnds short quiet ordered (checkText test s) := by
  have hviolation : Except.Ends (fun _ => True) (Fault.HasCause short quiet ordered)
      (test.violation? s) := by
    refine ⟨fun _ _ => trivial, fun fault hf => ?_⟩
    unfold TextTest.violation? at hf
    split at hf
    case h_6 p =>
      split at hf
      · exact nomatch hf
      · rename_i trace htrace
        split at hf
        · exact nomatch hf
        · rename_i hcrossed
          rw [← Except.error.inj hf]
          exact .crossedGroup fun ho => hcrossed (h p trace rfl htrace ho)
    all_goals exact nomatch hf
  refine hviolation.bind fun violation _ => ?_
  cases violation with
  | some code => exact .ok (writes_fail code)
  | none => exact .ok (writes_wrote (Value.every_text s))

/-- A number is written as it is or as its whole part, and neither is longer than what was given. -/
theorem writes_checkNumber (nonNumber : Code) (whole : Bool) (test : NumberTest)
    (hv : v.Harmless short quiet) : (checkNumber nonNumber whole test v).Writes short quiet := by
  unfold checkNumber
  split
  · exact writes_fail _
  · rename_i n hn
    split
    · exact writes_fail _
    · simp only
      split
      · exact writes_fail _
      · refine writes_wrote (Value.every_ofNumber fun hs => ?_)
        have hlt := hv.short hs n hn
        cases whole with
        | true =>
          show (Scientific.truncate (.ofInt n.truncate)).natAbs < _
          rw [Scientific.truncate_ofInt]
          exact hlt
        | false => exact hlt

/-- **A check without parts has an effect, unless there is a cause why not**, and it writes nothing
that is worse than its value and its constants. -/
theorem run_ends {leaf : Leaf} (hv : v.Every (Value.Harmless short quiet))
    (hsiblings : (Value.map siblings).Every (Value.Harmless short quiet))
    (hconstants : ∀ w ∈ leaf.constants, w.Every (Value.Harmless short quiet))
    (hpattern : ∀ p s trace, leaf = .text (.containing p) → p.search? s = some trace → ordered →
      trace.isOrdered = true) :
    EffectEnds short quiet ordered (leaf.run v siblings) := by
  cases leaf with
  | text test =>
    refine onText_ends hv.here fun s => checkText_ends s fun p trace hp => ?_
    exact hpattern p s trace (by rw [hp])
  | eq allowed expected =>
    refine onText_ends hv.here fun s => .ok ?_
    split
    · exact writes_wrote (hconstants allowed (List.mem_singleton.mpr rfl))
    · exact writes_fail _
  | oneOf options =>
    refine onText_ends hv.here fun s => .ok ?_
    split
    · rename_i option hoption
      obtain ⟨before, after, hsplit, -⟩ := List.lookup_eq_some_iff.mp hoption
      refine writes_wrote (hconstants option (List.mem_map.mpr ⟨(s, option), ?_, rfl⟩))
      rw [hsplit]
      simp
    · exact writes_fail _
  | format test =>
    refine onText_ends hv.here fun s => .ok ?_
    split <;> simp
  | number nonNumber whole test =>
    refine .ok ?_
    split
    · exact writes_pass
    · split
      · exact writes_fail _
      · exact writes_checkNumber nonNumber whole test hv.here
  | equalTo field =>
    unfold run
    simp only
    split
    · exact .ok writes_pass
    · split
      · exact .ok (writes_fail _)
      · rename_i hp
        rw [Bool.not_eq_true', Bool.not_eq_false] at hp
        refine (Value.equal_ends hp hv.here (Entries.every_getD hsiblings field).here).bind ?_
        intro same _
        refine .ok ?_
        split <;> simp
  | modify modifier =>
    refine .ok ?_
    split
    · exact writes_wrote (Value.every_text _)
    · exact writes_pass
  | default value =>
    refine .ok ?_
    split
    · exact writes_wrote (hconstants value (List.mem_singleton.mpr rfl))
    · exact writes_pass
  | _ =>
    -- The others decide by a few tests of the value, and write nothing.
    refine .ok ?_
    repeat' split
    all_goals simp

end Leaf

/-! ## Everything else -/

/-- A check has an effect unless there is a cause why not, and writes what is harmless. -/
def Check.Sound (short quiet ordered : Prop) (check : Check) : Prop :=
  ∀ v siblings, v.Every (Value.Harmless short quiet) →
    (Value.map siblings).Every (Value.Harmless short quiet) →
    EffectEnds short quiet ordered (check.run v siblings)

/-- A chain has an outcome unless there is a cause why not, and ends with a harmless value. -/
def Chain.Sound (short quiet ordered : Prop) (chain : Chain) : Prop :=
  ∀ v siblings written, v.Every (Value.Harmless short quiet) →
    (Value.map siblings).Every (Value.Harmless short quiet) →
    Except.Ends (fun o => o.value.Every (Value.Harmless short quiet))
      (Fault.HasCause short quiet ordered) (runChain chain v siblings written)

/-- A schema has a report unless there is a cause why not, with an output of harmless values. -/
def CompiledSchema.Sound (short quiet ordered : Prop) (schema : CompiledSchema) : Prop :=
  ∀ data, (Value.map data).Every (Value.Harmless short quiet) →
    Except.Ends (fun report => ∀ e ∈ report.output, e.2.Every (Value.Harmless short quiet))
      (Fault.HasCause short quiet ordered) (schema.execute data)

theorem Chain.sound_of_steps {chain : Chain}
    (h : ∀ step ∈ chain, step.check.Sound short quiet ordered) :
    Chain.Sound short quiet ordered chain := by
  intro v siblings written hv hsiblings
  induction chain generalizing v written with
  | nil =>
    rw [runChain_nil]
    exact .ok hv
  | cons step rest ih =>
    rw [runChain_cons]
    refine (h step List.mem_cons_self v siblings hv hsiblings).bind fun effect heffect => ?_
    split
    · exact .ok hv
    · refine ih (fun s hs => h s (List.mem_cons_of_mem _ hs)) _ _ ?_
      cases hw : effect.write with
      | some w => exact heffect w hw
      | none => exact hv

theorem CompiledSchema.sound_of_fields {schema : CompiledSchema}
    (h : ∀ f ∈ schema.fields, Chain.Sound short quiet ordered f.2) :
    schema.Sound short quiet ordered := by
  intro data hdata
  rw [CompiledSchema.execute_eq]
  have hsnap : (Value.map (schema.snapshot data)).Every (Value.Harmless short quiet) := by
    unfold CompiledSchema.snapshot
    split
    · exact Entries.every_trimmed hdata
    · exact hdata
  generalize schema.snapshot data = snapshot at hsnap
  generalize schema.fields = fields at h
  induction fields with
  | nil =>
    rw [runFields_nil]
    exact .ok fun e he => absurd he (by simp)
  | cons field rest ih =>
    obtain ⟨name, chain⟩ := field
    rw [runFields_cons]
    have hfield := h (name, chain) List.mem_cons_self _ snapshot false
      (Entries.every_getD hsnap name) hsnap
    refine hfield.bind fun o ho => ?_
    refine (ih fun f hf => h f (List.mem_cons_of_mem _ hf)).map fun report hreport e he => ?_
    rcases Report.mem_output_withField.mp he with he | ⟨-, -, -, hvalue⟩
    · exact hreport e he
    · rw [← hvalue]
      exact ho

namespace Check

theorem sound_autoTrim : autoTrim.Sound short quiet ordered := by
  intro v siblings hv hsiblings
  rw [run_autoTrim]
  exact Leaf.run_ends hv hsiblings (fun w hw => absurd hw (by simp [Leaf.constants])) (by simp)

/-- What a passed chain comes to is what it wrote, if it did. -/
theorem writes_ofPassed {o : Outcome} (h : o.value.Every (Value.Harmless short quiet)) :
    (if o.written then Effect.wrote o.value else .pass).Writes short quiet := by
  split
  · exact Effect.writes_wrote h
  · exact Effect.writes_pass

theorem sound_aliased {chain : Chain} (h : Chain.Sound short quiet ordered chain)
    (fixed : Option String) : (aliased fixed chain).Sound short quiet ordered := by
  intro v siblings hv hsiblings
  rw [run]
  refine (h v siblings false hv hsiblings).bind fun o ho => ?_
  split
  · exact .ok (Effect.writes_error _)
  · exact .ok (writes_ofPassed ho)

theorem sound_firstOf {chains : List Chain}
    (h : ∀ chain ∈ chains, Chain.Sound short quiet ordered chain) :
    (firstOf chains).Sound short quiet ordered := by
  intro v siblings hv hsiblings
  rw [run]
  generalize Value.null = last
  induction chains generalizing last with
  | nil =>
    rw [runFirst]
    exact .ok (Effect.writes_error _)
  | cons chain rest ih =>
    rw [runFirst]
    refine (h chain List.mem_cons_self v siblings false hv hsiblings).bind fun o ho => ?_
    split
    · exact ih (fun c hc => h c (List.mem_cons_of_mem _ hc)) _
    · exact .ok (writes_ofPassed ho)

/-! ### Objects and lists -/

/-- The computation has an outcome with a harmless value, or a fault that has a cause. -/
abbrev ItemEnds (short quiet ordered : Prop) (x : Except Fault ItemOutcome) : Prop :=
  Except.Ends (fun o => o.1.Every (Value.Harmless short quiet))
    (Fault.HasCause short quiet ordered) x

theorem writes_ofItem {o : ItemOutcome} (h : o.1.Every (Value.Harmless short quiet)) :
    (Effect.ofItem o).Writes short quiet := by
  unfold Effect.ofItem
  split
  · exact Effect.writes_wrote h
  · exact Effect.writes_error _

theorem writes_ofItems {os : List ItemOutcome}
    (h : ∀ o ∈ os, o.1.Every (Value.Harmless short quiet)) :
    (Effect.ofItems os).Writes short quiet := by
  unfold Effect.ofItems
  split
  · refine Effect.writes_wrote (Value.every_list fun v hv => ?_)
    obtain ⟨o, ho, rfl⟩ := List.mem_map.mp hv
    exact h o ho
  · exact Effect.writes_error _

variable {v : Value}

theorem checkItems_ends {check : Value → Except Fault ItemOutcome}
    (hv : v.Every (Value.Harmless short quiet))
    (h : ∀ item, item.Every (Value.Harmless short quiet) →
      ItemEnds short quiet ordered (check item)) :
    EffectEnds short quiet ordered (checkItems check v) := by
  unfold checkItems
  split
  · exact .ok Effect.writes_pass
  · split
    · exact .ok (Effect.writes_fail _)
    · rename_i items hitems
      have hends : Except.Ends (fun os => ∀ o ∈ os, o.1.Every (Value.Harmless short quiet))
          (Fault.HasCause short quiet ordered) (items.mapM check) := by
        refine Except.Ends.mapM fun item hm => h item (hv.part ?_)
        rw [Value.parts_of_items? hitems]
        exact hm
      exact hends.bind fun outcomes ho => .ok (writes_ofItems ho)

theorem checkObject_ends {schema : CompiledSchema} (h : schema.Sound short quiet ordered)
    (hv : v.Every (Value.Harmless short quiet)) :
    ItemEnds short quiet ordered (checkObject schema.execute v) := by
  unfold checkObject
  cases v with
  | map entries =>
    refine (h entries hv).bind fun report hreport => .ok (Value.every_map fun e he => ?_)
    obtain ⟨e', he', rfl⟩ := List.mem_map.mp he
    exact hreport e' he'
  | _ => exact .ok hv

theorem selectorText_ends (selector : String) (hv : v.Every (Value.Harmless short quiet)) :
    Except.Ends (fun _ => True) (Fault.HasCause short quiet ordered) (selectorText selector v) := by
  unfold selectorText
  cases v with
  | map entries =>
    simp only [Value.entries?]
    split
    · rename_i hp
      exact (Value.plainText_ends hp (Entries.every_getD hv selector).here).map fun _ _ => trivial
    · exact .ok trivial
  | _ => exact .ok trivial

theorem runVariant_ends {variants : List (String × CompiledSchema)} (chosen : Option String)
    (h : ∀ e ∈ variants, e.2.Sound short quiet ordered)
    (hv : v.Every (Value.Harmless short quiet)) :
    ItemEnds short quiet ordered (runVariant variants chosen v) := by
  induction variants with
  | nil =>
    rw [runVariant]
    exact .ok hv
  | cons e rest ih =>
    obtain ⟨name, schema⟩ := e
    rw [runVariant]
    split
    · exact checkObject_ends (h (name, schema) List.mem_cons_self) hv
    · exact ih fun e he => h e (List.mem_cons_of_mem _ he)

theorem sound_each {chain : Chain} (h : Chain.Sound short quiet ordered chain) :
    (each chain).Sound short quiet ordered := by
  intro v siblings hv hsiblings
  rw [run]
  refine checkItems_ends hv fun item hitem => ?_
  exact (h item siblings false hitem hsiblings).bind fun o ho => .ok ho

theorem sound_object {schema : CompiledSchema} (h : schema.Sound short quiet ordered) :
    (object schema).Sound short quiet ordered := by
  intro v siblings hv _
  rw [run]
  split
  · exact .ok Effect.writes_pass
  · exact (checkObject_ends h hv).bind fun o ho => .ok (writes_ofItem ho)

theorem sound_eachObject {schema : CompiledSchema} (h : schema.Sound short quiet ordered) :
    (eachObject schema).Sound short quiet ordered := by
  intro v siblings hv _
  rw [run]
  exact checkItems_ends hv fun item hitem => checkObject_ends h hitem

theorem sound_variant {variants : List (String × CompiledSchema)}
    (h : ∀ e ∈ variants, e.2.Sound short quiet ordered) (selector : String) :
    (variant selector variants).Sound short quiet ordered := by
  intro v siblings hv _
  rw [run]
  split
  · exact .ok Effect.writes_pass
  · refine (selectorText_ends selector hv).bind fun chosen _ => ?_
    exact (runVariant_ends chosen h hv).bind fun o ho => .ok (writes_ofItem ho)

theorem sound_eachVariant {variants : List (String × CompiledSchema)}
    (h : ∀ e ∈ variants, e.2.Sound short quiet ordered) (selector : String) :
    (eachVariant selector variants).Sound short quiet ordered := by
  intro v siblings hv _
  rw [run]
  refine checkItems_ends hv fun item hitem => ?_
  exact (selectorText_ends selector hitem).bind fun chosen _ => runVariant_ends chosen h hitem

end Check

/-- A check that is made of sound parts is sound, if its constants are harmless and its pattern is
in order. -/
theorem Builder.Makes.sound {builder : Builder} {args : List Value} {check : Check}
    (hm : builder.Makes (.knowing (CompiledSchema.Sound short quiet ordered)
      (Chain.Sound short quiet ordered)) args check)
    (hconstants : ∀ leaf, check = .leaf leaf → ∀ w ∈ leaf.constants,
      w.Every (Value.Harmless short quiet))
    (hpattern : ∀ p s trace, check = .leaf (.text (.containing p)) →
      p.search? s = some trace → ordered → trace.isOrdered = true) :
    check.Sound short quiet ordered := by
  cases hm with
  | leaf _ =>
    intro v siblings hv hsiblings
    rw [Check.run]
    refine Leaf.run_ends hv hsiblings (hconstants _ rfl) fun p s trace hp => ?_
    exact hpattern p s trace (by rw [hp])
  | object _ hc => exact Check.sound_object hc
  | variant h =>
    refine Check.sound_variant (fun v hv => ?_) _
    obtain ⟨_, -, hc⟩ := h v hv
    exact hc
  | each _ hc => exact Check.sound_each hc
  | eachObject _ hc => exact Check.sound_eachObject hc
  | eachVariant h =>
    refine Check.sound_eachVariant (fun v hv => ?_) _
    obtain ⟨_, -, hc⟩ := h v hv
    exact hc
  | firstOf h =>
    refine Check.sound_firstOf fun chain hchain => ?_
    obtain ⟨_, -, hc⟩ := h chain hchain
    exact hc
  | aliased _ hc => exact Check.sound_aliased hc _

/-! ## Schemas and inputs that stop nothing -/

/-- A property holds throughout an input, and throughout the specs of a schema. -/
def Registry.Throughout (r : Registry) (schema : Value) (data : Entries) (P : Value → Prop) :
    Prop :=
  (Value.map data).Every P ∧ ∀ spec, r.Reaches (.schema schema) (.spec spec) → spec.Every P

/-- A schema has texts searched for a pattern. -/
def Registry.Searches (r : Registry) (root : SchemaPart) (pattern : Pattern) : Prop :=
  ∃ (spec : Value) (invocation : Invocation) (source flags : Value),
    r.Reaches root (.spec spec) ∧ invocation.IsIn spec ∧
      r.find? invocation.name = some (.builtin .like) ∧
      Builtin.patternArgs? invocation.args = some (source, flags) ∧
      Arguments.pattern source flags = .ok pattern

/-- No search for a pattern of a schema ends in a group that stops before it starts. -/
def Registry.Ordered (r : Registry) (root : SchemaPart) : Prop :=
  ∀ pattern, r.Searches root pattern → ∀ s trace, pattern.search? s = some trace →
    trace.isOrdered = true

section
variable {r : Registry} {autoTrim : Bool} {root : SchemaPart}

/-- What is compiled from a part of a schema is sound, as far as the specs of the schema are
harmless and its patterns in order. -/
theorem sound_of_ofLevels (hr : r.Extends Builder.IsAlias)
    (hspecs : ∀ spec, r.Reaches root (.spec spec) → spec.Every (Value.Harmless short quiet))
    (hordered : ordered → r.Ordered root) (n : Nat) :
    (∀ schema compiled, (Compilation.ofLevels r autoTrim n).schema schema compiled →
      r.Reaches root (.schema schema) → compiled.Sound short quiet ordered) ∧
    ∀ spec chain, (Compilation.ofLevels r autoTrim n).field spec chain →
      r.Reaches root (.spec spec) → Chain.Sound short quiet ordered chain := by
  refine hr.compiled_induction Check.sound_autoTrim ?_ (fun _ => Chain.sound_of_steps)
    (fun _ _ => CompiledSchema.sound_of_fields) n
  intro spec invocation builder check hreach hin hb hmakes hkeeps
  refine hmakes.sound ?_ ?_
  · -- A constant is an argument of a rule of the spec, or part of one.
    intro leaf hleaf w hw
    obtain ⟨invocations, hspec, hi⟩ := hin
    have hargs := Invocation.args_of_hereditary (Value.Hereditary.every _) hspec
      (hspecs spec hreach) invocation hi
    obtain ⟨arg, harg, rfl | hpart⟩ := hkeeps.constants leaf hleaf w hw
    · exact hargs w harg
    · exact (hargs arg harg).part hpart
  · intro p s trace hp hsearch ho
    obtain ⟨rfl, source, flags, hargs, hread⟩ := hkeeps.pattern p hp
    exact hordered ho p ⟨spec, invocation, source, flags, hreach, hin, hb, hargs, hread⟩ s
      trace hsearch

end

/-- **A validation returns, or there is something to blame**: a number that is too large to be
written, or a signalling not-a-number, in the input or in a spec of the schema, or a pattern of the
schema with a search that ends out of order. No other fault ever stops one, whatever the input is
and however the rules are nested; the stack and the memory of the machine are not described, and are
taken to suffice. -/
theorem execute_ends {env : CompileEnv} (hr : env.registry.Extends Builder.IsAlias)
    {schema : Value} {autoTrim : Option Bool} {compiled : CompiledSchema}
    (hc : compileSchema env schema autoTrim = .ok compiled) (data : Entries) :
    (∃ report, compiled.execute data = .ok report) ∨
      (compiled.execute data = .error .numberTooLong ∧
        ¬ env.registry.Throughout schema data Value.IsShort) ∨
      (compiled.execute data = .error .signallingNan ∧
        ¬ env.registry.Throughout schema data Value.IsQuiet) ∨
      (compiled.execute data = .error .crossedGroup ∧ ¬ env.registry.Ordered (.schema schema)) := by
  rw [compileSchema_eq_ok_iff hr.plain_of_isAlias] at hc
  have hspecs : ∀ spec, env.registry.Reaches (.schema schema) (.spec spec) →
      spec.Every (Value.Harmless (env.registry.Throughout schema data Value.IsShort)
        (env.registry.Throughout schema data Value.IsQuiet)) :=
    fun spec hreach => Value.every_harmless (fun h => h.2 spec hreach) fun h => h.2 spec hreach
  have hdata : (Value.map data).Every
      (Value.Harmless (env.registry.Throughout schema data Value.IsShort)
        (env.registry.Throughout schema data Value.IsQuiet)) :=
    Value.every_harmless (fun h => h.1) fun h => h.1
  have hends := (sound_of_ofLevels hr hspecs id env.limit.toNat).1 schema compiled hc .refl data
    hdata
  cases he : compiled.execute data with
  | ok report => exact Or.inl ⟨report, rfl⟩
  | error fault =>
    right
    cases hends.2 fault he with
    | numberTooLong h => exact Or.inl ⟨rfl, h⟩
    | signallingNan h => exact Or.inr (Or.inl ⟨rfl, h⟩)
    | crossedGroup h => exact Or.inr (Or.inr ⟨rfl, h⟩)

/-! ## Two inputs that stop a validation -/

/-- A coupon with a short code, and an amount that is repeated. -/
def coupon : Value :=
  .map [(.text "code", .map [(.text "max_length", .int 8)]),
    (.text "again", .map [(.text "equal_to_field", .text "amount")])]

/-- What the schema of a coupon compiles to. -/
def compiledCoupon : CompiledSchema where
  fields := [("code", [⟨⟨"max_length", [.int 8]⟩, .leaf (.text (.atMost 8))⟩]),
    ("again", [⟨⟨"equal_to_field", [.text "amount"]⟩, .leaf (.equalTo "amount")⟩])]
  autoTrim := false

theorem compileSchema_coupon :
    compileSchema { registry := .ofBuiltins, limit := 20 } coupon = .ok compiledCoupon := rfl

/-- An amount that signals. -/
def signallingAmount : Entries :=
  [(.text "again", .int 1), (.text "amount", .decimal (.nan false true 0))]

theorem execute_ends_coupon :
    Registry.ofBuiltins.Extends Builder.IsAlias ∧
      compileSchema { registry := .ofBuiltins, limit := 20 } coupon = .ok compiledCoupon ∧
      compiledCoupon.execute signallingAmount = .error .signallingNan ∧
      ¬ Registry.ofBuiltins.Throughout coupon signallingAmount Value.IsQuiet := by
  have hr := Registry.extends_ofBuiltins Builder.IsAlias
  have hstop : compiledCoupon.execute signallingAmount = .error .signallingNan := rfl
  refine ⟨hr, compileSchema_coupon, hstop, ?_⟩
  rcases execute_ends hr compileSchema_coupon signallingAmount with
    ⟨report, h⟩ | ⟨h, -⟩ | ⟨-, hquiet⟩ | ⟨h, -⟩
  · rw [hstop] at h
    exact nomatch h
  · rw [hstop] at h
    exact nomatch h
  · exact hquiet
  · rw [hstop] at h
    exact nomatch h

/-- **A number that is too large stops every check of plain texts.** -/
theorem Leaf.onText_tooLarge {i : Int} (h : Numeral.textless ≤ i.natAbs)
    (check : String → Except Fault Effect) : onText (.int i) check = .error .numberTooLong := by
  have htext : (Value.int i).plainText? = none := (Numeral.wholeText?_eq_none_iff i).mpr h
  show (Value.int i).plainText >>= check = _
  rw [Value.plainText, htext]
  rfl

theorem execute_coupon_tooLarge {i : Int} (h : Numeral.textless ≤ i.natAbs) :
    compiledCoupon.execute [(.text "code", .int i)] = .error .numberTooLong := by
  rw [CompiledSchema.execute_eq, compiledCoupon, runFields_cons, runField, runChain_cons, Check.run]
  show (Leaf.onText (.int i) _ >>= _) >>= _ = _
  rw [Leaf.onText_tooLarge h]
  rfl

/-- Neither a code that is a huge number nor an amount that signals is reported as an error. -/
theorem execute_stops :
    Registry.ofBuiltins.Extends Builder.IsAlias ∧
      compileSchema { registry := .ofBuiltins, limit := 20 } coupon = .ok compiledCoupon ∧
      compiledCoupon.execute [(.text "code", .int Numeral.textless)] = .error .numberTooLong ∧
      compiledCoupon.execute signallingAmount = .error .signallingNan := by
  refine ⟨Registry.extends_ofBuiltins _, compileSchema_coupon, ?_, rfl⟩
  exact execute_coupon_tooLarge (Nat.le_of_eq (Int.natAbs_natCast _).symm)

end FieldRules
