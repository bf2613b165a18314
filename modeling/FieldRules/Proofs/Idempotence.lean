import FieldRules.Proofs.Catalogue
import FieldRules.Proofs.Compile.Kept
import FieldRules.Proofs.Decomposition
import FieldRules.Proofs.Run.Format
import FieldRules.Proofs.Run.Items
import FieldRules.Proofs.Run.Trim

/-!
# Validating an output again

A schema does not only check values, it writes others in their place: the number that a text
denotes, the option that a text stands for, a list for a tuple, an object without what is not
described, a default. Here it is shown that it is content with what it has written itself. Where
every spec is a single rule, at every depth, an output that was accepted is accepted again, and
nothing in it changes (`execute_output`).

A rule whose effect depends on the other fields, or which of several schemas it applies to a value,
is left out, and so are the rules that change the case of a text, which are not idempotent. All
others *settle* a value: if they pass, they pass on what they have made of it, and make the same of
it. For lists and objects it is enough that this holds of what is inside, and so the proof goes up
from single checks to chains, to fields and to schemas.
-/

set_option autoImplicit false

namespace FieldRules

/-! ## Schemas of single rules -/

/-- A rule without parts that depends on nothing but the value, and makes no difference to a value
that it has passed. -/
def Builtin.isSteady : Builtin → Bool
  | equalToField | toLower | toUpper => false
  | rule => !rule.isStructural

mutual

/-- A schema in which every spec is a single rule. -/
inductive SingleSchema : Value → Prop
  | intro {entries : Entries} :
    entries.IsMapping → (∀ e ∈ entries, SingleSpec e.2) → SingleSchema (.map entries)

/-- A spec that is a single rule: one that is steady, or one that validates an object or the items
of a list, by a schema or a spec in which every spec is again a single rule. -/
inductive SingleSpec : Value → Prop
  | steady {spec : Value} {args : List Value} {rule : Builtin} :
    Invocation.ofSpec spec = .ok [⟨rule.name, args⟩] → rule.isSteady = true → SingleSpec spec
  | object {spec schema : Value} :
    Invocation.ofSpec spec = .ok [⟨Builtin.nestedObject.name, [schema]⟩] → SingleSchema schema →
    SingleSpec spec
  | objects {spec schema : Value} :
    Invocation.ofSpec spec = .ok [⟨Builtin.listOfObjects.name, [schema]⟩] → SingleSchema schema →
    SingleSpec spec
  | items {spec inner : Value} {args : List Value} :
    Invocation.ofSpec spec = .ok [⟨Builtin.listOf.name, args⟩] →
    Builtin.elementSpec? args = some inner → SingleSpec inner → SingleSpec spec

end

/-! ## Checks that settle values -/

/-- If the check passes, it passes again on the value that is there then, among any siblings, and
leaves it as it is; and it writes only if it wrote before. -/
def Check.Settles (check : Check) : Prop :=
  ∀ (v : Value) (siblings : Entries) (effect : Effect),
    check.run v siblings = .ok effect → effect.error.truthy = false → ∀ siblings' : Entries,
      ∃ again, check.run (effect.write.getD v) siblings' = .ok again ∧
        again.error.truthy = false ∧
        again.write.getD (effect.write.getD v) = effect.write.getD v ∧
        (effect.write = none → again.write = none)

/-- If the chain passes, it passes again on the value that comes out, and leaves it as it is. -/
def Chain.Settles (chain : Chain) : Prop :=
  ∀ (v : Value) (siblings : Entries) (o : Outcome),
    runChain chain v siblings false = .ok o → o.error = none → ∀ siblings' : Entries,
      ∃ written, runChain chain o.value siblings' false = .ok { value := o.value, written } ∧
        (o.written = false → written = false)

/-- If the schema has no error, it has the same report for its own output. -/
def CompiledSchema.Settles (schema : CompiledSchema) : Prop :=
  ∀ (data : Entries) (report : Report), schema.execute data = .ok report → report.errors = [] →
    schema.execute (Entries.ofNamed report.output) = .ok report

namespace Check

/-- A check that passes with the same effect on what it has made of a value settles it. -/
theorem settles_of_same {check : Check}
    (h : ∀ (v : Value) (siblings : Entries) (effect : Effect),
      check.run v siblings = .ok effect → effect.error.truthy = false → ∀ siblings' : Entries,
        check.run (effect.write.getD v) siblings' = .ok effect) : check.Settles := by
  intro v siblings effect hrun hpass siblings'
  refine ⟨effect, h v siblings effect hrun hpass siblings', hpass, ?_, id⟩
  cases effect.write <;> rfl

/-- A check that never writes and does not look at siblings settles values. -/
theorem settles_of_silent {check : Check}
    (hsame : ∀ (v : Value) (a b : Entries), check.run v a = check.run v b)
    (hsilent : ∀ (v : Value) (siblings : Entries) (effect : Effect),
      check.run v siblings = .ok effect → effect.write = none) : check.Settles := by
  refine settles_of_same fun v siblings effect hrun _ siblings' => ?_
  rw [hsilent v siblings effect hrun, Option.getD_none, hsame v siblings' siblings, hrun]

end Check

/-! ### Texts and numbers -/

/-- A change that is made twice is made once, except for the changes of case. -/
theorem Modifier.apply_apply {modifier : Modifier} (hl : modifier ≠ .lower)
    (hu : modifier ≠ .upper) (s : String) :
    modifier.apply (modifier.apply s) = modifier.apply s := by
  cases modifier with
  | lower => exact absurd rfl hl
  | upper => exact absurd rfl hu
  | trim => exact Text.trim_trim s
  | without chars => simp [apply, List.filter_filter]
  | only chars => simp [apply, List.filter_filter]

namespace Leaf

variable {v : Value} {siblings : Entries} {effect : Effect}

/-- The check of a number settles on it: the number that is written is of the right kind, and passes
the same test. -/
theorem checkNumber_again {nonNumber : Code} {whole : Bool} {test : NumberTest}
    (h : (checkNumber nonNumber whole test v).error.truthy = false) :
    ∃ n, checkNumber nonNumber whole test v = .wrote (.ofNumber n) ∧
      checkNumber nonNumber whole test (.ofNumber n) = .wrote (.ofNumber n) := by
  have hfail : ∀ code : Code, (Effect.fail code).error.truthy ≠ false := by simp
  unfold checkNumber at h ⊢
  cases hn : v.number? with
  | none =>
    rw [hn] at h
    exact absurd h (hfail _)
  | some n =>
    rw [hn] at h
    simp only [Value.number?_ofNumber] at h ⊢
    by_cases hw : (whole && !n.isWhole) = true
    · rw [if_pos hw] at h
      exact absurd h (hfail _)
    · rw [if_neg hw] at h ⊢
      -- What is written is `m`, which has the right kind and is truncated to itself.
      generalize hm : (if whole then Number.whole n.truncate else n) = m at h ⊢
      have hkind : ¬ (whole && !m.isWhole) = true := by
        cases whole with
        | false => simp
        | true =>
          rw [if_pos rfl] at hm
          rw [← hm]
          simp [Number.isWhole, Number.exact, Scientific.isWhole_ofInt]
      have hkeeps : (if whole then Number.whole m.truncate else m) = m := by
        cases whole with
        | false => rfl
        | true =>
          rw [if_pos rfl] at hm ⊢
          rw [← hm]
          simp [Number.truncate, Number.exact, Scientific.truncate_ofInt]
      cases htest : test.violation? m with
      | some code =>
        rw [htest] at h
        exact absurd h (hfail _)
      | none => exact ⟨m, rfl, by rw [if_neg hkind, hkeeps, htest]⟩

/-- A check of plain texts passes on a missing value, or it reads the text and passes on that. -/
theorem onText_eq_ok {check : String → Except Fault Effect} (h : onText v check = .ok effect)
    (hpass : effect.error.truthy = false) :
    effect = .pass ∨ ∃ s, v.plainText = .ok s ∧ check s = .ok effect := by
  unfold onText at h
  split at h
  · exact Or.inl (Except.ok.inj h).symm
  · split at h
    · rw [← Except.ok.inj h] at hpass
      simp at hpass
    · exact Or.inr (Except.bind_eq_ok.mp h)

/-- A check of plain texts settles values if it is content with the text of what it writes. -/
theorem settles_onText {leaf : Leaf} {check : String → Except Fault Effect}
    (hrun : ∀ (v : Value) (siblings : Entries), leaf.run v siblings = onText v check)
    (hcheck : ∀ (s : String) (effect : Effect), check s = .ok effect →
      effect.error.truthy = false → ∃ w t, effect = .wrote w ∧ w.isPrimitive = true ∧
        w.plainText = .ok t ∧ check t = .ok effect) : (Check.leaf leaf).Settles := by
  have hrun' : ∀ v siblings, (Check.leaf leaf).run v siblings = onText v check := by
    intro v siblings
    rw [Check.run, hrun]
  intro v siblings effect h hpass siblings'
  rw [hrun'] at h
  rcases onText_eq_ok h hpass with rfl | ⟨s, -, hs⟩
  · exact ⟨.pass, by rw [hrun']; exact h, rfl, rfl, fun _ => rfl⟩
  · obtain ⟨w, t, rfl, hprimitive, ht, hagain⟩ := hcheck s effect hs hpass
    rw [hrun']
    show ∃ again, onText w check = .ok again ∧ again.error.truthy = false ∧
      again.write.getD w = w ∧ _
    unfold onText
    by_cases hm : w.isMissing = true
    · exact ⟨.pass, by rw [if_pos hm], rfl, rfl, fun h => absurd h (Option.some_ne_none w)⟩
    · refine ⟨.wrote w, ?_, rfl, rfl, fun h => absurd h (Option.some_ne_none w)⟩
      rw [if_neg hm, if_neg (by simp [hprimitive]), ht, Except.ok_bind, hagain]

theorem settles_text (test : TextTest) : (Check.leaf (.text test)).Settles := by
  refine settles_onText (fun _ _ => rfl) fun s effect h hpass => ?_
  obtain ⟨violation, hviolation, heffect⟩ := Except.bind_eq_ok.mp h
  cases violation with
  | some code =>
    rw [← Except.ok.inj heffect] at hpass
    simp at hpass
  | none =>
    rw [← Except.ok.inj heffect] at h ⊢
    exact ⟨.text s, s, rfl, rfl, rfl, h⟩

theorem settles_eq {allowed : Value} {expected : String} (hp : allowed.isPrimitive = true)
    (ht : allowed.plainText = .ok expected) : (Check.leaf (.eq allowed expected)).Settles := by
  refine settles_onText (fun _ _ => rfl) fun s effect h hpass => ?_
  by_cases hs : s = expected
  · rw [if_pos hs] at h
    rw [← Except.ok.inj h]
    exact ⟨allowed, expected, rfl, hp, ht, congrArg _ (if_pos rfl)⟩
  · rw [if_neg hs] at h
    rw [← Except.ok.inj h] at hpass
    simp at hpass

theorem settles_oneOf {options : List (String × Value)}
    (ho : ∀ e ∈ options, e.2.isPrimitive = true ∧ e.2.plainText = .ok e.1) :
    (Check.leaf (.oneOf options)).Settles := by
  refine settles_onText (fun _ _ => rfl) fun s effect h hpass => ?_
  cases hs : options.lookup s with
  | none =>
    rw [hs] at h
    rw [← Except.ok.inj h] at hpass
    simp at hpass
  | some option =>
    rw [hs] at h
    rw [← Except.ok.inj h]
    -- The option is there under its own text, by which it is found again.
    obtain ⟨before, after, hsplit, -⟩ := List.lookup_eq_some_iff.mp hs
    obtain ⟨hp, ht⟩ := ho (s, option) (by rw [hsplit]; simp)
    exact ⟨option, s, rfl, hp, ht, by rw [hs]⟩

theorem settles_number (nonNumber : Code) (whole : Bool) (test : NumberTest) :
    (Check.leaf (.number nonNumber whole test)).Settles := by
  intro v siblings effect h hpass siblings'
  rw [Check.run, run, Except.ok.injEq] at h
  by_cases hm : v.isMissing = true
  · rw [if_pos hm] at h
    subst h
    exact ⟨.pass, by simp [Check.run, run, Effect.pass, hm], rfl, rfl, fun _ => rfl⟩
  · rw [if_neg hm] at h
    by_cases hp : (!v.isPrimitive) = true
    · rw [if_pos hp] at h
      rw [← h] at hpass
      simp at hpass
    · rw [if_neg hp] at h
      rw [← h] at hpass
      obtain ⟨n, hn, hagain⟩ := checkNumber_again hpass
      rw [← h, hn]
      refine ⟨.wrote (.ofNumber n), ?_, rfl, rfl, fun h => absurd h (Option.some_ne_none _)⟩
      show (Check.leaf _).run (.ofNumber n) siblings' = _
      simp only [Check.run, run, Value.isMissing_ofNumber, Value.isPrimitive_ofNumber, hagain]
      rfl

theorem settles_modify {modifier : Modifier} (hl : modifier ≠ .lower) (hu : modifier ≠ .upper) :
    (Check.leaf (.modify modifier)).Settles := by
  refine Check.settles_of_same fun v siblings effect h hpass siblings' => ?_
  cases v with
  | text s =>
    rw [Check.run, run, Except.ok.injEq] at h
    rw [← h]
    show (Check.leaf _).run (.text (modifier.apply s)) siblings' = _
    rw [Check.run, run, Modifier.apply_apply hl hu]
  | _ =>
    simp only [Check.run, run, Except.ok.injEq] at h
    rw [← h]
    simp only [Effect.pass, Option.getD_none, Check.run, run]

theorem settles_default (value : Value) : (Check.leaf (.default value)).Settles := by
  intro v siblings effect h hpass siblings'
  rw [Check.run, run, Except.ok.injEq] at h
  by_cases hm : v.isMissing = true
  · rw [if_pos hm] at h
    rw [← h]
    show ∃ again, (Check.leaf _).run value siblings' = .ok again ∧ again.error.truthy = false ∧
      again.write.getD value = value ∧ _
    have hwrote : ∀ {p : Prop}, some value = none → p := fun h => absurd h (Option.some_ne_none _)
    -- A default may itself be missing, and is then written once more.
    by_cases hv : value.isMissing = true
    · exact ⟨.wrote value, by rw [Check.run, run, if_pos hv], rfl, rfl, hwrote⟩
    · exact ⟨.pass, by rw [Check.run, run, if_neg hv], rfl, rfl, hwrote⟩
  · rw [if_neg hm] at h
    rw [← h]
    exact ⟨.pass, by rw [Check.run, run]; exact congrArg _ (if_neg hm), rfl, rfl, fun _ => rfl⟩

/-- A check that keeps its arguments in such a way that it settles values: what it may write has the
text by which it is chosen. -/
def IsSteady : Leaf → Prop
  | eq allowed expected => allowed.isPrimitive = true ∧ allowed.plainText = .ok expected
  | oneOf options => ∀ e ∈ options, e.2.isPrimitive = true ∧ e.2.plainText = .ok e.1
  | equalTo _ => False
  | modify modifier => modifier ≠ .lower ∧ modifier ≠ .upper
  | _ => True

/-- **A steady check without parts settles values.** -/
theorem settles {leaf : Leaf} (h : leaf.IsSteady) : (Check.leaf leaf).Settles := by
  have hsilent : ∀ {leaf : Leaf}, (∀ v a b, leaf.run v a = leaf.run v b) →
      (∀ v siblings effect, leaf.run v siblings = .ok effect → effect.write = none) →
      (Check.leaf leaf).Settles := by
    intro leaf hsame hwrite
    refine Check.settles_of_silent (fun v a b => ?_) fun v siblings effect hrun => ?_
    · rw [Check.run, Check.run, hsame v a b]
    · rw [Check.run] at hrun
      exact hwrite v siblings effect hrun
  cases leaf with
  | text test => exact settles_text test
  | eq allowed expected => exact settles_eq h.1 h.2
  | oneOf options => exact settles_oneOf h
  | number nonNumber whole test => exact settles_number nonNumber whole test
  | equalTo field => exact h.elim
  | modify modifier => exact settles_modify h.1 h.2
  | default value => exact settles_default value
  | format test => exact hsilent (fun _ _ _ => rfl) fun _ _ _ => write_of_format
  | _ =>
    refine hsilent (fun _ _ _ => rfl) fun v siblings effect hrun => ?_
    unfold run at hrun
    rw [← Except.ok.inj hrun]
    repeat' split
    all_goals rfl

end Leaf

/-- A steady rule makes steady checks. -/
theorem Builtin.leaf_isSteady (c : Compilation) {rule : Builtin} (hrule : rule.isSteady = true)
    (args : List Value) :
    (rule.recipe args).Only c fun check => ∃ leaf : Leaf, check = .leaf leaf ∧ leaf.IsSteady := by
  have hmade : ∀ {made : Leaf}, made.IsSteady →
      ∃ leaf : Leaf, Check.leaf made = .leaf leaf ∧ leaf.IsSteady := fun h => ⟨_, rfl, h⟩
  unfold recipe
  split
  case h_6 allowed =>
    split
    · rename_i hp
      exact only_leafOf fun expected ht => hmade ⟨hp, ht⟩
    · exact Recipe.only_fail _
  case h_7 args =>
    exact only_leafOf fun options ho => hmade fun e he => (Arguments.mem_options ho e he).2
  all_goals first
    | exact Recipe.only_fail _
    | exact absurd hrule (by decide)
    | exact Recipe.only_ready (hmade trivial)
    | exact Recipe.only_ready (hmade ⟨by decide, by decide⟩)
    | exact only_leafOf fun _ _ => hmade trivial
    | exact only_leafOf fun _ _ => hmade ⟨by simp, by simp⟩

/-! ### Objects and lists -/

/-- An object that passes is checked with the same outcome as it was written. -/
theorem checkObject_again {schema : CompiledSchema} (hs : schema.Settles) {v : Value}
    {o : ItemOutcome} (h : checkObject schema.execute v = .ok o) (hp : o.2.truthy = false) :
    checkObject schema.execute o.1 = .ok o := by
  obtain ⟨entries, report, -, hrun, herrors, rfl⟩ := checkObject_of_passes h hp
  show (schema.execute (Entries.ofNamed report.output) >>= _) = _
  rw [hs entries report hrun herrors, Except.ok_bind, Report.errorValue_of_errors herrors]
  rfl

/-- If items that pass are checked with the same outcome as they were written, then so is the whole
list. -/
theorem checkItems_again {check check' : Value → Except Fault ItemOutcome}
    (h : ∀ item o, check item = .ok o → o.2.truthy = false → check' o.1 = .ok o) {v : Value}
    {effect : Effect} (hrun : checkItems check v = .ok effect)
    (hpass : effect.error.truthy = false) :
    checkItems check' (effect.write.getD v) = .ok effect := by
  rcases checkItems_cases hrun with ⟨hm, rfl⟩ | rfl | ⟨items, outcomes, -, houtcomes, rfl⟩
  · exact if_pos hm
  · simp at hpass
  · have hnull := Effect.null_of_ofItems_passes hpass
    have hagain : (outcomes.map (·.1)).mapM check' = .ok outcomes := by
      rw [Except.mapM_eq_ok, List.forall₂_map_left_iff, List.forall₂_same]
      intro o ho
      obtain ⟨item, -, hitem⟩ := houtcomes.exists_of_mem_right ho
      exact h item o hitem (by rw [hnull o ho]; rfl)
    rw [Effect.ofItems_of_null hnull]
    show ((outcomes.map (·.1)).mapM check' >>= _) = _
    rw [hagain, Except.ok_bind, Effect.ofItems_of_null hnull]
    rfl

namespace Check

theorem settles_object {schema : CompiledSchema} (hs : schema.Settles) :
    (object schema).Settles := by
  refine settles_of_same fun v siblings effect hrun hpass siblings' => ?_
  rw [Check.run] at hrun
  split at hrun
  case isTrue hm =>
    rw [← Except.ok.inj hrun, Check.run]
    exact if_pos hm
  case isFalse =>
    obtain ⟨o, ho, heffect⟩ := Except.bind_eq_ok.mp hrun
    rw [← Except.ok.inj heffect] at hpass ⊢
    rw [Effect.error_ofItem] at hpass
    have hagain := checkObject_again hs ho hpass
    obtain ⟨entries, report, -, -, -, rfl⟩ := checkObject_of_passes ho hpass
    show (object schema).run report.outputValue siblings' = _
    rw [Check.run, if_neg (by simp [Report.outputValue, Value.isMissing]), hagain]
    rfl

theorem settles_eachObject {schema : CompiledSchema} (hs : schema.Settles) :
    (eachObject schema).Settles := by
  refine settles_of_same fun v siblings effect hrun hpass siblings' => ?_
  rw [Check.run] at hrun ⊢
  exact checkItems_again (fun item o => checkObject_again hs) hrun hpass

theorem settles_each {chain : Chain} (hc : Chain.Settles chain) : (each chain).Settles := by
  refine settles_of_same fun v siblings effect hrun hpass siblings' => ?_
  rw [Check.run] at hrun ⊢
  refine checkItems_again (fun item o hitem hp => ?_) hrun hpass
  obtain ⟨outcome, houtcome, ho⟩ := Except.bind_eq_ok.mp hitem
  have herror : outcome.error = none := by
    cases he : outcome.error with
    | none => rfl
    | some e =>
      rw [← Except.ok.inj ho, he, Option.getD_some, truthy_of_runChain houtcome he] at hp
      cases hp
  obtain ⟨written, hagain, -⟩ := hc item siblings outcome houtcome herror siblings'
  rw [← Except.ok.inj ho, hagain, herror]
  rfl

end Check

/-! ### Chains, fields and schemas -/

/-- A chain of a single check settles values if the check does. -/
theorem Chain.settles_singleton {step : Step} (hs : step.check.Settles) :
    Chain.Settles [step] := by
  intro v siblings o hrun herror siblings'
  obtain ⟨effect, heffect, ⟨-, rfl⟩ | ⟨hpass, hrest⟩⟩ := runChain_cons_eq_ok hrun
  · exact nomatch herror
  · rw [runChain_nil, Except.ok.injEq] at hrest
    obtain ⟨again, hagain, hpass', hvalue, hwrite⟩ :=
      hs v siblings effect heffect hpass siblings'
    rw [← hrest]
    refine ⟨again.write.isSome, ?_, fun hw => ?_⟩
    · rw [runChain_cons, hagain, Except.ok_bind, if_neg (by simp [hpass']), hvalue, runChain_nil]
      rfl
    · rw [Bool.false_or, Option.isSome_eq_false_iff, Option.isNone_iff_eq_none] at hw
      rw [hwrite hw]
      rfl

/-- A field without an error adds its value, if it has one. -/
theorem Report.withField_of_pass (r : Report) (name : String) (present : Bool) {o : Outcome}
    (h : o.error = none) : r.withField name present o =
      if o.written || present then { r with output := (name, o.value) :: r.output } else r := by
  rw [withField, h]

theorem Report.pass_of_withField {r : Report} {name : String} {present : Bool} {o : Outcome}
    (h : (r.withField name present o).errors = []) : o.error = none ∧ r.errors = [] := by
  cases he : o.error with
  | some e =>
    rw [withField, he] at h
    exact absurd h (by simp)
  | none =>
    rw [withField_of_pass r name present he] at h
    refine ⟨rfl, ?_⟩
    split at h
    · exact h
    · exact h

/-- A name that no field has is not in the output. -/
theorem lookup_output_eq_none {fields : List (String × Chain)} {snapshot : Entries}
    {report : Report} (hrun : runFields fields snapshot = .ok report) {name : String}
    (hname : name ∉ fields.map (·.1)) : report.output.lookup name = none := by
  rw [List.lookup_eq_none_iff]
  intro e he
  obtain ⟨chain, o, hf, -⟩ := (mem_output_iff hrun).mp he
  rw [bne_iff_ne]
  rintro rfl
  exact hname (List.mem_map_of_mem hf)

/-- One field: what it sees in the output is the value that came out of it, or nothing if none did,
and it adds the same to the report as before. -/
theorem runField_again {chain : Chain} (hc : Chain.Settles chain) {name : String}
    {snapshot output : Entries} {o : Outcome} (ho : runField chain name snapshot = .ok o)
    (herror : o.error = none)
    (hout : output.get? name =
      if o.written || (snapshot.get? name).isSome then some o.value else none) :
    ∃ p, runField chain name output = .ok p ∧ ∀ r : Report,
      r.withField name (output.get? name).isSome p =
        r.withField name (snapshot.get? name).isSome o := by
  obtain ⟨written, hagain, hwritten⟩ := hc _ snapshot o ho herror output
  have hvalue : (output.get? name).getD .null = o.value := by
    rw [hout]
    split
    · rfl
    · rename_i hnot
      rw [Bool.not_eq_true, Bool.or_eq_false_iff, Option.isSome_eq_false_iff,
        Option.isNone_iff_eq_none] at hnot
      rw [value_of_runChain ho hnot.1, hnot.2]
  refine ⟨_, by rw [runField, hvalue, hagain], fun r => ?_⟩
  rw [Report.withField_of_pass r name _ herror, Report.withField_of_pass r name _ rfl]
  by_cases hthere : (o.written || (snapshot.get? name).isSome) = true
  · rw [if_pos hthere] at hout ⊢
    rw [hout, Option.isSome_some, Bool.or_true, if_pos rfl]
  · rw [if_neg hthere] at hout ⊢
    rw [Bool.not_eq_true, Bool.or_eq_false_iff] at hthere
    rw [hout, hwritten hthere.1]
    rfl

/-- **Fields that settle values have the same report for their own output.** -/
theorem runFields_again {fields : List (String × Chain)} (hn : (fields.map (·.1)).Nodup)
    (hf : ∀ f ∈ fields, Chain.Settles f.2) {snapshot : Entries} {report : Report}
    (hrun : runFields fields snapshot = .ok report) (herrors : report.errors = [])
    {output : Entries}
    (hout : ∀ f ∈ fields, output.get? f.1 = report.output.lookup f.1) :
    runFields fields output = .ok report := by
  induction fields generalizing report with
  | nil =>
    rw [runFields_nil] at hrun ⊢
    exact hrun
  | cons f rest ih =>
    obtain ⟨name, chain⟩ := f
    obtain ⟨hname, hnodup⟩ := List.nodup_cons.mp hn
    obtain ⟨o, r, ho, hr, rfl⟩ := runFields_cons_eq_ok hrun
    obtain ⟨herror, hrerrors⟩ := Report.pass_of_withField herrors
    have hrest : runFields rest output = .ok r := by
      refine ih hnodup (fun f hm => hf f (List.mem_cons_of_mem _ hm)) hr hrerrors fun f hm => ?_
      have hne : f.1 ≠ name := by
        intro heq
        exact hname (List.mem_map.mpr ⟨f, hm, heq⟩)
      rw [hout f (List.mem_cons_of_mem _ hm), Report.lookup_output_withField,
        if_neg fun h => hne h.1, Option.none_or]
    have hown : output.get? name =
        if o.written || (snapshot.get? name).isSome then some o.value else none := by
      rw [hout _ List.mem_cons_self, Report.lookup_output_withField,
        lookup_output_eq_none hr hname, Option.or_none]
      simp only [herror, true_and]
    obtain ⟨p, hp, hsame⟩ := runField_again (hf _ List.mem_cons_self) ho herror hown
    rw [runFields_cons, hp, hrest, Except.ok_bind]
    exact congrArg Except.ok (hsame r)

/-- A schema without auto-trim settles what its fields settle. -/
theorem CompiledSchema.settles_of_fields {schema : CompiledSchema} (htrim : schema.autoTrim = false)
    (hn : (schema.fields.map (·.1)).Nodup) (hf : ∀ f ∈ schema.fields, Chain.Settles f.2) :
    schema.Settles := by
  intro data report hrun herrors
  have hsnapshot : ∀ data, schema.snapshot data = data := by
    intro data
    rw [snapshot, htrim]
    rfl
  rw [execute_eq, hsnapshot] at hrun ⊢
  exact runFields_again hn hf hrun herrors fun f _ => Entries.get?_ofNamed report.output f.1

/-! ## Schemas of single rules settle -/

section
variable {r : Registry} (hr : r.Extends Builder.IsAlias) {c : Compilation}
  (hschema : ∀ schema compiled, c.schema schema compiled → SingleSchema schema → compiled.Settles)
  (hfield : ∀ spec chain, c.field spec chain → SingleSpec spec → Chain.Settles chain)
include hr hschema hfield

/-- One level of compiling, for a spec: its single check settles values, if what is compiled one
level below does. -/
theorem Registry.Extends.settles_of_makesChain {spec : Value} {chain : Chain}
    (hs : SingleSpec spec) (h : c.MakesChain r false spec chain) : Chain.Settles chain := by
  -- A spec of a single rule has a chain of a single step, made by that rule.
  have hsingle : ∀ {rule : Builtin} {args : List Value},
      Invocation.ofSpec spec = .ok [⟨rule.name, args⟩] → ∃ step, chain = [step] ∧
        (rule.recipe args).Yields c step.check := by
    intro rule args hspec
    obtain ⟨invocations, steps, hinvocations, hsteps, rfl⟩ := h
    rw [hspec, Except.ok.injEq] at hinvocations
    rw [← hinvocations] at hsteps
    obtain ⟨step, rest, hstep, hrest, rfl⟩ := List.forall₂_cons_left_iff.mp hsteps
    rw [List.forall₂_nil_left_iff.mp hrest]
    exact ⟨step, rfl, hr.yields_of_name rfl hstep⟩
  cases hs with
  | steady hspec hrule =>
    obtain ⟨step, rfl, hyields⟩ := hsingle hspec
    obtain ⟨leaf, hleaf, hsteady⟩ := Builtin.leaf_isSteady c hrule _ _ hyields
    refine Chain.settles_singleton ?_
    rw [hleaf]
    exact Leaf.settles hsteady
  | object hspec hinner =>
    obtain ⟨step, rfl, hyields⟩ := hsingle hspec
    obtain ⟨compiled, hcompiled, hready⟩ := Recipe.Yields.of_onSchema hyields
    refine Chain.settles_singleton ?_
    rw [Recipe.Yields.of_ready hready]
    exact Check.settles_object (hschema _ compiled hcompiled hinner)
  | objects hspec hinner =>
    obtain ⟨step, rfl, hyields⟩ := hsingle hspec
    obtain ⟨compiled, hcompiled, hready⟩ := Recipe.Yields.of_onSchema hyields
    refine Chain.settles_singleton ?_
    rw [Recipe.Yields.of_ready hready]
    exact Check.settles_eachObject (hschema _ compiled hcompiled hinner)
  | items hspec hargs hinner =>
    obtain ⟨step, rfl, hyields⟩ := hsingle hspec
    rw [Builtin.recipe, hargs] at hyields
    obtain ⟨made, hmade, hready⟩ := Recipe.Yields.of_onField hyields
    refine Chain.settles_singleton ?_
    rw [Recipe.Yields.of_ready hready]
    exact Check.settles_each (hfield _ made hmade hinner)

/-- One level of compiling, for a schema. -/
theorem Registry.Extends.settles_of_next {schema : Value} {compiled : CompiledSchema}
    (hs : SingleSchema schema) (h : (c.next r false).schema schema compiled) :
    compiled.Settles := by
  obtain ⟨entries, rfl, htrim, hfields⟩ := h
  cases hs with
  | intro hm hspecs =>
    have hnames : entries.map (·.1) = (compiled.fields.map (·.1)).map .text := by
      rw [← List.forall₂_eq_eq_eq, List.forall₂_map_left_iff, List.map_map,
        List.forall₂_map_right_iff]
      exact hfields.imp fun _ _ hf => hf.1
    refine CompiledSchema.settles_of_fields htrim (hm.nodup hnames) fun f hf => ?_
    obtain ⟨e, he, -, hchain⟩ := hfields.exists_of_mem_right hf
    exact hr.settles_of_makesChain hschema hfield (hspecs e he) hchain

end

/-- What is compiled from a schema or a spec of single rules settles values. The induction is on the
levels. -/
theorem Registry.Extends.settles_of_ofLevels {r : Registry} (hr : r.Extends Builder.IsAlias)
    (n : Nat) :
    (∀ schema compiled, (Compilation.ofLevels r false n).schema schema compiled →
      SingleSchema schema → compiled.Settles) ∧
    ∀ spec chain, (Compilation.ofLevels r false n).field spec chain → SingleSpec spec →
      Chain.Settles chain := by
  induction n with
  | zero => exact ⟨fun _ _ h => h.elim, fun _ _ h => h.elim⟩
  | succ n ih =>
    exact ⟨fun _ _ h hs => hr.settles_of_next ih.1 ih.2 hs h,
      fun _ _ h hs => hr.settles_of_makesChain ih.1 ih.2 hs h⟩

/-- **An output that was accepted is accepted again, as it is.** The report for it is the same as
for the input that it was made from: the same values, in the same order, and no errors. -/
theorem execute_output {env : CompileEnv} (hr : env.registry.Extends Builder.IsAlias)
    {schema : Value} (hs : SingleSchema schema) {autoTrim : Option Bool}
    (htrim : autoTrim.getD false = false) {compiled : CompiledSchema}
    (hc : compileSchema env schema autoTrim = .ok compiled) {data : Entries} {report : Report}
    (hrun : compiled.execute data = .ok report) (herrors : report.errors = []) :
    compiled.execute (Entries.ofNamed report.output) = .ok report := by
  rw [compileSchema_eq_ok_iff hr.plain_of_isAlias, htrim] at hc
  exact (hr.settles_of_ofLevels _).1 schema compiled hc hs data report hrun herrors

/-! ## A parcel -/

/-- The fields of a parcel: its weight, the kind of its delivery, to whom it goes, and labels. -/
def parcel : Entries :=
  [(.text "weight", .text "decimal"),
    (.text "delivery", .map [(.text "one_of", .list [.text "home", .text "shop"])]),
    (.text "to", .map [(.text "nested_object", .map [(.text "name", .text "trim"),
      (.text "note", .map [(.text "default", .text "")])])]),
    (.text "labels", .map [(.text "list_of", .map [(.text "remove", .text "#")])])]

theorem singleSchema_parcel : SingleSchema (.map parcel) := by
  have hto : SingleSchema (.map [(.text "name", .text "trim"),
      (.text "note", .map [(.text "default", .text "")])]) := by
    refine .intro (by decide +kernel) fun e he => ?_
    simp only [List.mem_cons, List.not_mem_nil, or_false] at he
    rcases he with rfl | rfl
    · exact @SingleSpec.steady _ _ .trim rfl rfl
    · exact @SingleSpec.steady _ _ .default rfl rfl
  refine .intro (by decide +kernel) fun e he => ?_
  simp only [parcel, List.mem_cons, List.not_mem_nil, or_false] at he
  rcases he with rfl | rfl | rfl | rfl
  · exact @SingleSpec.steady _ _ .decimal rfl rfl
  · exact @SingleSpec.steady _ _ .oneOf rfl rfl
  · exact .object rfl hto
  · exact .items rfl rfl (@SingleSpec.steady _ _ .remove rfl rfl)

/-- A parcel as it is typed in: the weight is a text, and the labels are a tuple. -/
def typed : Entries :=
  [(.text "weight", .text " 12 "), (.text "to", .map [(.text "name", .text " Ada "),
    (.text "floor", .int 3)]), (.text "labels", .tuple [.text "#frail", .text "new"])]

theorem execute_output_parcel :
    ∃ compiled report, Registry.ofBuiltins.Extends Builder.IsAlias ∧
      SingleSchema (.map parcel) ∧ (some false).getD false = false ∧
      compileSchema { registry := .ofBuiltins, limit := 20 } (.map parcel) (some false) =
        .ok compiled ∧
      compiled.execute typed = .ok report ∧ report.errors = [] ∧
      report.output = [("weight", .int 12),
        ("to", .map [(.text "name", .text "Ada"), (.text "note", .text "")]),
        ("labels", .list [.text "frail", .text "new"])] ∧
      compiled.execute (Entries.ofNamed report.output) = .ok report := by
  have hr := Registry.extends_ofBuiltins Builder.IsAlias
  obtain ⟨compiled, report, hc, hrun, herrors, houtput⟩ : ∃ compiled report,
      compileSchema { registry := .ofBuiltins, limit := 20 } (.map parcel) (some false) =
        .ok compiled ∧
      compiled.execute typed = .ok report ∧ report.errors = [] ∧
      report.output = [("weight", .int 12),
        ("to", .map [(.text "name", .text "Ada"), (.text "note", .text "")]),
        ("labels", .list [.text "frail", .text "new"])] := ⟨_, _, rfl, rfl, rfl, rfl⟩
  exact ⟨compiled, report, hr, singleSchema_parcel, rfl, hc, hrun, herrors, houtput,
    execute_output hr singleSchema_parcel rfl hc hrun herrors⟩

end FieldRules
