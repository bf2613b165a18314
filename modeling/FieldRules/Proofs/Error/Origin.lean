import FieldRules.Proofs.Catalogue
import FieldRules.Proofs.Error.Shape
import FieldRules.Proofs.Run.Choice
import FieldRules.Proofs.Run.Fields
import FieldRules.Proofs.Run.Items

/-!
# Where errors come from

A leaf reports a code or nothing. Everything else reports what is inside of it: an object the errors
of its fields, if there are any; a list those of its items, if one has any; a choice the error of
its last chain; an alias its own code or the error of its rules. So by going through the compiled
tree once one sees that all errors are well formed, with the codes of the built-in rules and of the
aliases for texts and the names of fields for keys. Which aliases and which fields these are can be
said of the schema as it is written (`Registry.IsCode`, `Registry.IsName`), and then it is plain
that an error never quotes the input (`errors_of_execute`).

There are three tests for "no error" on the way, and they do not test the same: a chain goes on
unless the error *counts* as one, a list is passed if all its errors are *null*, an object if it has
*no* error. A check whose error is null or else well formed satisfies all three at once, which is
why this is what is carried through the induction.
-/

set_option autoImplicit false

namespace FieldRules

/-! ## Leaves report codes -/

/-- The effect has no error, or a code of a built-in rule. -/
def Effect.HasCode (effect : Effect) : Prop :=
  effect.error = .null ∨ ∃ code : Code, effect.error = .text code.text

namespace Effect

variable {effect : Effect}

@[simp] theorem hasCode_pass : pass.HasCode := Or.inl rfl

@[simp] theorem hasCode_wrote (v : Value) : (wrote v).HasCode := Or.inl rfl

@[simp] theorem hasCode_fail (code : Code) : (fail code).HasCode := Or.inr ⟨code, rfl⟩

end Effect

namespace Leaf

variable {effect : Effect}

theorem hasCode_of_onText {v : Value} {check : String → Except Fault Effect}
    (hcheck : ∀ s, check s = .ok effect → effect.HasCode) (h : onText v check = .ok effect) :
    effect.HasCode := by
  unfold onText at h
  split at h
  · rw [← Except.ok.inj h]
    exact Effect.hasCode_pass
  · split at h
    · rw [← Except.ok.inj h]
      exact Effect.hasCode_fail _
    · obtain ⟨s, -, h⟩ := Except.bind_eq_ok.mp h
      exact hcheck s h

theorem hasCode_of_checkText {test : TextTest} {s : String} (h : checkText test s = .ok effect) :
    effect.HasCode := by
  obtain ⟨violation, -, h⟩ := Except.bind_eq_ok.mp h
  cases violation with
  | some code =>
    rw [← Except.ok.inj h]
    exact Effect.hasCode_fail code
  | none =>
    rw [← Except.ok.inj h]
    exact Effect.hasCode_wrote _

theorem hasCode_checkNumber (nonNumber : Code) (whole : Bool) (test : NumberTest) (v : Value) :
    (checkNumber nonNumber whole test v).HasCode := by
  unfold checkNumber
  split
  · exact Effect.hasCode_fail _
  · split
    · exact Effect.hasCode_fail _
    · simp only
      split
      · exact Effect.hasCode_fail _
      · exact Effect.hasCode_wrote _

/-- **A check without parts reports a built-in code or nothing.** -/
theorem hasCode_of_run {leaf : Leaf} {v : Value} {siblings : Entries}
    (h : leaf.run v siblings = .ok effect) : effect.HasCode := by
  cases leaf with
  | text test => exact hasCode_of_onText (fun s => hasCode_of_checkText) h
  | eq allowed expected =>
    refine hasCode_of_onText (fun s hs => ?_) h
    rw [← Except.ok.inj hs]
    split <;> simp
  | oneOf options =>
    refine hasCode_of_onText (fun s hs => ?_) h
    rw [← Except.ok.inj hs]
    split <;> simp
  | format test =>
    refine hasCode_of_onText (fun s hs => ?_) h
    rw [← Except.ok.inj hs]
    split <;> simp
  | number nonNumber whole test =>
    rw [← Except.ok.inj h]
    split
    · exact Effect.hasCode_pass
    · split
      · exact Effect.hasCode_fail _
      · exact hasCode_checkNumber nonNumber whole test v
  | equalTo field =>
    unfold run at h
    simp only at h
    split at h
    · rw [← Except.ok.inj h]
      exact Effect.hasCode_pass
    · split at h
      · rw [← Except.ok.inj h]
        exact Effect.hasCode_fail _
      · obtain ⟨same, -, h⟩ := Except.bind_eq_ok.mp h
        rw [← Except.ok.inj h]
        split <;> simp
  | _ =>
    -- The others decide by a few tests of the value, and do nothing else.
    rw [← Except.ok.inj h]
    repeat' split
    all_goals simp

end Leaf

/-! ## Checks that report well-formed errors -/

/-- Null or a well-formed error. -/
def IsErrorOrNull (codes names : String → Prop) (error : Value) : Prop :=
  error = .null ∨ IsError codes names error

/-- A check reports well-formed errors, and null if there is none. -/
def Check.Reports (codes names : String → Prop) (check : Check) : Prop :=
  ∀ v siblings effect, check.run v siblings = .ok effect →
    IsErrorOrNull codes names effect.error

/-- A chain fails with well-formed errors. -/
def Chain.Reports (codes names : String → Prop) (chain : Chain) : Prop :=
  ∀ v siblings written o error, runChain chain v siblings written = .ok o →
    o.error = some error → IsError codes names error

/-- The errors of a schema are well formed, and under the names of fields. -/
def CompiledSchema.Reports (codes names : String → Prop) (schema : CompiledSchema) : Prop :=
  ∀ data report, schema.execute data = .ok report →
    ∀ e ∈ report.errors, names e.1 ∧ IsError codes names e.2

variable {codes names : String → Prop}

theorem Chain.reports_of_steps {chain : Chain}
    (h : ∀ step ∈ chain, step.check.Reports codes names) : Chain.Reports codes names chain := by
  intro v siblings written o error ho he
  induction chain generalizing v written with
  | nil =>
    rw [runChain_nil, Except.ok.injEq] at ho
    rw [← ho] at he
    exact nomatch he
  | cons step rest ih =>
    obtain ⟨effect, heffect, ⟨ht, rfl⟩ | ⟨-, ho⟩⟩ := runChain_cons_eq_ok ho
    · cases he
      rcases h step List.mem_cons_self v siblings effect heffect with hnull | herror
      · rw [hnull] at ht
        cases ht
      · exact herror
    · exact ih (fun s hs => h s (List.mem_cons_of_mem _ hs)) _ _ ho

theorem CompiledSchema.reports_of_fields {schema : CompiledSchema}
    (h : ∀ f ∈ schema.fields, names f.1 ∧ Chain.Reports codes names f.2) :
    schema.Reports codes names := by
  intro data report hr e he
  rw [CompiledSchema.execute_eq] at hr
  obtain ⟨chain, o, hm, hrun, herror⟩ := (mem_errors_iff hr).mp he
  obtain ⟨hname, hchain⟩ := h _ hm
  exact ⟨hname, hchain _ _ _ _ _ hrun herror⟩

theorem Check.reports_autoTrim : Check.autoTrim.Reports codes names := by
  intro v siblings effect h
  left
  cases v <;> simp only [Check.run, Except.ok.injEq] at h <;> rw [← h] <;> rfl

/-- What a passed chain comes to is no error. -/
theorem Effect.error_ofPassed (o : Outcome) :
    (if o.written then Effect.wrote o.value else .pass).error = .null := by
  cases o.written <;> rfl

theorem Check.reports_aliased {chain : Chain} (h : Chain.Reports codes names chain)
    {fixed : Option String} (hf : ∀ code, fixed = some code → codes code ∧ code ≠ "") :
    (Check.aliased fixed chain).Reports codes names := by
  intro v siblings effect hrun
  rw [Check.run] at hrun
  obtain ⟨o, ho, hrun⟩ := Except.bind_eq_ok.mp hrun
  cases he : o.error with
  | some error =>
    rw [he] at hrun
    rw [← Except.ok.inj hrun]
    right
    cases fixed with
    | none => exact h _ _ _ _ _ ho he
    | some code =>
      obtain ⟨hcode, hne⟩ := hf code rfl
      exact .code hcode hne
  | none =>
    rw [he] at hrun
    rw [← Except.ok.inj hrun]
    exact Or.inl (Effect.error_ofPassed o)

theorem Check.reports_firstOf {chains : List Chain}
    (h : ∀ chain ∈ chains, Chain.Reports codes names chain) :
    (Check.firstOf chains).Reports codes names := by
  intro v siblings effect hrun
  rw [Check.run] at hrun
  cases chains with
  | nil =>
    rw [runFirst, Except.ok.injEq] at hrun
    rw [← hrun]
    exact Or.inl rfl
  | cons first rest =>
    obtain ⟨chain, hm, o, ho, rfl⟩ := runFirst_eq_ok (List.cons_ne_nil _ _) hrun
    cases herror : o.error with
    | none => exact Or.inl (Outcome.error_effect herror)
    | some error =>
      rw [Outcome.effect_of_error herror]
      exact Or.inr (h chain hm _ _ _ _ _ ho herror)

/-! ### Objects and lists -/

/-- The errors of items are a well-formed error if one of them is. -/
theorem Effect.isErrorOrNull_ofItems {outcomes : List ItemOutcome}
    (h : ∀ o ∈ outcomes, IsErrorOrNull codes names o.2) :
    IsErrorOrNull codes names (Effect.ofItems outcomes).error := by
  unfold Effect.ofItems
  split
  case isTrue => exact Or.inl rfl
  case isFalse hall =>
    right
    rw [List.all_eq_true] at hall
    obtain ⟨o, hm, hne⟩ : ∃ o ∈ outcomes, o.2 ≠ .null := by
      by_contra hnone
      refine hall fun o hm => ?_
      have hnull : o.2 = .null := by
        by_contra hne
        exact hnone ⟨o, hm, hne⟩
      rw [hnull]
    refine .items ⟨o.2, List.mem_map_of_mem hm, hne⟩ fun error hm hne => ?_
    obtain ⟨o', hm', rfl⟩ := List.mem_map.mp hm
    exact (h o' hm').resolve_left hne

theorem isErrorOrNull_of_checkItems {check : Value → Except Fault ItemOutcome} {v : Value}
    {effect : Effect} (hcodes : ∀ code : Code, codes code.text)
    (h : ∀ item o, check item = .ok o → IsErrorOrNull codes names o.2)
    (hrun : checkItems check v = .ok effect) : IsErrorOrNull codes names effect.error := by
  rcases checkItems_cases hrun with ⟨-, rfl⟩ | rfl | ⟨items, outcomes, -, houtcomes, rfl⟩
  · exact Or.inl rfl
  · exact Or.inr (.code (hcodes .formatError) (Code.text_ne_empty _))
  · refine Effect.isErrorOrNull_ofItems fun o ho => ?_
    obtain ⟨item, -, hitem⟩ := houtcomes.exists_of_mem_right ho
    exact h item o hitem

theorem isErrorOrNull_of_checkObject {schema : CompiledSchema} {v : Value} {o : ItemOutcome}
    (hcodes : ∀ code : Code, codes code.text) (h : schema.Reports codes names)
    (hrun : checkObject schema.execute v = .ok o) : IsErrorOrNull codes names o.2 := by
  unfold checkObject at hrun
  split at hrun
  · rw [← Except.ok.inj hrun]
    exact Or.inr (.code (hcodes .formatError) (Code.text_ne_empty _))
  · obtain ⟨report, hr, hrun⟩ := Except.bind_eq_ok.mp hrun
    rw [← Except.ok.inj hrun]
    have herrors := h _ report hr
    show IsErrorOrNull codes names report.errorValue
    unfold Report.errorValue
    by_cases hempty : report.errors.isEmpty = true
    · rw [if_pos hempty]
      exact Or.inl rfl
    · rw [if_neg hempty]
      refine Or.inr (.fields ?_ (fun e he => (herrors e he).1) fun e he => (herrors e he).2)
      exact fun hnil => hempty (List.isEmpty_iff.mpr hnil)

theorem isErrorOrNull_of_runVariant {variants : List (String × CompiledSchema)}
    {chosen : Option String} {v : Value} {o : ItemOutcome}
    (hcodes : ∀ code : Code, codes code.text) (h : ∀ e ∈ variants, e.2.Reports codes names)
    (hrun : runVariant variants chosen v = .ok o) : IsErrorOrNull codes names o.2 := by
  induction variants with
  | nil =>
    rw [runVariant, Except.ok.injEq] at hrun
    rw [← hrun]
    exact Or.inr (.code (hcodes .formatError) (Code.text_ne_empty _))
  | cons e rest ih =>
    obtain ⟨name, schema⟩ := e
    rw [runVariant] at hrun
    split at hrun
    · exact isErrorOrNull_of_checkObject hcodes (h (name, schema) List.mem_cons_self) hrun
    · exact ih (fun e he => h e (List.mem_cons_of_mem _ he)) hrun

section
variable (hcodes : ∀ code : Code, codes code.text)
include hcodes

theorem Check.reports_leaf (leaf : Leaf) : (Check.leaf leaf).Reports codes names := by
  intro v siblings effect h
  rw [Check.run] at h
  rcases Leaf.hasCode_of_run h with hnull | ⟨code, hcode⟩
  · exact Or.inl hnull
  · right
    rw [hcode]
    exact .code (hcodes code) code.text_ne_empty

theorem Check.reports_each {chain : Chain} (h : Chain.Reports codes names chain) :
    (Check.each chain).Reports codes names := by
  intro v siblings effect hrun
  rw [Check.run] at hrun
  refine isErrorOrNull_of_checkItems hcodes (fun item o ho => ?_) hrun
  obtain ⟨outcome, houtcome, ho⟩ := Except.bind_eq_ok.mp ho
  rw [← Except.ok.inj ho]
  cases he : outcome.error with
  | none => exact Or.inl rfl
  | some error => exact Or.inr (h _ _ _ _ _ houtcome he)

theorem Check.reports_object {schema : CompiledSchema} (h : schema.Reports codes names) :
    (Check.object schema).Reports codes names := by
  intro v siblings effect hrun
  rw [Check.run] at hrun
  split at hrun
  · rw [← Except.ok.inj hrun]
    exact Or.inl rfl
  · obtain ⟨o, ho, hrun⟩ := Except.bind_eq_ok.mp hrun
    rw [← Except.ok.inj hrun, Effect.error_ofItem]
    exact isErrorOrNull_of_checkObject hcodes h ho

theorem Check.reports_eachObject {schema : CompiledSchema} (h : schema.Reports codes names) :
    (Check.eachObject schema).Reports codes names := by
  intro v siblings effect hrun
  rw [Check.run] at hrun
  refine isErrorOrNull_of_checkItems hcodes (fun item o ho => ?_) hrun
  exact isErrorOrNull_of_checkObject hcodes h ho

theorem Check.reports_variant {variants : List (String × CompiledSchema)}
    (h : ∀ e ∈ variants, e.2.Reports codes names) (selector : String) :
    (Check.variant selector variants).Reports codes names := by
  intro v siblings effect hrun
  rw [Check.run] at hrun
  split at hrun
  · rw [← Except.ok.inj hrun]
    exact Or.inl rfl
  · obtain ⟨chosen, -, hrun⟩ := Except.bind_eq_ok.mp hrun
    obtain ⟨o, ho, hrun⟩ := Except.bind_eq_ok.mp hrun
    rw [← Except.ok.inj hrun, Effect.error_ofItem]
    exact isErrorOrNull_of_runVariant hcodes h ho

theorem Check.reports_eachVariant {variants : List (String × CompiledSchema)}
    (h : ∀ e ∈ variants, e.2.Reports codes names) (selector : String) :
    (Check.eachVariant selector variants).Reports codes names := by
  intro v siblings effect hrun
  rw [Check.run] at hrun
  refine isErrorOrNull_of_checkItems hcodes (fun item o ho => ?_) hrun
  obtain ⟨chosen, -, ho⟩ := Except.bind_eq_ok.mp ho
  exact isErrorOrNull_of_runVariant hcodes h ho

/-- A check that is made of parts that report well-formed errors does so itself. -/
theorem Builder.Makes.reports {c : Compilation} {builder : Builder} {args : List Value}
    {check : Check} (hm : builder.Makes c args check)
    (hschemas : ∀ schema ∈ builder.schemas args, ∀ compiled, c.schema schema compiled →
      compiled.Reports codes names)
    (hspecs : ∀ spec ∈ builder.specs args, ∀ chain, c.field spec chain →
      Chain.Reports codes names chain)
    (halias : ∀ definition, builder = Builder.aliased definition → ∀ code,
      definition.error = some code → codes code ∧ code ≠ "") :
    check.Reports codes names := by
  have hvariants : ∀ variants : List (String × CompiledSchema),
      (∀ v ∈ variants, ∃ schema ∈ builder.schemas args, c.schema schema v.2) →
      ∀ v ∈ variants, v.2.Reports codes names := by
    intro variants h v hv
    obtain ⟨schema, hschema, hc⟩ := h v hv
    exact hschemas schema hschema v.2 hc
  cases hm with
  | leaf _ => exact Check.reports_leaf hcodes _
  | object hm hc => exact Check.reports_object hcodes (hschemas _ hm _ hc)
  | variant h => exact Check.reports_variant hcodes (hvariants _ h) _
  | each hm hc => exact Check.reports_each hcodes (hspecs _ hm _ hc)
  | eachObject hm hc => exact Check.reports_eachObject hcodes (hschemas _ hm _ hc)
  | eachVariant h => exact Check.reports_eachVariant hcodes (hvariants _ h) _
  | firstOf h =>
    refine Check.reports_firstOf fun chain hchain => ?_
    obtain ⟨spec, hm, hc⟩ := h chain hchain
    exact hspecs spec hm chain hc
  | @aliased definition chain hb hc =>
    refine Check.reports_aliased (hspecs definition.rules ?_ chain hc) (halias definition hb)
    rw [hb]
    exact List.mem_singleton.mpr rfl

end

/-! ## Codes and names of a schema -/

/-- A text is a code that errors of a schema may have: one of the built-in codes, or the code of an
alias that is used somewhere in the schema. -/
def Registry.IsCode (r : Registry) (root : SchemaPart) (code : String) : Prop :=
  (∃ c : Code, code = c.text) ∨
    ∃ (spec : Value) (invocation : Invocation) (definition : AliasDefinition),
      r.Reaches root (.spec spec) ∧ invocation.IsIn spec ∧
        r.find? invocation.name = some (.aliased definition) ∧ definition.error = some code

/-- A text is the name of a field of a schema, or of a schema inside it. -/
def Registry.IsName (r : Registry) (root : SchemaPart) (name : String) : Prop :=
  ∃ entries spec, r.Reaches root (.schema (.map entries)) ∧ (.text name, spec) ∈ entries

section
variable {r : Registry} {autoTrim : Bool} {root : SchemaPart}

/-- **What is compiled from a part of a schema reports errors made of the codes and names of the
schema.** The induction is on the levels, for schemas and specs together, because each is compiled
from the other one level below. -/
theorem reports_of_ofLevels (hr : r.Extends Builder.IsAlias) (n : Nat) :
    (∀ schema compiled, (Compilation.ofLevels r autoTrim n).schema schema compiled →
      r.Reaches root (.schema schema) → compiled.Reports (r.IsCode root) (r.IsName root)) ∧
    ∀ spec chain, (Compilation.ofLevels r autoTrim n).field spec chain →
      r.Reaches root (.spec spec) → Chain.Reports (r.IsCode root) (r.IsName root) chain := by
  induction n with
  | zero => exact ⟨fun _ _ h => h.elim, fun _ _ h => h.elim⟩
  | succ n ih =>
    have hchain : ∀ spec chain, (Compilation.ofLevels r autoTrim n).MakesChain r autoTrim spec
        chain → r.Reaches root (.spec spec) →
        Chain.Reports (r.IsCode root) (r.IsName root) chain := by
      intro spec chain hc hreach
      refine Chain.reports_of_steps fun step hs => ?_
      rcases hr.check_of_mem hc hs with htrim | ⟨invocation, builder, hin, hb, hmakes⟩
      · rw [htrim]
        exact Check.reports_autoTrim
      · refine hmakes.reports (fun c => Or.inl ⟨c, rfl⟩) ?_ ?_ ?_
        · intro schema hm compiled hc
          exact ih.1 schema compiled hc (hreach.tail (.schema hin hb hm))
        · intro inner hm chain hc
          exact ih.2 inner chain hc (hreach.embedded ⟨invocation, builder, hin, hb, hm⟩)
        · rintro definition rfl code hcode
          refine ⟨Or.inr ⟨spec, invocation, definition, hreach, hin, hb, hcode⟩, ?_⟩
          rintro rfl
          exact (hr.valid_of_find? (fun _ h => h.valid) hb).error hcode
    constructor
    · rintro schema compiled ⟨entries, rfl, -, hfields⟩ hreach
      refine CompiledSchema.reports_of_fields fun f hf => ?_
      obtain ⟨⟨key, spec⟩, hm, hkey, hmakes⟩ := hfields.exists_of_mem_right hf
      cases hkey
      exact ⟨⟨entries, spec, hreach, hm⟩, hchain spec f.2 hmakes (hreach.field hm)⟩
    · exact hchain

end

/-- **The errors of a schema are well formed, and made of nothing but what stands in the schema.**
Their texts are built-in codes and codes of aliases that it uses, their keys are names of its fields
and of the fields inside. Each field that failed has a code among the listed leaves, and the leaves
are counted as none only if no field failed. -/
theorem errors_of_execute {env : CompileEnv} (hr : env.registry.Extends Builder.IsAlias)
    {schema : Value} {autoTrim : Option Bool} {compiled : CompiledSchema}
    (hc : compileSchema env schema autoTrim = .ok compiled) {data : Entries} {report : Report}
    (he : compiled.execute data = .ok report) :
    (∀ e ∈ report.errors, env.registry.IsName (.schema schema) e.1 ∧
      IsError (env.registry.IsCode (.schema schema)) (env.registry.IsName (.schema schema)) e.2) ∧
    (∃ items, Errors.listed (.map (Entries.ofNamed report.errors)) = .ok items ∧
      ∀ e ∈ report.errors, ∃ place code, (.text e.1 :: place, code) ∈ items ∧
        env.registry.IsCode (.schema schema) code) ∧
    (Errors.count (.map (Entries.ofNamed report.errors)) = 0 ↔ report.errors = []) := by
  rw [compileSchema_eq_ok_iff hr.plain_of_isAlias] at hc
  have hreports := (reports_of_ofLevels hr env.limit.toNat).1 schema compiled hc .refl data report he
  have herrors := fun e hm => (hreports e hm).2
  exact ⟨hreports, listed_of_isError herrors, count_eq_zero_iff herrors⟩

/-- The rules of an age, with a code for those that are too young. -/
def adult : AliasDefinition where
  name := "adult"
  rules := .list [.text "positive_integer", .map [(.text "min_number", .int 18)]]
  error := some "TOO_YOUNG"

/-- The catalogue with the alias. -/
def adultRules : Registry := Registry.ofBuiltins.put "adult" (.aliased adult)

/-- A booking for several people. -/
def booking : Value :=
  .map [(.text "name", .text "required"),
    (.text "people", .map [(.text "list_of_objects",
      .map [(.text "age", .list [.text "required", .text "adult"])])])]

theorem errors_of_execute_booking :
    ∃ compiled report,
      adultRules.Extends Builder.IsAlias ∧
      compileSchema { registry := adultRules, limit := 20 } booking = .ok compiled ∧
      compiled.execute [(.text "people", .list [.map [(.text "age", .int 20)],
        .map [(.text "age", .text "7")], .null])] = .ok report ∧
      report.errors = [("name", .text "REQUIRED"),
        ("people", .list [.null, .map [(.text "age", .text "TOO_YOUNG")],
          .text "FORMAT_ERROR"])] ∧
      (∀ e ∈ report.errors, adultRules.IsName (.schema booking) e.1 ∧
        IsError (adultRules.IsCode (.schema booking)) (adultRules.IsName (.schema booking)) e.2) ∧
      Errors.count (.map (Entries.ofNamed report.errors)) = 3 := by
  have hr : adultRules.Extends Builder.IsAlias :=
    (Registry.extends_ofBuiltins _).put (by decide +kernel) ⟨adult, rfl, by decide, by decide⟩
  obtain ⟨compiled, report, hc, he, herrors, hcount⟩ : ∃ compiled report,
      compileSchema { registry := adultRules, limit := 20 } booking = .ok compiled ∧
      compiled.execute [(.text "people", .list [.map [(.text "age", .int 20)],
        .map [(.text "age", .text "7")], .null])] = .ok report ∧
      report.errors = [("name", .text "REQUIRED"),
        ("people", .list [.null, .map [(.text "age", .text "TOO_YOUNG")],
          .text "FORMAT_ERROR"])] ∧
      Errors.count (.map (Entries.ofNamed report.errors)) = 3 :=
    ⟨_, _, rfl, rfl, rfl, rfl⟩
  exact ⟨compiled, report, hr, hc, he, herrors, (errors_of_execute hr hc he).1, hcount⟩

end FieldRules
