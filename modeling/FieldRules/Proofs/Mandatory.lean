import FieldRules.Proofs.Catalogue
import FieldRules.Proofs.Compile.Reached
import FieldRules.Proofs.Run.Choice
import FieldRules.Proofs.Run.Fields
import FieldRules.Proofs.Session.Validating

/-!
# Mandatory fields are in an accepted output

An accepted output has a value for every field whose spec asks for one (`hasKey_of_validate`). What
asks for one is `required` or `not_empty_list`, an alias of rules that do, or a choice of which
every alternative does; where it stands in a spec, and among what, makes no difference.

A field that is in the input is in the output whenever its chain passes. So the question is about
fields that are absent, and they are in the output only if the chain *wrote*. A check that asks for
a value does not write one; but it does not let a missing one pass, and so it passes only behind a
check that wrote. An alias or a choice in which that happens writes what was written inside of it.
The invariant is that a check of this kind does not pass on a missing value without writing
(`Check.Provides`), and it holds of whole chains as soon as it holds of one of their checks.
-/

set_option autoImplicit false

namespace FieldRules

/-! ## Which specs are mandatory -/

/-- A rule that no missing value passes. -/
def Builtin.demands : Builtin → Bool
  | required | notEmptyList => true
  | _ => false

/-- A rule of the spec does not let a missing value pass: one of the catalogue does so itself, an
alias if its rules do, and a choice if all of its alternatives do. -/
inductive Registry.Mandatory (r : Registry) : Value → Prop
  | rule {spec : Value} {invocation : Invocation} {rule : Builtin} :
    invocation.IsIn spec → invocation.name = rule.name → rule.demands = true → Mandatory r spec
  | aliased {spec : Value} {invocation : Invocation} {definition : AliasDefinition} :
    invocation.IsIn spec → r.find? invocation.name = some (.aliased definition) →
    Mandatory r definition.rules → Mandatory r spec
  | or {spec : Value} {invocation : Invocation} :
    invocation.IsIn spec → invocation.name = Builtin.or.name →
    (∀ alternative ∈ invocation.args, Mandatory r alternative) → Mandatory r spec

/-! ## Checks that do not pass on a missing value without writing -/

/-- The check passes on a missing value only if it writes. -/
def Check.Provides (check : Check) : Prop :=
  ∀ (v : Value) (siblings : Entries) (effect : Effect), v.isMissing = true →
    check.run v siblings = .ok effect → effect.error.truthy = false → effect.write.isSome = true

/-- The chain passes on a missing value only if it writes. -/
def Chain.Provides (chain : Chain) : Prop :=
  ∀ (v : Value) (siblings : Entries) (o : Outcome), v.isMissing = true →
    runChain chain v siblings false = .ok o → o.error = none → o.written = true

/-- **One check that does not pass without writing is enough for a chain.** Until it is reached the
value is either written or still the missing one. -/
theorem Chain.provides_of_mem {chain : List Step} {step : Step} (hm : step ∈ chain)
    (hstep : step.check.Provides) : Chain.Provides chain := by
  induction chain with
  | nil => exact absurd hm (by simp)
  | cons first rest ih =>
    intro v siblings o hv hrun herror
    obtain ⟨effect, heffect, ⟨-, rfl⟩ | ⟨hpass, hrest⟩⟩ := runChain_cons_eq_ok hrun
    · exact nomatch herror
    · cases hwrite : effect.write with
      | some w =>
        rw [hwrite, Option.isSome_some, Bool.or_true] at hrest
        exact written_of_runChain hrest
      | none =>
        rw [hwrite] at hrest
        rcases List.mem_cons.mp hm with rfl | hm
        · have hwrote := hstep v siblings effect hv heffect hpass
          rw [hwrite] at hwrote
          exact nomatch hwrote
        · exact ih hm v siblings o hv hrest herror

namespace Check

/-- A check that passes on no missing value does not pass on one without writing. -/
theorem provides_of_fails {leaf : Leaf}
    (h : ∀ (v : Value) (siblings : Entries), v.isMissing = true →
      ∃ code : Code, leaf.run v siblings = .ok (.fail code)) : (Check.leaf leaf).Provides := by
  intro v siblings effect hv hrun hpass
  obtain ⟨code, hfail⟩ := h v siblings hv
  rw [Check.run, hfail, Except.ok.injEq] at hrun
  rw [← hrun] at hpass
  simp at hpass

theorem provides_required : (Check.leaf .required).Provides :=
  provides_of_fails fun v siblings hv => ⟨.required, by rw [Leaf.run, if_pos hv]⟩

theorem provides_notEmptyList : (Check.leaf .notEmptyList).Provides :=
  provides_of_fails fun v siblings hv => ⟨.cannotBeEmpty, by simp only [Leaf.run, if_pos hv]⟩

/-- An error of the alias counts as one, so that the chain inside has passed if the alias has. -/
theorem provides_aliased {definition : AliasDefinition} (hd : definition.Valid) {chain : Chain}
    (h : Chain.Provides chain) : (aliased definition.error chain).Provides := by
  intro v siblings effect hv hrun hpass
  rw [Check.run] at hrun
  obtain ⟨o, ho, hrun⟩ := Except.bind_eq_ok.mp hrun
  cases herror : o.error with
  | none =>
    rw [herror] at hrun
    simp only [h v siblings o hv ho herror, if_true] at hrun
    cases hrun
    rfl
  | some error =>
    rw [herror] at hrun
    cases hrun
    cases hfixed : definition.error with
    | none =>
      rw [hfixed] at hpass
      rw [Option.map_none, Option.getD_none, truthy_of_runChain ho herror] at hpass
      cases hpass
    | some code =>
      rw [hfixed] at hpass
      have hcode : code.isEmpty = true := by simpa [Value.truthy] using hpass
      exact absurd hfixed (by rw [String.isEmpty_iff.mp hcode]; exact hd.error)

/-- The alternative that is taken has written, and if there is none the choice does not pass. -/
theorem provides_firstOf {chains : List Chain} (hne : chains ≠ [])
    (h : ∀ chain ∈ chains, Chain.Provides chain) : (firstOf chains).Provides := by
  intro v siblings effect hv hrun hpass
  rw [Check.run] at hrun
  obtain ⟨chain, hm, o, ho, rfl⟩ := runFirst_eq_ok hne hrun
  cases herror : o.error with
  | none =>
    rw [Outcome.write_effect herror, if_pos (h chain hm v siblings o hv ho herror)]
    rfl
  | some error =>
    rw [Outcome.effect_of_error herror] at hpass
    exact absurd (truthy_of_runChain ho herror) (Bool.eq_false_iff.mp hpass)

end Check

/-! ## Mandatory specs -/

theorem Builtin.provides_of_yields {c : Compilation} {rule : Builtin} {args : List Value}
    {check : Check} (hrule : rule.demands = true) (h : (rule.recipe args).Yields c check) :
    check.Provides := by
  cases rule with
  | required =>
    cases args with
    | nil =>
      rw [Recipe.Yields.of_ready h]
      exact Check.provides_required
    | cons _ _ => exact nomatch h
  | notEmptyList =>
    cases args with
    | nil =>
      rw [Recipe.Yields.of_ready h]
      exact Check.provides_notEmptyList
    | cons _ _ => exact nomatch h
  | _ => exact nomatch hrule

section
variable {r : Registry} (hr : r.Extends Builder.IsAlias)
include hr

/-- One level of compiling: the chain of a mandatory spec provides, if those one level below do. -/
theorem Registry.Extends.provides_of_makesChain {c : Compilation}
    (hc : ∀ spec chain, c.field spec chain → r.Mandatory spec → Chain.Provides chain)
    {autoTrim : Bool} {spec : Value} {chain : Chain} (hs : r.Mandatory spec)
    (h : c.MakesChain r autoTrim spec chain) : Chain.Provides chain := by
  cases hs with
  | rule hin hname hrule =>
    obtain ⟨step, hm, hstep⟩ := h.makesStep hin
    have hyields := hr.yields_of_name hname hstep
    exact Chain.provides_of_mem hm (Builtin.provides_of_yields hrule hyields)
  | aliased hin hfind hrules =>
    obtain ⟨step, hm, -, builder, hb, -, hyields⟩ := h.makesStep hin
    cases hfind.symm.trans hb
    obtain ⟨inner, hcheck, hinner⟩ := (hr.builds_of_yields hb hyields).of_aliased
    refine Chain.provides_of_mem hm ?_
    rw [hcheck]
    exact Check.provides_aliased (hr.valid_of_find? (fun _ => Builder.IsAlias.valid) hb)
      (hc _ inner hinner hrules)
  | or hin hname halternatives =>
    obtain ⟨step, hm, -, builder, hb, -, hyields⟩ := h.makesStep hin
    have hor := hr.builtin .or
    rw [← hname] at hor
    cases hor.symm.trans hb
    obtain ⟨chains, hcheck, hne, hchains⟩ := (hr.builds_of_yields hb hyields).of_or
    refine Chain.provides_of_mem hm ?_
    rw [hcheck]
    refine Check.provides_firstOf ?_ fun inner hi => ?_
    · rintro rfl
      exact hne (List.forall₂_nil_right_iff.mp hchains)
    · obtain ⟨alternative, ha, hinner⟩ := hchains.exists_of_mem_right hi
      exact hc alternative inner hinner (halternatives alternative ha)

/-- **The chain of a mandatory spec does not pass on a missing value without writing.** -/
theorem Registry.Extends.provides_of_field {autoTrim : Bool} {n : Nat} {spec : Value}
    {chain : Chain} (h : (Compilation.ofLevels r autoTrim n).field spec chain)
    (hs : r.Mandatory spec) : Chain.Provides chain := by
  have hprovides : r.Mandatory spec → Chain.Provides chain :=
    Compilation.ofLevels_field_induction
      (fun c hc spec chain hmakes hs => hr.provides_of_makesChain hc hs hmakes) h
  exact hprovides hs

end

/-! ## Accepted outputs -/

/-- A result is accepted if the input is a mapping for which the schema reports no error. -/
theorem Validator.resultOf_eq_ok {compiled : CompiledSchema} {data output : Value}
    (h : resultOf compiled data = .ok (.ok output)) :
    ∃ entries report, data = .map entries ∧ compiled.execute entries = .ok report ∧
      report.errors = [] ∧ output = report.outputValue := by
  cases data with
  | map entries =>
    obtain ⟨report, hrun, h⟩ := Except.bind_eq_ok.mp h
    by_cases herrors : report.errors.isEmpty = true
    · rw [if_pos herrors] at h
      cases h
      exact ⟨entries, report, rfl, hrun, List.isEmpty_iff.mp herrors, rfl⟩
    · rw [if_neg herrors] at h
      exact nomatch h
  | _ => exact nomatch h

/-- A field with a chain that provides has a value in a report without errors. -/
theorem exists_mem_output_of_provides {fields : List (String × Chain)} {snapshot : Entries}
    {report : Report} (hrun : runFields fields snapshot = .ok report) (herrors : report.errors = [])
    {name : String} {chain : Chain} (hm : (name, chain) ∈ fields)
    (hchain : Chain.Provides chain) : ∃ w, (name, w) ∈ report.output := by
  obtain ⟨o, ho⟩ := runField_of_mem hrun hm
  have hpass : o.error = none := by
    cases he : o.error with
    | none => rfl
    | some e =>
      have hmem : (name, e) ∈ report.errors := (mem_errors_iff hrun).mpr ⟨chain, o, hm, ho, he⟩
      rw [herrors] at hmem
      exact absurd hmem (by simp)
  refine ⟨o.value, (mem_output_iff hrun).mpr ⟨chain, o, hm, ho, hpass, ?_, rfl⟩⟩
  cases hget : snapshot.get? name with
  | some v => exact Or.inr rfl
  | none =>
    simp only [runField, hget, Option.getD_none] at ho
    exact Or.inl (hchain .null snapshot o rfl ho hpass)

/-- **Mandatory fields are in every output that a validator accepts.** -/
theorem hasKey_of_validate {s s' : Store} {id : String} {v : Validator}
    (hv : s.validator? id = some v) {r : Registry} (hcompiles : v.CompilesAgainst r)
    (hr : r.Extends Builder.IsAlias) {data output : Value}
    (h : Session.validate id data s = (.ok (some (.ok output)), s')) :
    ∃ entries values, v.schema = .map entries ∧ output = .map values ∧
      ∀ name spec, (.text name, spec) ∈ entries → r.Mandatory spec →
        Entries.hasKey values name = true := by
  obtain ⟨compiled, limit, hc, hresult⟩ := Session.validate_eq_ok hv hcompiles h
  obtain ⟨input, report, -, hrun, herrors, rfl⟩ := Validator.resultOf_eq_ok hresult
  have hplain : ({ registry := r, limit } : CompileEnv).registry.Plain := hr.plain_of_isAlias
  obtain ⟨entries, hentries, -⟩ :=
    Compilation.fields_of_ofLevels ((compileSchema_eq_ok_iff hplain _ _ _).mp hc)
  rw [hentries] at hc
  rw [CompiledSchema.execute_eq] at hrun
  refine ⟨entries, _, hentries, rfl, fun name spec he hs => ?_⟩
  obtain ⟨chain, n, hm, hfield⟩ := exists_chain_of_compileSchema hplain hc he
  obtain ⟨w, hw⟩ := exists_mem_output_of_provides hrun herrors hm (hr.provides_of_field hfield hs)
  exact Entries.hasKey_ofNamed hw

/-! ## A choice between two ways to ask -/

/-- A code that is asked for. -/
def voucher : AliasDefinition where
  name := "voucher"
  rules := .list [.text "trim", .text "required", .map [(.text "max_length", .int 12)]]
  error := some "BAD_VOUCHER"

/-- The catalogue with vouchers. -/
def voucherRules : Registry := Registry.ofBuiltins.put "voucher" (.aliased voucher)

/-- The fields of a checkout: a default in front of a choice of which both sides ask for a value,
and a note. -/
def checkout : Entries :=
  [(.text "by", .list [.map [(.text "default", .text "cash")],
      .map [(.text "or", .list [.text "not_empty_list", .text "voucher"])]]),
    (.text "note", .text "string")]

theorem voucherRules_extends : voucherRules.Extends Builder.IsAlias := by
  refine Registry.Extends.put (Registry.extends_ofBuiltins _) ?_ ?_
  · decide +kernel
  · exact ⟨voucher, rfl, by decide, by decide⟩

/-- The spec of the first field, which is mandatory whichever side of the choice is taken. -/
theorem mandatory_by :
    voucherRules.Mandatory (.list [.map [(.text "default", .text "cash")],
      .map [(.text "or", .list [.text "not_empty_list", .text "voucher"])]]) := by
  have hlist : voucherRules.Mandatory (.text "not_empty_list") :=
    .rule ⟨_, rfl, List.mem_cons_self⟩ (show _ = Builtin.notEmptyList.name from rfl) rfl
  have hrules : voucherRules.Mandatory voucher.rules :=
    .rule ⟨_, rfl, List.mem_cons_of_mem _ List.mem_cons_self⟩
      (show _ = Builtin.required.name from rfl) rfl
  have hvoucher : voucherRules.Mandatory (.text "voucher") :=
    .aliased ⟨_, rfl, List.mem_cons_self⟩ rfl hrules
  refine .or ⟨_, rfl, List.mem_cons_of_mem _ List.mem_cons_self⟩ rfl fun alternative ha => ?_
  simp only [Value.items?, Option.getD_some, List.mem_cons, List.not_mem_nil, or_false] at ha
  rcases ha with rfl | rfl
  · exact hlist
  · exact hvoucher

/-- A validator that has not been compiled. -/
def atCheckout : Validator where
  schema := .map checkout
  autoTrim := false
  registry := voucherRules

theorem hasKey_of_validate_checkout :
    ∃ s' values, atCheckout.CompilesAgainst voucherRules ∧
      voucherRules.Extends Builder.IsAlias ∧
      Session.validate "checkout" (.map [(.text "note", .text "thanks")])
        { validators := [("checkout", atCheckout)] } = (.ok (some (.ok (.map values))), s') ∧
      values = [(.text "by", .text "cash"), (.text "note", .text "thanks")] ∧
      Entries.hasKey values "by" = true := by
  obtain ⟨s', h⟩ : ∃ s', Session.validate "checkout" (.map [(.text "note", .text "thanks")])
      { validators := [("checkout", atCheckout)] } =
        (.ok (some (.ok (.map [(.text "by", .text "cash"), (.text "note", .text "thanks")]))),
          s') := ⟨_, rfl⟩
  have hv : ({ validators := [("checkout", atCheckout)] } : Store).validator? "checkout" =
      some atCheckout := rfl
  have hcompiles : atCheckout.CompilesAgainst voucherRules := rfl
  obtain ⟨entries, values, hentries, hvalues, hall⟩ :=
    hasKey_of_validate hv hcompiles voucherRules_extends h
  cases hentries
  cases hvalues
  exact ⟨s', _, hcompiles, voucherRules_extends, h, rfl,
    hall "by" _ List.mem_cons_self mandatory_by⟩

end FieldRules
