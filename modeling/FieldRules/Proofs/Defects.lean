import FieldRules.Proofs.Compile.Failing
import FieldRules.Proofs.Session.Failing

/-!
# What a schema can fail with

Whatever is wrong with a schema is meant to be reported as a defect. Almost always it is, and the
exceptions can be listed (`compileSchema_reports`, `parse_reports`). A defect has a message, which
shows the part of the schema that is wrong, and a part with a whole number that is too large cannot
be shown; it is then the showing that fails. And a pattern may be too large for the engine that
matches it, in one of two ways that are not taken for objections to the pattern.

The exceptions are found where failures begin: in the showing of a value, and in the reading of a
pattern. Everything on the way up either passes a failure on or makes a defect of it.

The list is one of failures as they are described here. A schema that is nested more deeply than the
stack of the machine allows, or that asks for more than its memory, stops the machine itself, and
that is in no list.
-/

set_option autoImplicit false

namespace FieldRules

open Compiling

/-! ## Values that can be shown -/

namespace Value

/-- The value has a text inside of messages. -/
def Showable (v : Value) : Prop := ∃ s, v.shown? = some s

variable {v w : Value}

theorem shown_of_showable (h : v.Showable) : ∃ s, v.shown = .ok s := by
  obtain ⟨s, hs⟩ := h
  exact ⟨s, by rw [shown, hs]⟩

theorem shown_of_not_showable (h : ¬ v.Showable) : v.shown = .error .numberTooLong := by
  unfold shown
  cases hs : v.shown? with
  | some s => exact absurd ⟨s, hs⟩ h
  | none => rfl

/-- Elements can be shown together if each of them can. -/
theorem itemsShown?_eq_some_iff {vs : List Value} :
    (∃ parts, itemsShown? vs = some parts) ↔ ∀ v ∈ vs, v.Showable := by
  induction vs with
  | nil => simp [itemsShown?]
  | cons v rest ih =>
    rw [List.forall_mem_cons, ← ih, itemsShown?, Showable]
    cases v.shown? <;> cases itemsShown? rest <;> simp

theorem showable_of_mem_entries {entries : Entries} {parts : List String}
    (h : entriesShown? entries = some parts) : ∀ e ∈ entries, e.1.Showable ∧ e.2.Showable := by
  induction entries generalizing parts with
  | nil => exact fun e he => absurd he (by simp)
  | cons e rest ih =>
    obtain ⟨k, v⟩ := e
    unfold entriesShown? at h
    cases hk : k.shown? with
    | none => simp [hk] at h
    | some key =>
      cases hv : v.shown? with
      | none => simp [hk, hv] at h
      | some value =>
        cases hrest : entriesShown? rest with
        | none => simp [hk, hv, hrest] at h
        | some others =>
          intro e he
          rcases List.mem_cons.mp he with rfl | he
          · exact ⟨⟨key, hk⟩, ⟨value, hv⟩⟩
          · exact ih hrest e he

theorem showable_list_iff {vs : List Value} : (list vs).Showable ↔ ∀ v ∈ vs, v.Showable := by
  rw [← itemsShown?_eq_some_iff]
  unfold Showable
  rw [shown?]
  cases itemsShown? vs <;> simp

/-- What can be shown has parts that can. -/
theorem hereditary_showable : Hereditary Showable := by
  rintro v ⟨s, hs⟩ w hw
  cases v with
  | list xs => exact showable_list_iff.mp ⟨s, hs⟩ w hw
  | tuple xs =>
    rw [shown?] at hs
    cases hxs : itemsShown? xs with
    | none => simp [hxs] at hs
    | some parts => exact itemsShown?_eq_some_iff.mp ⟨parts, hxs⟩ w hw
  | map entries =>
    obtain ⟨e, he, rfl⟩ := List.mem_map.mp hw
    rw [shown?] at hs
    cases hentries : entriesShown? entries with
    | none => simp [hentries] at hs
    | some parts => exact (showable_of_mem_entries hentries e he).2
  | _ => exact absurd hw (by simp [parts])

end Value

/-! ## Failures that are no defects -/

/-- The faults that a part of a schema can fail with instead of a defect: that a spec in it or the
key of a field in it cannot be shown, or that the pattern of a rule in it is too large. -/
inductive Registry.Escapes (r : Registry) (root : SchemaPart) : Fault → Prop
  | spec {spec : Value} :
    r.Reaches root (.spec spec) → ¬ spec.Showable → Escapes r root .numberTooLong
  | key {entries : Entries} {key spec : Value} :
    r.Reaches root (.schema (.map entries)) → (key, spec) ∈ entries → ¬ key.Showable →
    Escapes r root .numberTooLong
  | pattern {spec source flags : Value} {invocation : Invocation} {fault : Fault} :
    r.Reaches root (.spec spec) → invocation.IsIn spec →
    r.find? invocation.name = some (.builtin .like) →
    Builtin.patternArgs? invocation.args = some (source, flags) →
    Arguments.pattern source flags = .error fault → Arguments.IsOversized fault →
    Escapes r root fault

/-- A failure is a defect, or one of the faults that escape. -/
def Registry.Reported (r : Registry) (root : SchemaPart) (failure : Failure) : Prop :=
  (∃ d, failure = .defect d) ∨ ∃ fault, failure = .fault fault ∧ r.Escapes root fault

section
variable {env : CompileEnv} {root : SchemaPart}

/-- The description of a defect fails only if it shows a value that cannot be shown. -/
theorem Registry.reported_ofDefect {r : Registry} {v : Value}
    (h : ¬ v.Showable → r.Escapes root .numberTooLong) (describe : String → Defect) :
    r.Reported root (.ofDefect (v.shown >>= fun shown => .ok (describe shown))) := by
  by_cases hv : v.Showable
  · obtain ⟨s, hs⟩ := Value.shown_of_showable hv
    rw [hs]
    exact Or.inl ⟨_, rfl⟩
  · rw [Value.shown_of_not_showable hv]
    exact Or.inr ⟨_, rfl, h hv⟩

variable (hr : env.registry.Extends Builder.IsAlias)
include hr

/-- **What a part of a schema fails with is reported.** The induction is on the levels: a failure
from one level below is reported there. -/
theorem reported_of_failsOn (n : Nat) {scope : Option Scope} {requested : Option Bool}
    {part : SchemaPart} {failure : Failure}
    (h : (Compiler.ofLevels env n).FailsOn scope requested part failure)
    (hreach : env.registry.Reaches root part) : env.registry.Reported root failure := by
  induction n generalizing scope requested part failure with
  | zero =>
    cases part with
    | schema v => cases v <;> exact Or.inl ⟨_, (Except.error.inj h).symm⟩
    | spec spec => exact Or.inl ⟨_, (Except.error.inj h).symm⟩
  | succ n ih =>
    have hi := Compiler.ofLevels_restores env n
    have hstep : ∀ spec, env.registry.Reaches root (.spec spec) → ∀ invocation : Invocation,
        invocation.IsIn spec → ∀ field scope failure,
        answer (Compiler.step env (Compiler.ofLevels env n) field invocation) scope =
          .error failure → env.registry.Reported root failure := by
      intro spec hspec invocation hin field scope failure h
      rcases Compiler.step_fails hr hi h with hd | ⟨reason, cause, rfl⟩ | ⟨builder, hb, hbuild⟩
      · exact Or.inl hd
      · refine Registry.reported_ofDefect (fun hargs => .spec hspec fun hshow => hargs ?_) _
        obtain ⟨invocations, hof, hi⟩ := hin
        exact Value.showable_list_iff.mpr
          (Invocation.args_of_hereditary Value.hereditary_showable hof hshow invocation hi)
      · rcases hbuild with ⟨fault, rfl, hlarge, rfl, source, flags, hargs, hread⟩ | ⟨part, hin', h⟩
        · exact Or.inr ⟨fault, rfl, .pattern hspec hin hb hargs hread hlarge⟩
        · refine ih h ?_
          cases part with
          | schema schema => exact hspec.tail (.schema hin hb hin')
          | spec inner => exact hspec.embedded ⟨invocation, builder, hin, hb, hin'⟩
    have hchain : ∀ spec, env.registry.Reaches root (.spec spec) → ∀ entered field scope failure,
        answer (Compiler.chain env (Compiler.ofLevels env n) entered field spec) scope =
          .error failure → env.registry.Reported root failure := by
      intro spec hspec entered field scope failure h
      rcases Compiler.chain_fails hi h with ⟨bad, hbad, rfl⟩ | ⟨invocation, hin, h⟩
      · refine Registry.reported_ofDefect (fun hpart => .spec hspec fun hshow => hpart ?_) _
        exact Invocation.part_of_hereditary Value.hereditary_showable hbad hshow
      · exact hstep spec hspec invocation hin field scope failure h
    cases part with
    | schema v =>
      cases v with
      | map entries =>
        have hfields : answer (within env.limit requested fun scope => do
            let built ← Compiler.fields env (Compiler.ofLevels env n) scope (.map entries) entries
            return ({ fields := built, autoTrim := scope.autoTrim } : CompiledSchema)) scope =
              .error failure := h
        rw [answer_within] at hfields
        split at hfields
        · exact Or.inl ⟨_, (Except.error.inj hfields).symm⟩
        · rw [answer_bind (Compiler.fields_restores hi _ _ entries)] at hfields
          rcases Except.bind_eq_error.mp hfields with hfields | ⟨built, -, hbuilt⟩
          · rcases Compiler.fields_fails hi hfields with ⟨key, spec, hm, rfl⟩ | ⟨name, spec, hm, h⟩
            · exact Registry.reported_ofDefect (fun hkey => .key hreach hm hkey) _
            · exact hchain spec (hreach.field hm) _ _ _ _ h
          · exact nomatch hbuilt
      | _ => exact Or.inl ⟨_, (Except.error.inj h).symm⟩
    | spec spec =>
      have hspec : answer (within env.limit requested fun scope =>
          Compiler.chain env (Compiler.ofLevels env n) scope "" spec) scope = .error failure := h
      rw [answer_within] at hspec
      split at hspec
      · exact Or.inl ⟨_, (Except.error.inj hspec).symm⟩
      · exact hchain spec hreach _ _ _ _ hspec

/-- **What a schema fails with is a defect**, or one of the faults that escape. -/
theorem compileSchema_reports {schema : Value} {autoTrim : Option Bool} {failure : Failure}
    (h : compileSchema env schema autoTrim = .error failure) :
    env.registry.Reported (.schema schema) failure := by
  rw [compileSchema_eq] at h
  have hfails : (Compiler.ofLevels env env.limit.toNat).FailsOn none autoTrim (.schema schema)
    failure := h
  exact reported_of_failsOn hr _ hfails .refl

end

/-! ## Aliases -/

namespace AliasDefinition

theorem readRules_eq_ok {v rules : Value} (h : readRules v = .ok rules) : rules = v := by
  have hread : ∀ empty : Bool, (if empty then .error ["Value error, rules must not be empty"]
      else .ok v : Part Value) = .ok rules → rules = v := by
    rintro (_ | _) h
    · exact (Except.ok.inj h).symm
    · exact nomatch h
  exact hread _ h

/-- The rules of a definition that was read are those that it was given. -/
theorem rules_of_ofValue {v : Value} {definition : AliasDefinition}
    (h : ofValue v = .ok definition) :
    ∃ entries : Entries, v = .map entries ∧ entries.get? "rules" = some definition.rules := by
  cases v with
  | map entries =>
    refine ⟨entries, rfl, ?_⟩
    unfold ofValue at h
    simp only at h
    split at h
    case h_1 name rules error hname hrules herror _ =>
      cases h
      unfold readRequired at hrules
      split at hrules
      case h_1 given hgiven =>
        rw [hgiven, readRules_eq_ok hrules]
      case h_2 => exact nomatch hrules
    case h_2 => exact nomatch h
  | _ => exact nomatch h

/-- **Parsing a definition fails with a defect**, unless the rules are wrong and cannot be shown. -/
theorem parse_reports {v : Value} {failure : Failure} (h : parse v = .error failure) :
    (∃ d, failure = .defect d) ∨ failure = .fault .numberTooLong ∧
      ∃ (entries : Entries) (rules : Value), v = .map entries ∧
        entries.get? "rules" = some rules ∧ ¬ rules.Showable := by
  unfold parse at h
  split at h
  case h_1 definition hread =>
    unfold check at h
    split at h
    · exact nomatch h
    · rename_i bad hbad
      have hfailure := (Except.error.inj h).symm
      unfold Defect.malformedSpec at hfailure
      by_cases hpart : bad.part.Showable
      · obtain ⟨s, hs⟩ := Value.shown_of_showable hpart
        rw [hs] at hfailure
        exact Or.inl ⟨_, hfailure⟩
      · rw [Value.shown_of_not_showable hpart] at hfailure
        obtain ⟨entries, hv, hrules⟩ := rules_of_ofValue hread
        refine Or.inr ⟨hfailure, entries, definition.rules, hv, hrules, fun hshow => hpart ?_⟩
        exact Invocation.part_of_hereditary Value.hereditary_showable hbad hshow
  case h_2 => exact Or.inl ⟨_, (Except.error.inj h).symm⟩

end AliasDefinition

/-- **What is wrong with a schema or an alias is reported as a defect**, with the exceptions that
`Registry.Escapes` lists for schemas, and for aliases the one of rules that cannot be shown. No
other failure comes out of compiling a schema, parsing a definition or registering it, whatever
values stand in them, as long as the stack and the memory of the machine suffice. -/
theorem defects_reported {env : CompileEnv} (hr : env.registry.Extends Builder.IsAlias) :
    (∀ schema autoTrim failure, compileSchema env schema autoTrim = .error failure →
      env.registry.Reported (.schema schema) failure) ∧
    (∀ definition failure, AliasDefinition.parse definition = .error failure →
      (∃ d, failure = .defect d) ∨ failure = .fault .numberTooLong ∧
        ∃ (entries : Entries) (rules : Value), definition = .map entries ∧
          entries.get? "rules" = some rules ∧ ¬ rules.Showable) ∧
    ∀ target definition store failure,
      (Session.registerAlias target definition store).1 = .error failure →
      AliasDefinition.parse definition = .error failure :=
  ⟨fun _ _ _ h => compileSchema_reports hr h, fun _ _ h => AliasDefinition.parse_reports h,
    fun target definition => Session.registerAlias_fails target definition⟩

/-! ## A schema and an alias that are not reported -/

/-- A schema with a pattern that repeats a letter far too often. -/
def manyLetters : Value :=
  .map [(.text "letters", .map [(.text "like", .text "a\x7b99999999999\x7d")])]

/-- An alias for a number that is no rule, and too large to be shown. -/
def hugeAlias : Value :=
  .map [(.text "name", .text "huge"), (.text "rules", .list [.int Numeral.textless])]

/-- The fault of a computation that fails with one. -/
def faultOf? {α : Type} : Except Failure α → Option Fault
  | .error (.fault fault) => some fault
  | _ => none

theorem eq_of_faultOf? {α : Type} {x : Except Failure α} {fault : Fault}
    (h : faultOf? x = some fault) : x = .error (.fault fault) := by
  match x with
  | .error (.fault other) => rw [Option.some.inj h]
  | .error (.defect _) => exact nomatch h
  | .error (.invalid _) => exact nomatch h
  | .ok _ => exact nomatch h

theorem compileSchema_manyLetters :
    compileSchema { registry := .ofBuiltins, limit := 20 } manyLetters =
      .error (.fault .repetitionTooLarge) :=
  eq_of_faultOf? (by decide +kernel)

theorem parse_hugeAlias : AliasDefinition.parse hugeAlias = .error (.fault .numberTooLong) :=
  eq_of_faultOf? (by decide +kernel)

theorem defects_reported_manyLetters :
    Registry.ofBuiltins.Extends Builder.IsAlias ∧
      Registry.ofBuiltins.Escapes (.schema manyLetters) .repetitionTooLarge ∧
      ∃ (entries : Entries) (rules : Value), hugeAlias = .map entries ∧
        entries.get? "rules" = some rules ∧ ¬ rules.Showable := by
  have hr := Registry.extends_ofBuiltins Builder.IsAlias
  obtain ⟨hschema, halias, -⟩ := @defects_reported { registry := .ofBuiltins, limit := 20 } hr
  refine ⟨hr, ?_, ?_⟩
  · rcases hschema _ _ _ compileSchema_manyLetters with ⟨d, hd⟩ | ⟨fault, hfault, hescapes⟩
    · exact nomatch hd
    · cases hfault
      exact hescapes
  · rcases halias _ _ parse_hugeAlias with ⟨d, hd⟩ | ⟨-, hrules⟩
    · exact nomatch hd
    · exact hrules

/-- Neither the schema nor the alias is refused with a defect. -/
theorem defects_escape :
    Registry.ofBuiltins.Extends Builder.IsAlias ∧
      (¬ ∃ compiled, compileSchema { registry := .ofBuiltins, limit := 20 } manyLetters =
        .ok compiled) ∧
      (¬ ∃ d, compileSchema { registry := .ofBuiltins, limit := 20 } manyLetters =
        .error (.defect d)) ∧
      (¬ ∃ definition, AliasDefinition.parse hugeAlias = .ok definition) ∧
      ¬ ∃ d, AliasDefinition.parse hugeAlias = .error (.defect d) := by
  rw [compileSchema_manyLetters, parse_hugeAlias]
  exact ⟨Registry.extends_ofBuiltins _, fun ⟨_, h⟩ => (nomatch h), fun ⟨_, h⟩ => (nomatch h),
    fun ⟨_, h⟩ => (nomatch h), fun ⟨_, h⟩ => (nomatch h)⟩

end FieldRules
