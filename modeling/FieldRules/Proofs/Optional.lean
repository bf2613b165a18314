import Mathlib.Data.List.TakeWhile
import FieldRules.Proofs.Catalogue
import FieldRules.Proofs.Compile.Kept
import FieldRules.Proofs.Compile.Top
import FieldRules.Proofs.Run.Fields

/-!
# Fields are optional by default

A field need not be there unless its spec says so. Four rules of the catalogue take notice of a
missing value, three of which ask for one and one fills one in; all others let it pass as it is, and
so does every spec that has none of the four, whatever else it does to the values that are there
(`passes_of_isOptional`). A rule for the items of a list, or for the fields of an object, says
nothing about the list or the object; the alternatives of a choice and the rules of an alias do.

A check *skips* a missing value if it has no error for it and leaves it as it is. It may well write
it: what removes characters from a text removes none from the empty one, and writes the empty text.
Only in the place of null nothing is written, which is why a field that is absent from the input
stays absent.
-/

set_option autoImplicit false

namespace FieldRules

/-! ## Which specs are optional -/

/-- A rule that takes notice of a missing value. -/
def Builtin.mindsMissing : Builtin → Bool
  | required | notEmpty | notEmptyList | default => true
  | _ => false

/-- The specs that a rule applies to the very value that it is applied to. -/
def Builder.alternatives : Builder → List Value → List Value
  | builtin .or, args => args
  | aliased definition, _ => [definition.rules]
  | _, _ => []

namespace Registry

/-- A rule of a spec has another spec applied to the same value. -/
def HandsOn (r : Registry) (spec inner : Value) : Prop :=
  ∃ (invocation : Invocation) (builder : Builder), invocation.IsIn spec ∧
    r.find? invocation.name = some builder ∧ inner ∈ builder.alternatives invocation.args

/-- No rule that takes notice of a missing value is in the spec, nor in any that it has applied to
the same value. -/
def IsOptional (r : Registry) (spec : Value) : Prop :=
  ∀ inner, Relation.ReflTransGen r.HandsOn spec inner → ∀ invocation : Invocation,
    invocation.IsIn inner → ∀ rule : Builtin, rule.mindsMissing = true →
      invocation.name ≠ rule.name

section
variable {r : Registry} {spec inner : Value}

theorem IsOptional.of_handsOn (h : r.IsOptional spec) (hi : r.HandsOn spec inner) :
    r.IsOptional inner := fun last hlast => h last (hlast.head hi)

end

end Registry

/-! ## Checks that skip missing values -/

/-- The check lets a missing value pass as it is, and writes nothing in the place of null. -/
def Check.Skips (check : Check) : Prop :=
  ∀ (v : Value) (siblings : Entries), v.isMissing = true →
    ∃ write, check.run v siblings = .ok { write } ∧ write.getD v = v ∧ (v = .null → write = none)

/-- The chain lets a missing value pass as it is, and leaves null unwritten. -/
def Chain.Skips (chain : Chain) : Prop :=
  ∀ (v : Value) (siblings : Entries), v.isMissing = true →
    ∃ written, runChain chain v siblings false = .ok { value := v, written } ∧
      (v = .null → written = false)

theorem Value.isMissing_iff {v : Value} : v.isMissing = true ↔ v = .null ∨ v = .text "" := by
  cases v with
  | text s => simp [isMissing]
  | _ => simp [isMissing]

/-- A check that passes over a missing value without writing skips it. -/
theorem Check.skips_of_pass {check : Check}
    (h : ∀ (v : Value) (siblings : Entries), v.isMissing = true →
      check.run v siblings = .ok .pass) : check.Skips := by
  intro v siblings hv
  exact ⟨none, h v siblings hv, rfl, fun _ => rfl⟩

/-! ### Checks without parts -/

/-- A check that takes notice of a missing value. -/
def Leaf.mindsMissing : Leaf → Bool
  | required | notEmpty | notEmptyList | default _ => true
  | _ => false

/-- Only the checks of the four rules take notice of a missing value. -/
theorem Builtin.leaf_mindsMissing (c : Compilation) (rule : Builtin) (args : List Value) :
    (rule.recipe args).Only c fun check => ∀ leaf, check = .leaf leaf →
      rule.mindsMissing = false → leaf.mindsMissing = false := by
  have hother : ∀ {check : Check}, (∀ leaf, check ≠ .leaf leaf) → ∀ leaf, check = .leaf leaf →
      rule.mindsMissing = false → leaf.mindsMissing = false :=
    fun h leaf hleaf => absurd hleaf (h leaf)
  have hminds : ∀ {made : Leaf}, (rule.mindsMissing = false → made.mindsMissing = false) →
      ∀ leaf, Check.leaf made = .leaf leaf → rule.mindsMissing = false →
        leaf.mindsMissing = false := by
    rintro made h leaf ⟨⟩
    exact h
  unfold recipe
  split
  all_goals try split
  all_goals first
    | exact Recipe.only_fail _
    | exact Recipe.only_ready (hminds (by decide))
    | exact Recipe.only_ready (hminds fun h => nomatch h)
    | exact Builtin.only_leafOf fun _ _ => hminds fun _ => rfl
    | exact Recipe.only_onSchema fun _ => Recipe.only_ready (hother (by simp))
    | exact Recipe.only_onField fun _ => Recipe.only_ready (hother (by simp))
    | exact Recipe.only_onFields fun _ => Recipe.only_ready (hother (by simp))
    | exact Builtin.only_onSelector fun _ _ _ => Recipe.only_ready (hother (by simp))

theorem Modifier.apply_empty (modifier : Modifier) : modifier.apply "" = "" := by
  cases modifier <;> rfl

theorem Leaf.skips {leaf : Leaf} (hleaf : leaf.mindsMissing = false) : (Check.leaf leaf).Skips := by
  cases leaf with
  | required | notEmpty | notEmptyList | default value => exact nomatch hleaf
  | modify modifier =>
    intro v siblings hv
    rcases Value.isMissing_iff.mp hv with rfl | rfl
    · exact ⟨none, by simp [Check.run, run, Effect.pass], rfl, fun _ => rfl⟩
    · refine ⟨some (.text ""), ?_, rfl, fun h => absurd h (by simp)⟩
      simp [Check.run, run, Modifier.apply_empty, Effect.wrote]
  | _ =>
    refine Check.skips_of_pass fun v siblings hv => ?_
    simp [Check.run, run, onText, hv]

/-! ### Checks with parts -/

/-- **A chain of checks that skip missing values skips them.** -/
theorem Chain.skips_of_steps {chain : List Step} (h : ∀ step ∈ chain, step.check.Skips) :
    Chain.Skips chain := by
  induction chain with
  | nil => exact fun v siblings _ => ⟨false, runChain_nil v siblings false, fun _ => rfl⟩
  | cons step rest ih =>
    intro v siblings hv
    obtain ⟨write, hwrite, hvalue, hnull⟩ := h step List.mem_cons_self v siblings hv
    obtain ⟨written, hrest, hwritten⟩ :=
      ih (fun s hs => h s (List.mem_cons_of_mem _ hs)) v siblings hv
    refine ⟨write.isSome || written, ?_, fun hv => ?_⟩
    · rw [runChain_cons, hwrite, Except.ok_bind, if_neg (by simp [Value.truthy]), hvalue,
        runChain_written, hrest]
      simp [Except.map, Outcome.since]
    · rw [hnull hv, hwritten hv]
      rfl

namespace Check

theorem skips_autoTrim : Check.autoTrim.Skips := by
  have hleaf : (Check.leaf (.modify .trim)).Skips := Leaf.skips rfl
  intro v siblings hv
  rw [run_autoTrim]
  simpa only [Check.run] using hleaf v siblings hv

/-- A check that does as a chain does, where that passes, skips what the chain skips. -/
theorem skips_of_passed {check : Check} {chain : Chain} (h : Chain.Skips chain)
    (hrun : ∀ (v : Value) (siblings : Entries) (o : Outcome),
      runChain chain v siblings false = .ok o → o.error = none →
        check.run v siblings = .ok (if o.written then .wrote o.value else .pass)) :
    check.Skips := by
  intro v siblings hv
  obtain ⟨written, hchain, hnull⟩ := h v siblings hv
  refine ⟨if written then some v else none, ?_, ?_, fun hv => ?_⟩
  · rw [hrun v siblings _ hchain rfl]
    cases written <;> rfl
  · cases written <;> rfl
  · rw [hnull hv]
    rfl

theorem skips_aliased {fixed : Option String} {chain : Chain} (h : Chain.Skips chain) :
    (aliased fixed chain).Skips := by
  refine skips_of_passed h fun v siblings o ho herror => ?_
  rw [Check.run, ho, Except.ok_bind, herror]
  rfl

/-- The first alternative is taken, because it passes. -/
theorem skips_firstOf {chain : Chain} {others : List Chain} (h : Chain.Skips chain) :
    (firstOf (chain :: others)).Skips := by
  refine skips_of_passed h fun v siblings o ho herror => ?_
  rw [Check.run, runFirst, ho, Except.ok_bind, herror]
  rfl

/-- **A check skips missing values if it is not one of the four, and what it hands the value on to
skips them.** -/
theorem skips_of_builds {c : Compilation} {builder : Builder} {args : List Value} {check : Check}
    (h : builder.Builds c args check)
    (hleaf : ∀ leaf, check = .leaf leaf → leaf.mindsMissing = false)
    (hinner : ∀ inner ∈ builder.alternatives args, ∀ chain, c.field inner chain →
      Chain.Skips chain) : check.Skips := by
  cases h with
  | leaf _ => exact Leaf.skips (hleaf _ rfl)
  | object _ | variant _ =>
    refine skips_of_pass fun v siblings hv => ?_
    rw [Check.run, if_pos hv]
  | each _ _ | eachObject _ | eachVariant _ =>
    refine skips_of_pass fun v siblings hv => ?_
    rw [Check.run, checkItems, if_pos hv]
  | firstOf hargs hchains =>
    cases hchains with
    | nil => exact absurd rfl hargs
    | @cons spec chain _ _ hchain _ =>
      exact skips_firstOf (hinner spec List.mem_cons_self chain hchain)
  | @aliased definition chain hchain =>
    exact skips_aliased (hinner definition.rules (List.mem_singleton.mpr rfl) chain hchain)

end Check

/-! ## Optional specs -/

section
variable {r : Registry} (hr : r.Extends Builder.IsAlias)
include hr

/-- One level of compiling: the chain of an optional spec skips missing values, if those one level
below do. -/
theorem Registry.Extends.skips_of_makesChain {c : Compilation}
    (hc : ∀ spec chain, c.field spec chain → r.IsOptional spec → Chain.Skips chain)
    {autoTrim : Bool} {spec : Value} {chain : Chain} (hs : r.IsOptional spec)
    (h : c.MakesChain r autoTrim spec chain) : Chain.Skips chain := by
  refine Chain.skips_of_steps fun step hstep => ?_
  rcases h.yields_of_mem hstep with htrim | ⟨invocation, builder, hin, hb, hyields⟩
  · rw [htrim]
    exact Check.skips_autoTrim
  · have hbuilds := hr.builds_of_yields hb hyields
    refine Check.skips_of_builds hbuilds (fun leaf hleaf => ?_) fun inner hinner made hmade =>
      hc inner made hmade (hs.of_handsOn ⟨invocation, builder, hin, hb, hinner⟩)
    rw [hleaf] at hbuilds
    obtain ⟨rule, rfl⟩ := hbuilds.exists_rule_of_leaf
    have hrule : rule.mindsMissing = false := by
      rw [Bool.eq_false_iff]
      exact fun hminds => hs spec .refl invocation hin rule hminds (hr.name_of_find? hb)
    exact Builtin.leaf_mindsMissing c rule _ _ hyields leaf hleaf hrule

/-- **The chain of an optional spec skips missing values.** -/
theorem Registry.Extends.skips_of_field {autoTrim : Bool} {n : Nat} {spec : Value} {chain : Chain}
    (h : (Compilation.ofLevels r autoTrim n).field spec chain) (hs : r.IsOptional spec) :
    Chain.Skips chain := by
  have hskips : r.IsOptional spec → Chain.Skips chain :=
    Compilation.ofLevels_field_induction
      (fun c hc spec chain hmakes hs => hr.skips_of_makesChain hc hs hmakes) h
  exact hskips hs

end

/-- A value that is not provided: null, the empty text, or what is the empty text once it has been
trimmed. -/
def Value.NotProvided (autoTrim : Bool) (v : Value) : Prop :=
  v = .null ∨ v = .text "" ∨
    autoTrim = true ∧ ∃ s : String, v = .text s ∧ ∀ c ∈ s.toList, Text.isBlank c = true

theorem Text.trim_of_blank {s : String} (h : ∀ c ∈ s.toList, isBlank c = true) : trim s = "" := by
  have hdrop : s.toList.dropWhile isBlank = [] := List.dropWhile_eq_nil_iff.mpr h
  rw [trim, trimList, hdrop]
  rfl

/-- What is not provided is missing in what the fields see. -/
theorem Value.NotProvided.isMissing {autoTrim : Bool} {o : Option Value}
    (h : (o.getD .null).NotProvided autoTrim) :
    ((if autoTrim then o.map trimmed else o).getD .null).isMissing = true := by
  cases o with
  | none => cases autoTrim <;> rfl
  | some v =>
    rcases h with h | h | ⟨rfl, s, h, hs⟩
    · rw [Option.getD_some] at h
      rw [h]
      cases autoTrim <;> rfl
    · rw [Option.getD_some] at h
      rw [h]
      cases autoTrim <;> rfl
    · rw [Option.getD_some] at h
      simp [h, trimmed, Text.trim_of_blank hs, Value.isMissing]

/-- A chain that skips missing values passes whatever is not provided, since that is missing after
the trim pass. -/
theorem Chain.Skips.passes {autoTrim : Bool} {steps : List Step}
    (h : Chain.Skips (withTrim autoTrim steps)) {v : Value} (hv : v.NotProvided autoTrim)
    (siblings : Entries) :
    ∃ o, runChain (withTrim autoTrim steps) v siblings false = .ok o ∧ o.error = none ∧
      (o.value = .null ∨ o.value = .text "") := by
  have hmissing : ∀ w : Value, w = .null ∨ w = .text "" →
      ∃ o, runChain (withTrim autoTrim steps) w siblings false = .ok o ∧ o.error = none ∧
        (o.value = .null ∨ o.value = .text "") := by
    intro w hw
    obtain ⟨written, hrun, -⟩ := h w siblings (Value.isMissing_iff.mpr hw)
    exact ⟨_, hrun, rfl, hw⟩
  rcases hv with hv | hv | ⟨rfl, s, rfl, hs⟩
  · exact hmissing v (Or.inl hv)
  · exact hmissing v (Or.inr hv)
  · obtain ⟨o, hrun, ho⟩ := hmissing (.text "") (Or.inr rfl)
    refine ⟨o, ?_, ho⟩
    -- The trim pass makes the empty text of both.
    rw [← hrun, withTrim, if_pos rfl, runChain_cons, runChain_cons]
    simp only [Compiler.trimStep, Check.run, Text.trim_of_blank hs]
    rfl

/-! ## Fields that are not provided -/

section
variable {fields : List (String × Chain)} {snapshot : Entries} {report : Report} {name : String}
  (hf : ∀ f ∈ fields, f.1 = name → Chain.Skips f.2)
  (hrun : runFields fields snapshot = .ok report)
include hf hrun

/-- A field that skips missing values has no error for one. -/
theorem not_mem_errors_of_skips (hv : ((snapshot.get? name).getD .null).isMissing = true)
    (e : Value) : (name, e) ∉ report.errors := by
  intro he
  obtain ⟨chain, o, hm, hfield, herror⟩ := (mem_errors_iff hrun).mp he
  obtain ⟨written, hskip, -⟩ := hf _ hm rfl _ snapshot hv
  rw [runField, hskip, Except.ok.injEq] at hfield
  rw [← hfield] at herror
  exact nomatch herror

/-- A field that skips missing values stays absent. -/
theorem not_mem_output_of_skips (hv : snapshot.get? name = none) (w : Value) :
    (name, w) ∉ report.output := by
  intro hw
  obtain ⟨chain, o, hm, hfield, -, hthere, -⟩ := (mem_output_iff hrun).mp hw
  obtain ⟨written, hskip, hnull⟩ := hf _ hm rfl .null snapshot rfl
  rw [runField, hv, Option.getD_none, hskip, Except.ok.injEq] at hfield
  rw [← hfield, hnull rfl, hv] at hthere
  exact absurd hthere (by simp)

end

/-- **A field is optional unless its spec asks for it.** The chain of an optional spec passes on
what is not provided, whatever the siblings, with a value that is still missing. So in a schema in
which the specs under a name are optional, that name has no error if its value is not provided, and
no value in the output if it is not there at all. -/
theorem passes_of_isOptional {env : CompileEnv} (hr : env.registry.Extends Builder.IsAlias)
    (autoTrim : Option Bool) :
    (∀ spec chain, env.registry.IsOptional spec → compileField env spec autoTrim = .ok chain →
      ∀ (v : Value) (siblings : Entries), v.NotProvided (autoTrim.getD false) →
        ∃ o, runChain chain v siblings false = .ok o ∧ o.error = none ∧
          (o.value = .null ∨ o.value = .text "")) ∧
    ∀ entries compiled, compileSchema env (.map entries) autoTrim = .ok compiled →
      ∀ name, (∀ spec, (.text name, spec) ∈ entries → env.registry.IsOptional spec) →
      ∀ data report, compiled.execute data = .ok report →
        (((data.get? name).getD .null).NotProvided (autoTrim.getD false) →
          ∀ e, (name, e) ∉ report.errors) ∧
        (data.get? name = none → ∀ w, (name, w) ∉ report.output) := by
  have hplain := hr.plain_of_isAlias
  constructor
  · intro spec chain hs hc v siblings hv
    rw [compileField_eq_ok_iff hplain] at hc
    have hskips := hr.skips_of_field hc hs
    obtain ⟨steps, rfl⟩ := Compilation.exists_withTrim_of_ofLevels hc
    exact hskips.passes hv siblings
  · intro entries compiled hc name hs data report hrun
    rw [CompiledSchema.execute_eq] at hrun
    have htrim : compiled.autoTrim = autoTrim.getD false := autoTrim_of_compileSchema hc
    have hf : ∀ f ∈ compiled.fields, f.1 = name → Chain.Skips f.2 := by
      rintro f hm rfl
      obtain ⟨spec, n, he, hfield⟩ := exists_spec_of_compileSchema hplain hc hm
      exact hr.skips_of_field hfield (hs spec he)
    have hget := compiled.get?_snapshot data name
    rw [htrim] at hget
    constructor
    · intro hv
      refine not_mem_errors_of_skips hf hrun ?_
      rw [hget]
      exact hv.isMissing
    · intro habsent
      refine not_mem_output_of_skips hf hrun ?_
      rw [hget, habsent]
      cases autoTrim.getD false <;> rfl

/-! ## A profile with little in it -/

/-- A tag is a short text in small letters. -/
def hashtag : AliasDefinition where
  name := "tag"
  rules := .list [.text "to_lc", .map [(.text "max_length", .int 8)]]
  error := some "BAD_TAG"

/-- The catalogue with tags. -/
def tagRules : Registry := Registry.ofBuiltins.put "tag" (.aliased hashtag)

/-- What may stand for a nickname: a number, or a tag. -/
def nickname : Value :=
  .list [.text "string", .map [(.text "or", .list [.text "positive_integer", .text "tag"])]]

/-- The fields of a profile: a number, a nickname, and tags of which none may be missing. -/
def profile : Entries :=
  [(.text "id", .text "required"), (.text "nick", nickname),
    (.text "tags", .map [(.text "list_of", .list [.text "required", .text "tag"])])]

theorem tagRules_extends : tagRules.Extends Builder.IsAlias := by
  refine Registry.Extends.put (Registry.extends_ofBuiltins _) ?_ ?_
  · decide +kernel
  · exact ⟨hashtag, rfl, by decide, by decide⟩

theorem Builtin.name_of_mindsMissing {rule : Builtin} (h : rule.mindsMissing = true) :
    rule.name ∈ ["required", "not_empty", "not_empty_list", "default"] := by
  cases rule
  case required | notEmpty | notEmptyList | default => decide
  all_goals exact Bool.noConfusion h

/-- A spec is optional if its rules have other names than the four, and hand the value on only to
specs that are optional. -/
theorem Registry.isOptional_of_rules {r : Registry} {spec : Value} {invocations : List Invocation}
    (hspec : Invocation.ofSpec spec = .ok invocations)
    (h : ∀ invocation ∈ invocations,
      invocation.name ∉ ["required", "not_empty", "not_empty_list", "default"] ∧
      ∃ builder, r.find? invocation.name = some builder ∧
        ∀ inner ∈ builder.alternatives invocation.args, r.IsOptional inner) :
    r.IsOptional spec := by
  have hin : ∀ invocation : Invocation, invocation.IsIn spec → invocation ∈ invocations := by
    rintro invocation ⟨others, hothers, hm⟩
    rw [hspec, Except.ok.injEq] at hothers
    rw [hothers]
    exact hm
  intro last hlast
  rcases hlast.cases_head with rfl | ⟨inner, ⟨invocation, builder, hi, hb, hinner⟩, hrest⟩
  · intro invocation hi rule hminds hname
    obtain ⟨hfour, -⟩ := h invocation (hin invocation hi)
    rw [hname] at hfour
    exact hfour (Builtin.name_of_mindsMissing hminds)
  · obtain ⟨-, other, hother, hall⟩ := h invocation (hin invocation hi)
    rw [hb, Option.some.injEq] at hother
    rw [← hother] at hall
    exact hall inner hinner last hrest

theorem isOptional_nickname : tagRules.IsOptional nickname := by
  have hinteger : tagRules.IsOptional (.text "positive_integer") := by
    refine Registry.isOptional_of_rules rfl fun invocation hm => ?_
    rw [List.mem_singleton.mp hm]
    exact ⟨by decide, .builtin .positiveInteger, rfl, fun _ h => nomatch h⟩
  have hshort : tagRules.IsOptional hashtag.rules := by
    refine Registry.isOptional_of_rules rfl fun invocation hm => ?_
    simp only [List.mem_cons, List.not_mem_nil, or_false] at hm
    rcases hm with rfl | rfl
    · exact ⟨by decide, .builtin .toLower, rfl, fun _ h => nomatch h⟩
    · exact ⟨by decide, .builtin .maxLength, rfl, fun _ h => nomatch h⟩
  have htag : tagRules.IsOptional (.text "tag") := by
    refine Registry.isOptional_of_rules rfl fun invocation hm => ?_
    rw [List.mem_singleton.mp hm]
    refine ⟨by decide, .aliased hashtag, rfl, fun inner h => ?_⟩
    rw [List.mem_singleton.mp h]
    exact hshort
  refine Registry.isOptional_of_rules rfl fun invocation hm => ?_
  simp only [List.mem_cons, List.not_mem_nil, or_false] at hm
  rcases hm with rfl | rfl
  · exact ⟨by decide, .builtin .string, rfl, fun _ h => nomatch h⟩
  · refine ⟨by decide, .builtin .or, rfl, fun inner h => ?_⟩
    simp only [Builder.alternatives, Value.items?, Option.getD_some, List.mem_cons,
      List.not_mem_nil, or_false] at h
    rcases h with rfl | rfl
    · exact hinteger
    · exact htag

/-- A nickname of blanks only, a nickname that is empty and tags that are not there. -/
theorem passes_of_isOptional_profile :
    ∃ chain compiled, tagRules.Extends Builder.IsAlias ∧ tagRules.IsOptional nickname ∧
      compileField { registry := tagRules, limit := 20 } nickname (some true) = .ok chain ∧
      (∀ siblings, ∃ o, runChain chain (.text " \t ") siblings false = .ok o ∧ o.error = none ∧
        (o.value = .null ∨ o.value = .text "")) ∧
      compileSchema { registry := tagRules, limit := 20 } (.map profile) = .ok compiled ∧
      compiled.execute [(.text "id", .int 7), (.text "nick", .text "")] =
        .ok { output := [("id", .int 7), ("nick", .text "")] } ∧
      ∀ report, compiled.execute [(.text "id", .int 7)] = .ok report →
        (∀ e, ("nick", e) ∉ report.errors) ∧ ∀ w, ("nick", w) ∉ report.output := by
  obtain ⟨chain, hchain⟩ : ∃ chain,
      compileField { registry := tagRules, limit := 20 } nickname (some true) = .ok chain :=
    ⟨_, rfl⟩
  obtain ⟨compiled, hc, hrun⟩ : ∃ compiled,
      compileSchema { registry := tagRules, limit := 20 } (.map profile) = .ok compiled ∧
      compiled.execute [(.text "id", .int 7), (.text "nick", .text "")] =
        .ok { output := [("id", .int 7), ("nick", .text "")] } := ⟨_, rfl, rfl⟩
  have hnick : ∀ spec, (Value.text "nick", spec) ∈ profile → tagRules.IsOptional spec := by
    intro spec hm
    have hspec : spec = nickname := by simpa [profile] using hm
    rw [hspec]
    exact isOptional_nickname
  have hblank : ∀ c ∈ " \t ".toList, Text.isBlank c = true :=
    List.all_eq_true.mp (by decide +kernel)
  refine ⟨chain, compiled, tagRules_extends, isOptional_nickname, hchain, fun siblings => ?_, hc,
    hrun, fun report hreport => ?_⟩
  · exact (passes_of_isOptional tagRules_extends (some true)).1 _ chain isOptional_nickname hchain
      _ siblings (Or.inr (Or.inr ⟨rfl, " \t ", rfl, hblank⟩))
  · obtain ⟨herrors, houtput⟩ := (passes_of_isOptional tagRules_extends none).2 profile compiled hc
      "nick" hnick _ report hreport
    exact ⟨herrors (Or.inl rfl), houtput rfl⟩

end FieldRules
