import FieldRules.Proofs.Catalogue
import FieldRules.Proofs.Run.Fields

/-!
# What a field depends on

All fields are run on the whole snapshot, so in principle any of them could depend on anything in
the input. But of the built-in rules only one looks at its siblings, and it looks at one of them.
What a field depends on can therefore be read off its spec: on its own value, and on the fields
that the rules of its spec compare it with, wherever in the spec these rules stand
(`Registry.DependsOn`). Two inputs that agree there have the same entry for the field, whatever
else is in them (`execute_local`).

The rules inside of an object need no attention here. They do look at siblings, but at those inside
of the object, and these are part of the value of the field.
-/

set_option autoImplicit false

namespace FieldRules

/-- A check does the same among either siblings. -/
def Check.Alike (check : Check) (a b : Entries) : Prop := ∀ v, check.run v a = check.run v b

/-- A chain does the same among either siblings. -/
def Chain.Alike (chain : Chain) (a b : Entries) : Prop :=
  ∀ v written, runChain chain v a written = runChain chain v b written

variable {a b : Entries}

/-! ## Checks among other siblings -/

/-- Of the checks without parts only the comparison with a sibling looks at siblings. -/
theorem Leaf.alike {leaf : Leaf}
    (h : ∀ field, leaf = .equalTo field → a.get? field = b.get? field) :
    (Check.leaf leaf).Alike a b := by
  intro v
  rw [Check.run, Check.run]
  cases leaf with
  | equalTo field =>
    simp only [Leaf.run, h field rfl]
  | _ => rfl

theorem Chain.alike_of_steps {chain : Chain} (h : ∀ step ∈ chain, step.check.Alike a b) :
    Chain.Alike chain a b := by
  intro v written
  induction chain generalizing v written with
  | nil => rw [runChain_nil, runChain_nil]
  | cons step rest ih =>
    have hrest := ih fun s hs => h s (List.mem_cons_of_mem _ hs)
    rw [runChain_cons, runChain_cons, h step List.mem_cons_self v]
    simp only [hrest]

theorem Check.alike_autoTrim : Check.autoTrim.Alike a b := by
  intro v
  unfold Check.run
  rfl

theorem Check.alike_aliased {chain : Chain} (h : Chain.Alike chain a b) (fixed : Option String) :
    (Check.aliased fixed chain).Alike a b := by
  intro v
  rw [Check.run, Check.run, h v false]

theorem Check.alike_each {chain : Chain} (h : Chain.Alike chain a b) :
    (Check.each chain).Alike a b := by
  intro v
  rw [Check.run, Check.run]
  simp only [h _ false]

theorem Check.alike_firstOf {chains : List Chain} (h : ∀ chain ∈ chains, Chain.Alike chain a b) :
    (Check.firstOf chains).Alike a b := by
  intro v
  rw [Check.run, Check.run]
  generalize Value.null = last
  induction chains generalizing last with
  | nil => rw [runFirst, runFirst]
  | cons chain rest ih =>
    have hrest := ih fun c hc => h c (List.mem_cons_of_mem _ hc)
    rw [runFirst, runFirst, h chain List.mem_cons_self v false]
    simp only [hrest]

/-! ## Compiled specs among other siblings -/

variable {r : Registry} {autoTrim : Bool}

/-- A check is the same among either siblings if the chains in it are and it is not itself a
comparison that tells them apart. -/
theorem Builder.Makes.alike {c : Compilation} {builder : Builder} {args : List Value}
    {check : Check} (hm : builder.Makes c args check)
    (hequal : ∀ field, builder = builtin .equalToField → args = [.text field] →
      a.get? field = b.get? field)
    (hspecs : ∀ spec ∈ builder.specs args, ∀ chain, c.field spec chain → Chain.Alike chain a b) :
    check.Alike a b := by
  cases hm with
  | leaf hleaf =>
    refine Leaf.alike fun field hf => ?_
    obtain ⟨hbuilder, hargs⟩ := hleaf field hf
    exact hequal field hbuilder hargs
  -- The rules inside of an object have their siblings there, so these are not passed on.
  | object | variant | eachObject | eachVariant =>
    intro v
    rw [Check.run, Check.run]
  | each hm hc => exact Check.alike_each (hspecs _ hm _ hc)
  | firstOf hall =>
    refine Check.alike_firstOf fun chain hchain => ?_
    obtain ⟨spec, hm, hc⟩ := hall chain hchain
    exact hspecs spec hm chain hc
  | @aliased definition chain hb hc =>
    refine Check.alike_aliased (hspecs definition.rules ?_ chain hc) _
    rw [hb]
    exact List.mem_singleton.mpr rfl

/-- **A spec does the same among siblings that agree on the fields that it compares with**, however
deep in it the comparisons are. -/
theorem alike_of_compares (hr : r.Extends Builder.IsAlias) {n : Nat} {spec : Value} {chain : Chain}
    (hc : (Compilation.ofLevels r autoTrim n).field spec chain)
    (h : ∀ field, r.Compares spec field → a.get? field = b.get? field) :
    Chain.Alike chain a b := by
  induction n generalizing spec chain with
  | zero => exact hc.elim
  | succ n ih =>
    refine Chain.alike_of_steps fun step hs => ?_
    rcases hr.check_of_mem hc hs with htrim | ⟨invocation, builder, hin, hb, hmakes⟩
    · rw [htrim]
      exact Check.alike_autoTrim
    · refine hmakes.alike ?_ ?_
      · intro field hbuilder hargs
        refine h field (.of_isIn ?_)
        rw [hbuilder] at hb
        rw [← hr.name_of_find? hb, ← hargs]
        exact hin
      · -- An embedded spec compares with no more than this one does.
        intro inner hm chain hc
        refine ih hc fun field hf => h field ?_
        exact .of_embeds ⟨invocation, builder, hin, hb, hm⟩ hf

/-! ## The entry of a field -/

/-- The fields of an input that a field of a schema depends on: itself, and those that its spec
compares it with. -/
def Registry.DependsOn (r : Registry) (entries : Entries) (name other : String) : Prop :=
  other = name ∨ ∃ spec, (.text name, spec) ∈ entries ∧ r.Compares spec other

/-- In two runs in which the chains of a field end alike, it has the same entry. -/
theorem lookup_runFields {fields : List (String × List Step)} {name : String} {ra rb : Report}
    (hrun : ∀ chain, (name, chain) ∈ fields → runField chain name a = runField chain name b)
    (hpresent : (a.get? name).isSome = (b.get? name).isSome)
    (ha : runFields fields a = .ok ra) (hb : runFields fields b = .ok rb) :
    ra.errors.lookup name = rb.errors.lookup name ∧
      ra.output.lookup name = rb.output.lookup name := by
  induction fields generalizing ra rb with
  | nil =>
    rw [runFields_nil, Except.ok.injEq] at ha hb
    rw [← ha, ← hb]
    exact ⟨rfl, rfl⟩
  | cons field rest ih =>
    obtain ⟨other, chain⟩ := field
    obtain ⟨oa, ra', hoa, hra', rfl⟩ := runFields_cons_eq_ok ha
    obtain ⟨ob, rb', hob, hrb', rfl⟩ := runFields_cons_eq_ok hb
    have hrest := ih (fun c hc => hrun c (List.mem_cons_of_mem _ hc)) hra' hrb'
    simp only [Report.lookup_errors_withField, Report.lookup_output_withField, hrest]
    -- Only the entry of the field itself is looked up, whatever the other fields came to.
    by_cases hname : name = other
    · subst hname
      rw [hrun chain List.mem_cons_self, hob, Except.ok.injEq] at hoa
      rw [← hoa, hpresent]
      exact ⟨rfl, rfl⟩
    · simp [hname]

/-- **The entry of a field depends on what its spec says it depends on, and on nothing else.** Two
inputs that agree on these fields give it the same error or the same value, or both give it
neither. -/
theorem execute_local {env : CompileEnv} (hr : env.registry.Extends Builder.IsAlias)
    {autoTrim : Option Bool} {entries : Entries} {compiled : CompiledSchema}
    (hc : compileSchema env (.map entries) autoTrim = .ok compiled) (name : String)
    (hagree : ∀ other, env.registry.DependsOn entries name other → a.get? other = b.get? other)
    {ra rb : Report} (ha : compiled.execute a = .ok ra) (hb : compiled.execute b = .ok rb) :
    ra.errors.lookup name = rb.errors.lookup name ∧
      ra.output.lookup name = rb.output.lookup name := by
  have hsnap : ∀ other, env.registry.DependsOn entries name other →
      (compiled.snapshot a).get? other = (compiled.snapshot b).get? other := by
    intro other h
    rw [CompiledSchema.get?_snapshot, CompiledSchema.get?_snapshot, hagree other h]
  rw [CompiledSchema.execute_eq] at ha hb
  refine lookup_runFields (fun chain hm => ?_) (by rw [hsnap name (Or.inl rfl)]) ha hb
  obtain ⟨spec, n, he, hspec⟩ := exists_spec_of_compileSchema hr.plain_of_isAlias hc hm
  unfold runField
  rw [hsnap name (Or.inl rfl)]
  exact alike_of_compares hr hspec (fun other h => hsnap other (Or.inr ⟨spec, he, h⟩)) _ _

/-! ## A field that depends on another through an alias -/

/-- The rules of a password that is typed a second time. -/
def repeatedPassword : AliasDefinition where
  name := "repeated_password"
  rules := .list [.text "required", .map [(.text "equal_to_field", .text "password")]]
  error := some "MISMATCH"

/-- The catalogue with the alias. -/
def passwordRules : Registry := Registry.ofBuiltins.put "repeated_password" (.aliased repeatedPassword)

theorem passwordRules_extends : passwordRules.Extends Builder.IsAlias :=
  (Registry.extends_ofBuiltins _).put (by decide +kernel) ⟨repeatedPassword, rfl, by decide, by decide⟩

/-- A form that has the password repeated, and a hint to it. -/
def repeatForm : Entries :=
  [(.text "password", .text "required"),
    (.text "again", .list [.text "trim", .text "repeated_password"]),
    (.text "hint", .text "string")]

theorem find?_repeatedPassword :
    passwordRules.find? "repeated_password" = some (.aliased repeatedPassword) := by
  rw [passwordRules, Registry.find?_put, if_pos rfl]

theorem compares_repeatedPassword {other : String}
    (h : passwordRules.Compares repeatedPassword.rules other) : other = "password" := by
  have hof : Invocation.ofSpec repeatedPassword.rules =
      .ok [⟨"required", []⟩, ⟨"equal_to_field", [.text "password"]⟩] := rfl
  rcases h.cases hof with hown | ⟨outer, houter, builder, hb, inner, hinner, -⟩
  · simpa [Builtin.name] using hown
  · simp only [List.mem_cons, List.not_mem_nil, or_false] at houter
    rcases houter with rfl | rfl
    · cases (passwordRules_extends.builtin .required).symm.trans hb
      exact nomatch hinner
    · cases (passwordRules_extends.builtin .equalToField).symm.trans hb
      exact nomatch hinner

theorem dependsOn_again {other : String} (h : passwordRules.DependsOn repeatForm "again" other) :
    other = "again" ∨ other = "password" := by
  rcases h with rfl | ⟨spec, hm, h⟩
  · exact Or.inl rfl
  · right
    have hspec : spec = .list [.text "trim", .text "repeated_password"] := by
      simpa [repeatForm] using hm
    have hof : Invocation.ofSpec spec = .ok [⟨"trim", []⟩, ⟨"repeated_password", []⟩] := by
      rw [hspec]
      rfl
    rcases h.cases hof with hown | ⟨outer, houter, builder, hb, inner, hinner, hinside⟩
    · simp [Builtin.name] at hown
    · simp only [List.mem_cons, List.not_mem_nil, or_false] at houter
      rcases houter with rfl | rfl
      · cases (passwordRules_extends.builtin .trim).symm.trans hb
        exact nomatch hinner
      · rw [find?_repeatedPassword, Option.some.injEq] at hb
        rw [← hb, Builder.specs, List.mem_singleton] at hinner
        rw [hinner] at hinside
        exact compares_repeatedPassword hinside

/-- The repeated password is refused in two inputs that have nothing in common but it and the
password. -/
theorem execute_local_repeatForm :
    let a : Entries := [(.text "password", .text "secret"), (.text "again", .text " secert"),
      (.text "hint", .list [])]
    let b : Entries := [(.text "other", .null), (.text "again", .text " secert"),
      (.text "password", .text "secret")]
    passwordRules.Extends Builder.IsAlias ∧
      (∀ other, passwordRules.DependsOn repeatForm "again" other → a.get? other = b.get? other) ∧
      ∃ compiled ra rb,
        compileSchema { registry := passwordRules, limit := 20 } (.map repeatForm) =
          .ok compiled ∧
        compiled.execute a = .ok ra ∧ compiled.execute b = .ok rb ∧
        ra.errors.lookup "again" = some (.text "MISMATCH") ∧
        ra.errors.lookup "again" = rb.errors.lookup "again" ∧
        ra.output.lookup "again" = rb.output.lookup "again" := by
  intro a b
  have hagree : ∀ other, passwordRules.DependsOn repeatForm "again" other →
      a.get? other = b.get? other := by
    intro other h
    rcases dependsOn_again h with rfl | rfl
    · rfl
    · rfl
  obtain ⟨compiled, hc, ra, rb, ha, hb, herror⟩ : ∃ compiled,
      compileSchema { registry := passwordRules, limit := 20 } (.map repeatForm) = .ok compiled ∧
      ∃ ra rb, compiled.execute a = .ok ra ∧ compiled.execute b = .ok rb ∧
        ra.errors.lookup "again" = some (.text "MISMATCH") :=
    ⟨_, rfl, _, _, rfl, rfl, rfl⟩
  exact ⟨passwordRules_extends, hagree, compiled, ra, rb, hc, ha, hb, herror,
    execute_local passwordRules_extends hc "again" hagree ha hb⟩

end FieldRules
