import FieldRules.Proofs.Catalogue
import FieldRules.Proofs.Grammar
import FieldRules.Proofs.Run.Splice

/-!
# An alias stands for its rules

Where the name of an alias is an item in a list of rules, its own rules could be written instead
(`compileField_splice`). With auto-trim the alias trims again before its rules run, so the rule
`trim` is written in front of them. What is compiled from the longer list is not the same chain,
because the alias is compiled one level deeper and keeps its rules to itself, but it runs like it.

The longer list may need less depth, never more. This is where the registry has to be one in which
only the catalogue and the aliases have anything compiled: a custom builder could find out how deep
it is by having something compiled that it does not need.
-/

set_option autoImplicit false

namespace FieldRules

/-! ## Builders that have nothing compiled -/

/-- The recipe has nothing compiled. -/
def Recipe.IsImmediate : Recipe → Prop
  | withSchema _ _ _ => False
  | withField _ _ _ => False
  | _ => True

/-- A custom builder that has nothing compiled, whatever its arguments. -/
def Builder.IsImmediate (builder : Builder) : Prop :=
  ∃ rule, builder = custom rule ∧ ∀ args, (rule.recipe args).IsImmediate

theorem Builder.IsImmediate.plain {builder : Builder} (h : builder.IsImmediate)
    (args : List Value) : (builder.recipe args).Plain := by
  obtain ⟨rule, rfl, hrule⟩ := h
  have himm := hrule args
  show (rule.recipe args).Plain
  cases hrecipe : rule.recipe args with
  | ready check => exact .ready check
  | notAValidator => exact .notAValidator
  | fail failure => exact .fail failure
  | withSchema schema autoTrim next =>
    rw [hrecipe] at himm
    exact himm.elim
  | withField spec autoTrim next =>
    rw [hrecipe] at himm
    exact himm.elim

/-- What the registries have besides the catalogue here: aliases, and custom builders that have
nothing compiled. -/
def Builder.IsSimple (builder : Builder) : Prop := builder.IsAlias ∨ builder.IsImmediate

theorem Builder.IsSimple.plain {builder : Builder} (h : builder.IsSimple) (args : List Value) :
    (builder.recipe args).Plain := by
  rcases h with h | h
  · exact h.plain args
  · exact h.plain args

theorem Builder.IsSimple.valid {definition : AliasDefinition}
    (h : (aliased definition).IsSimple) : definition.Valid := by
  rcases h with h | ⟨rule, hrule, -⟩
  · exact h.valid
  · cases hrule

/-! ## Splicing -/

/-- The rules that auto-trim amounts to, written as items. -/
def trimItems (autoTrim : Bool) : List Value := if autoTrim then [.text Builtin.trim.name] else []

/-- The steps of these rules. -/
def trimSteps (autoTrim : Bool) : List Step :=
  if autoTrim then [⟨{ name := Builtin.trim.name }, .leaf (.modify .trim)⟩] else []

section
variable {r : Registry} (hr : r.Extends Builder.IsSimple)
include hr

/-- The rule that trims compiles wherever anything does. -/
theorem exists_trimSteps (c : Compilation) (autoTrim : Bool) :
    ∃ invocations, Invocation.ofItems (trimItems autoTrim) = .ok invocations ∧
      List.Forall₂ (c.MakesStep r) invocations (trimSteps autoTrim) := by
  cases autoTrim with
  | false => exact ⟨[], rfl, .nil⟩
  | true =>
    refine ⟨[{ name := Builtin.trim.name }], rfl, .cons ⟨rfl, ?_⟩ .nil⟩
    exact ⟨.builtin .trim, hr.builtin .trim, rfl, .ready _⟩

/-- A list with an alias in it compiles to the steps before it, the alias with a chain of its rules,
and the steps after it; and the list with the rules in its place compiles, with as many levels, to
the same steps around those of the rules. -/
theorem splice_of_field {autoTrim : Bool} {n : Nat} {name : String} {definition : AliasDefinition}
    (hd : r.find? name = some (.aliased definition)) {before after : List Value} {chain : Chain}
    (hc : (Compilation.ofLevels r autoTrim n).field (.list (before ++ .text name :: after)) chain) :
    ∃ stepsBefore rules stepsAfter step,
      chain = withTrim autoTrim (stepsBefore ++ step :: stepsAfter) ∧
      step.check = .aliased definition.error (withTrim autoTrim rules) ∧
      stepsBefore.length = before.length ∧ rules.length = (specItems definition.rules).length ∧
      (Compilation.ofLevels r autoTrim n).field
        (.list (before ++ (trimItems autoTrim ++ specItems definition.rules ++ after)))
        (withTrim autoTrim (stepsBefore ++ (trimSteps autoTrim ++ rules ++ stepsAfter))) := by
  cases n with
  | zero => exact hc.elim
  | succ n =>
    obtain ⟨invocations, steps, hof, hsteps, rfl⟩ := hc
    rw [Invocation.ofSpec_list (by simp), ← List.singleton_append,
      Invocation.ofItems_append_eq_ok] at hof
    obtain ⟨invBefore, rest, hbefore, hrest, rfl⟩ := hof
    obtain ⟨invAlias, invAfter, halias, hafter, rfl⟩ := Invocation.ofItems_append_eq_ok.mp hrest
    rw [Invocation.ofItems_text halias] at hsteps
    obtain ⟨stepsBefore, stepsRest, rfl, hstepsBefore, hsteps⟩ := hsteps.split
    obtain ⟨step, stepsAfter, hstep, hstepsAfter, rfl⟩ := List.forall₂_cons_left_iff.mp hsteps
    -- The step of the alias has a chain of its rules, which took one level less.
    obtain ⟨-, builder, hb, -, hyields⟩ := hstep
    rw [hd, Option.some.injEq] at hb
    rw [← hb] at hyields
    obtain ⟨chain, hchain, hyields⟩ := Recipe.Yields.of_onField hyields
    have hcheck := hyields.of_ready
    cases n with
    | zero => exact hchain.elim
    | succ n =>
      obtain ⟨invRules, rules, hofRules, hrules, rfl⟩ := hchain
      have hlevels := Compilation.ofLevels_within r autoTrim (Nat.le_succ n)
      have hrules' := hrules.imp fun _ _ h => hlevels.makesStep h
      have hofItems := Invocation.ofItems_specItems hofRules
      obtain ⟨invTrim, hofTrim, htrim⟩ :=
        exists_trimSteps hr (Compilation.ofLevels r autoTrim (n + 1)) autoTrim
      have hitems : Invocation.ofItems
          (before ++ (trimItems autoTrim ++ specItems definition.rules ++ after)) =
          .ok (invBefore ++ (invTrim ++ invRules ++ invAfter)) := by
        simp only [Invocation.ofItems_append, hbefore, hafter, hofTrim, hofItems, Except.ok_bind]
        rfl
      have hne : before ++ (trimItems autoTrim ++ specItems definition.rules ++ after) ≠ [] := by
        simp [(Invocation.ofSpec_eq_ok_iff.mp hofRules).1]
      refine ⟨stepsBefore, rules, stepsAfter, step, rfl, hcheck, ?_, ?_, ?_⟩
      · rw [← hstepsBefore.length_eq, Invocation.length_ofItems hbefore]
      · rw [← hrules.length_eq, Invocation.length_ofItems hofItems]
      · refine ⟨_, _, (Invocation.ofSpec_list hne).trans hitems, ?_, rfl⟩
        exact List.rel_append hstepsBefore (List.rel_append (List.rel_append htrim hrules') hstepsAfter)

end

theorem length_trimItems (autoTrim : Bool) :
    (trimItems autoTrim).length = if autoTrim then 1 else 0 := by
  cases autoTrim <;> rfl

/-- The step that auto-trim puts in front and the step of the rule `trim` do the same. -/
theorem run_trimSteps (autoTrim : Bool) (rules : List Step) :
    List.Forall₂ (fun s t => s.check.run = t.check.run) (trimSteps autoTrim ++ rules)
      (withTrim autoTrim rules) := by
  have hsame : List.Forall₂ (fun s t => s.check.run = t.check.run) rules rules :=
    List.forall₂_same.mpr fun _ _ => rfl
  cases autoTrim with
  | false => exact hsame
  | true =>
    refine .cons ?_ hsame
    funext v siblings
    cases v <;> simp [Compiler.trimStep, Check.run, Leaf.run, Modifier.apply]

/-- **The rules of an alias can be written in its place**, after the rule that trims if auto-trim is
on. If the shorter list compiles so does the longer one. The two have the same faults; they pass on
the same values, with the same result and the same knowledge of whether it was written; and where
they fail the error is the same, except that an error of the alias's own rules becomes its code if
it has one. -/
theorem compileField_splice {r : Registry} {limit : Int} (hr : r.Extends Builder.IsSimple)
    {name : String} {definition : AliasDefinition}
    (hd : r.find? name = some (.aliased definition)) (autoTrim : Bool) (before after : List Value)
    {chain : Chain}
    (hc : compileField ⟨r, limit⟩ (.list (before ++ .text name :: after)) (some autoTrim) =
      .ok chain) :
    let spliced := trimItems autoTrim ++ specItems definition.rules
    let first := (if autoTrim then 1 else 0) + before.length
    ∃ chain', compileField ⟨r, limit⟩ (.list (before ++ (spliced ++ after))) (some autoTrim) =
        .ok chain' ∧
      ∀ v siblings, RunsLike definition.error first (first + spliced.length) chain chain' v
        siblings := by
  intro spliced first
  have hplain : r.Plain := hr.plain fun _ h => h.plain
  have hf := (hr.valid_of_find? (fun _ h => h.valid) hd).error
  have hfield : (Compilation.ofLevels r autoTrim limit.toNat).field
      (.list (before ++ .text name :: after)) chain :=
    (compileField_eq_ok_iff hplain (some autoTrim) _ _).mp hc
  obtain ⟨stepsBefore, rules, stepsAfter, step, rfl, hcheck, hlbefore, hlrules, hsplice⟩ :=
    splice_of_field hr hd hfield
  refine ⟨_, (compileField_eq_ok_iff hplain (some autoTrim) _ _).mpr hsplice, fun v siblings => ?_⟩
  have hruns := runsLike_splice hcheck hf (withTrim autoTrim stepsBefore) stepsAfter v siblings
  have hfirst : (withTrim autoTrim stepsBefore).length = first := by
    rw [length_withTrim, hlbefore]
  have hspliced : (withTrim autoTrim rules).length = spliced.length := by
    rw [length_withTrim, hlrules, List.length_append, length_trimItems]
  rw [hfirst, hspliced] at hruns
  rw [withTrim_append, withTrim_append]
  refine hruns.congr (List.rel_append ?_ (List.rel_append (run_trimSteps autoTrim rules) ?_))
  · exact List.forall₂_same.mpr fun _ _ => rfl
  · exact List.forall₂_same.mpr fun _ _ => rfl

/-- The rules of a user name, with one code for all that can be wrong with it. -/
def username : AliasDefinition where
  name := "username"
  rules := .list [.text "required", .map [(.text "length_between", .list [.int 3, .int 8])],
    .text "to_lc"]
  error := some "BAD_NAME"

/-- A custom rule that accepts everything. -/
def anything : CustomRule where
  label := "anything"
  signature := none
  recipe := fun _ => .ready (.custom fun _ _ => .ok .pass)

/-- The catalogue with the alias and the custom rule. -/
def usernameRules : Registry :=
  (Registry.ofBuiltins.put "anything" (.custom anything)).put "username" (.aliased username)

theorem usernameRules_extends : usernameRules.Extends Builder.IsSimple := by
  refine Registry.Extends.put (Registry.Extends.put (Registry.extends_ofBuiltins _) ?_ ?_) ?_ ?_
  · decide +kernel
  · exact Or.inr ⟨anything, rfl, fun _ => trivial⟩
  · decide +kernel
  · exact Or.inl ⟨username, rfl, by decide, by decide⟩

theorem compileField_splice_username :
    usernameRules.Extends Builder.IsSimple ∧
      usernameRules.find? "username" = some (.aliased username) ∧
      ∃ chain chain',
        compileField ⟨usernameRules, 20⟩
          (.list [.text "string", .text "username", .text "anything"]) (some true) = .ok chain ∧
        compileField ⟨usernameRules, 20⟩
          (.list [.text "string", .text "trim", .text "required",
            .map [(.text "length_between", .list [.int 3, .int 8])], .text "to_lc",
            .text "anything"]) (some true) = .ok chain' ∧
        (runChain chain (.text " Jo ") [] false).map (·.error) =
          .ok (some (.text "BAD_NAME")) ∧
        (runChain chain' (.text " Jo ") [] false).map (·.error) =
          .ok (some (.text "TOO_SHORT")) ∧
        ∀ v siblings, RunsLike (some "BAD_NAME") 2 6 chain chain' v siblings := by
  have hfind : usernameRules.find? "username" = some (.aliased username) := by
    rw [usernameRules, Registry.find?_put, if_pos rfl]
  obtain ⟨chain, hc, herror⟩ : ∃ chain, compileField ⟨usernameRules, 20⟩
      (.list ([.text "string"] ++ .text "username" :: [.text "anything"])) (some true) =
        .ok chain ∧
      (runChain chain (.text " Jo ") [] false).map (·.error) = .ok (some (.text "BAD_NAME")) :=
    ⟨_, rfl, rfl⟩
  obtain ⟨chain', hc', hruns⟩ := compileField_splice usernameRules_extends hfind true
    [.text "string"] [.text "anything"] hc
  -- Written out, the list has the code of the rule that fails.
  obtain ⟨written, hw, hwritten⟩ : ∃ written, compileField ⟨usernameRules, 20⟩
      (.list [.text "string", .text "trim", .text "required",
        .map [(.text "length_between", .list [.int 3, .int 8])], .text "to_lc",
        .text "anything"]) (some true) = .ok written ∧
      (runChain written (.text " Jo ") [] false).map (·.error) =
        .ok (some (.text "TOO_SHORT")) :=
    ⟨_, rfl, rfl⟩
  rw [Except.ok.inj (hw.symm.trans hc')] at hwritten
  exact ⟨usernameRules_extends, hfind, chain, chain', hc, hc', herror, hwritten, hruns⟩

end FieldRules
