import FieldRules.Proofs.Compile.Arguments
import FieldRules.Proofs.Compile.Kept

/-!
# How compiling fails

`Compilation` says what compiles and leaves open how the rest fails. Here a failure is traced back
to where it came from. A recipe fails because its own arguments are refused or because something
that it asked for failed, and what it asks for is inside the rule (`Recipe.Confined`). So the
failure of a step is a defect found by the compiler itself, the reading of an argument, or the
failure of something one level below (`Compiler.step_fails`); and so on up to the fields of a schema
(`Compiler.chain_fails`, `Compiler.fields_fails`).

On its way up a failure passes through the builders around it, and each turns objections into
defects of its own. That cannot make things worse, but it takes a message that shows the arguments.
-/

set_option autoImplicit false

namespace FieldRules

open Compiling

/-! ## What recipes ask for -/

/-- All that a recipe asks for is inside, and the failures of its own are of some kind. -/
def Recipe.Confined (inside : SchemaPart → Prop) (own : Failure → Prop) : Recipe → Prop
  | ready _ => True
  | notAValidator => True
  | fail failure => own failure
  | withSchema schema _ next =>
    inside (.schema schema) ∧ ∀ compiled, Confined inside own (next (.ok compiled))
  | withField spec _ next =>
    inside (.spec spec) ∧ ∀ chain, Confined inside own (next (.ok chain))

/-- The compiler fails on a part of a schema. -/
def Compiler.FailsOn (inner : Compiler) (scope : Option Scope) (requested : Option Bool) :
    SchemaPart → Failure → Prop
  | .schema schema, failure => answer (inner.schema schema requested) scope = .error failure
  | .spec spec, failure => answer (inner.field spec requested) scope = .error failure

namespace Recipe

variable {inside : SchemaPart → Prop} {own : Failure → Prop}

/-- **A plain recipe fails by itself, or because something inside fails.** -/
theorem Confined.fails {recipe : Recipe} (hc : recipe.Confined inside own) (hp : recipe.Plain)
    {inner : Compiler} (hi : inner.Restores) {scope : Option Scope} {failure : Failure}
    (h : answer (recipe.run inner) scope = .error failure) :
    own failure ∨ ∃ part, inside part ∧ inner.FailsOn scope none part failure := by
  induction hp with
  | ready check => exact nomatch h
  | notAValidator => exact nomatch h
  | fail failure' =>
    left
    rw [← Except.error.inj h]
    exact hc
  | @withSchema schema next hfail _ ih =>
    rw [answer_withSchema hi] at h
    cases hans : answer (inner.schema schema none) scope with
    | error failure' =>
      rw [hans, hfail] at h
      rw [← Except.error.inj h]
      exact Or.inr ⟨.schema schema, hc.1, hans⟩
    | ok compiled =>
      rw [hans] at h
      exact ih compiled (hc.2 compiled) h
  | @withField spec next hfail _ ih =>
    rw [answer_withField hi] at h
    cases hans : answer (inner.field spec none) scope with
    | error failure' =>
      rw [hans, hfail] at h
      rw [← Except.error.inj h]
      exact Or.inr ⟨.spec spec, hc.1, hans⟩
    | ok chain =>
      rw [hans] at h
      exact ih chain (hc.2 chain) h

theorem confined_ofExcept {x : Except Fault Recipe}
    (hok : ∀ recipe, x = .ok recipe → recipe.Confined inside own)
    (herror : ∀ fault, x = .error fault → own (.fault fault)) :
    (ofExcept x).Confined inside own := by
  cases x with
  | ok recipe => exact hok recipe rfl
  | error fault => exact herror fault rfl

theorem confined_onFields {specs : List Value} {next : List Chain → Recipe}
    (hspecs : ∀ spec ∈ specs, inside (.spec spec))
    (h : ∀ chains, (next chains).Confined inside own) :
    (onFields specs next).Confined inside own := by
  induction specs generalizing next with
  | nil => exact h []
  | cons spec rest ih =>
    refine ⟨hspecs spec List.mem_cons_self, fun chain => ?_⟩
    exact ih (fun s hs => hspecs s (List.mem_cons_of_mem _ hs)) fun chains => h _

end Recipe

/-! ## How the rules fail -/

/-- A part of a schema is directly inside of a rule. -/
def Builder.Inside (builder : Builder) (args : List Value) : SchemaPart → Prop
  | .schema schema => schema ∈ builder.schemas args
  | .spec spec => spec ∈ builder.specs args

/-- The reading of a pattern among the arguments ends in a fault. -/
def Builder.MisreadsPattern (builder : Builder) (args : List Value) (fault : Fault) : Prop :=
  builder = builtin .like ∧ ∃ source flags, Builtin.patternArgs? args = some (source, flags) ∧
    Arguments.pattern source flags = .error fault

/-- How a rule fails by itself: it objects to its arguments, or has a pattern that is too large. -/
def Builder.Refuses (builder : Builder) (args : List Value) (failure : Failure) : Prop :=
  ∃ fault, failure = .fault fault ∧
    (fault.isObjection = true ∨ Arguments.IsOversized fault ∧ builder.MisreadsPattern args fault)

namespace Builtin

open Recipe Arguments

variable {rule : Builtin} {args : List Value} {inside : SchemaPart → Prop}

theorem refuses_of_objects {builder : Builder} {α : Type} {x : Except Fault α} (hx : Objects x)
    {fault : Fault} (h : x = .error fault) : builder.Refuses args (.fault fault) :=
  ⟨fault, rfl, Or.inl (hx.2 fault h)⟩

theorem refuses_objection {builder : Builder} {fault : Fault} (h : fault.isObjection = true) :
    builder.Refuses args (.fault fault) := ⟨fault, rfl, Or.inl h⟩

theorem confined_leafOf {builder : Builder} {α : Type} {x : Except Fault α} {made : α → Leaf}
    (hx : Objects x) : (leafOf (x.map made)).Confined inside (builder.Refuses args) := by
  refine confined_ofExcept (fun recipe hr => ?_) fun fault hf => ?_
  · obtain ⟨leaf, -, rfl⟩ := Except.map_eq_ok.mp hr
    exact trivial
  · exact refuses_of_objects hx (Except.map_eq_error.mp (Except.map_eq_error.mp hf))

/-- The one rule whose arguments can be refused by more than an objection. -/
theorem confined_like {source flags : Value} (hargs : patternArgs? args = some (source, flags)) :
    (leafOf ((pattern source flags).map fun p => .text (.containing p))).Confined inside
      ((Builder.builtin .like).Refuses args) := by
  refine confined_ofExcept (fun recipe hr => ?_) fun fault hf => ?_
  · obtain ⟨leaf, -, rfl⟩ := Except.map_eq_ok.mp hr
    exact trivial
  · have hread := Except.map_eq_error.mp (Except.map_eq_error.mp hf)
    refine ⟨fault, rfl, ((pattern_ends source flags).2 fault hread).imp_right fun hlarge => ?_⟩
    exact ⟨hlarge, rfl, source, flags, hargs, hread⟩

theorem confined_onVariants {builder : Builder} {variants : Entries}
    {done : List (String × CompiledSchema)} {next : List (String × CompiledSchema) → Recipe}
    (hschemas : ∀ schema ∈ variants.map (·.2), inside (.schema schema))
    (h : ∀ named, (next named).Confined inside (builder.Refuses args)) :
    (onVariants variants done next).Confined inside (builder.Refuses args) := by
  induction variants generalizing done with
  | nil => exact h done
  | cons e rest ih =>
    obtain ⟨key, schema⟩ := e
    refine confined_ofExcept (fun recipe hr => ?_) fun fault hf => ?_
    · obtain ⟨name, -, rfl⟩ := Except.map_eq_ok.mp hr
      refine ⟨hschemas schema List.mem_cons_self, fun compiled => ?_⟩
      exact ih fun s hs => hschemas s (List.mem_cons_of_mem _ hs)
    · exact refuses_of_objects (objects_plainText key) (Except.map_eq_error.mp hf)

theorem confined_onSelector {builder : Builder} {selector schemas : Value}
    {next : String → List (String × CompiledSchema) → Recipe}
    (hschemas : ∀ variants, schemas = .map variants →
      ∀ schema ∈ variants.map (·.2), inside (.schema schema))
    (h : ∀ name named, (next name named).Confined inside (builder.Refuses args)) :
    (onSelector selector schemas next).Confined inside (builder.Refuses args) := by
  refine confined_ofExcept (fun recipe hr => ?_) fun fault hf => ?_
  · obtain ⟨name, -, rfl⟩ := Except.map_eq_ok.mp hr
    split
    · exact confined_onVariants (hschemas _ rfl) fun named => h name named
    · exact refuses_objection rfl
  · exact refuses_of_objects (objects_fullText selector _) (Except.map_eq_error.mp hf)

theorem confined_listOf {builder : Builder} {spec : Value} (hs : elementSpec? args = some spec) :
    (onField spec fun chain => .ready (.each chain)).Confined
      ((Builder.builtin .listOf).Inside args)
      (builder.Refuses args) := by
  refine ⟨?_, fun _ => trivial⟩
  show spec ∈ (elementSpec? args).toList
  rw [hs]
  exact List.mem_singleton.mpr rfl

/-- **A rule asks for what is inside of it, and fails by refusing its arguments.** -/
theorem recipe_confined (rule : Builtin) (args : List Value) :
    (rule.recipe args).Confined ((Builder.builtin rule).Inside args)
      ((Builder.builtin rule).Refuses args) := by
  unfold recipe
  split
  all_goals try split
  all_goals first
    | exact trivial
    | exact confined_leafOf (objects_plainText _)
    | exact confined_leafOf (objects_options _)
    | exact confined_leafOf (objects_length _ _)
    | exact confined_leafOf (objects_lengthBounds _ _)
    | exact confined_leafOf (objects_number _ _)
    | exact confined_leafOf (objects_numberBounds _ _)
    | exact confined_leafOf (objects_fullText _ _)
    | exact confined_like rfl
    | exact refuses_objection rfl
    | exact ⟨List.mem_singleton.mpr rfl, fun _ => trivial⟩
    | exact confined_onSelector (fun _ hs _ hm => by rw [hs]; exact hm) fun _ _ => trivial
    | exact confined_onFields (fun _ hs => hs) fun _ => trivial
    | exact confined_listOf (by assumption)

end Builtin

theorem AliasDefinition.recipe_confined (definition : AliasDefinition) (args : List Value) :
    ((Builder.aliased definition).recipe args).Confined ((Builder.aliased definition).Inside args)
      ((Builder.aliased definition).Refuses args) := by
  cases args with
  | nil => exact ⟨List.mem_singleton.mpr rfl, fun _ => trivial⟩
  | cons arg rest => exact Builtin.refuses_objection rfl

theorem Registry.Extends.recipe_confined {r : Registry} (hr : r.Extends Builder.IsAlias)
    {name : String} {builder : Builder} (hb : r.find? name = some builder) (args : List Value) :
    (builder.recipe args).Confined (builder.Inside args) (builder.Refuses args) := by
  rcases hr.find?_cases hb with ⟨rule, -, rfl⟩ | ⟨definition, rfl, -⟩
  · exact rule.recipe_confined args
  · exact definition.recipe_confined args

/-! ## How steps, chains and fields fail -/

namespace Compiler

/-- The failure of a builder comes out as the defect that the rule cannot be built, or as it is if
it is no objection. -/
theorem builderFailure_cases (invocation : Invocation) (field : String) (failure : Failure) :
    (∃ reason cause, builderFailure invocation field failure =
      .ofDefect (Defect.invalidArguments invocation.name invocation.args reason field cause)) ∨
    (builderFailure invocation field failure = failure ∧
      ∀ fault, failure = .fault fault → fault.isObjection = false) := by
  unfold builderFailure
  split
  case h_1 fault =>
    split
    case isTrue => exact Or.inl ⟨_, _, rfl⟩
    case isFalse hf =>
      refine Or.inr ⟨rfl, fun other ho => ?_⟩
      cases ho
      exact Bool.eq_false_iff.mpr hf
  case h_2 hno => exact Or.inr ⟨rfl, fun other ho => absurd ho (hno other)⟩

variable {env : CompileEnv} {inner : Compiler} {scope : Option Scope} {failure : Failure}

/-- **How a step fails**: with a defect of the rule's name, with the defect that the rule cannot be
built, for a pattern that is too large, or as something inside of the rule does. -/
theorem step_fails (hr : env.registry.Extends Builder.IsAlias) (hi : inner.Restores)
    {field : String} {invocation : Invocation}
    (h : answer (step env inner field invocation) scope = .error failure) :
    (∃ d, failure = .defect d) ∨
    (∃ reason cause, failure =
      .ofDefect (Defect.invalidArguments invocation.name invocation.args reason field cause)) ∨
    ∃ builder, env.registry.find? invocation.name = some builder ∧
      ((∃ fault, failure = .fault fault ∧ Arguments.IsOversized fault ∧
          builder.MisreadsPattern invocation.args fault) ∨
        ∃ part, builder.Inside invocation.args part ∧ inner.FailsOn scope none part failure) := by
  rw [answer_step hi] at h
  rcases Except.bind_eq_error.mp h with hlookup | ⟨builder, hb, h⟩
  · left
    unfold Registry.lookup at hlookup
    split at hlookup
    · exact nomatch hlookup
    · exact ⟨_, (Except.error.inj hlookup).symm⟩
  · rw [Registry.lookup_eq_ok] at hb
    rcases Except.bind_eq_error.mp h with harity | ⟨_, -, h⟩
    · right; left
      unfold checkArity at harity
      split at harity
      · exact ⟨_, none, (Except.error.inj harity).symm⟩
      · exact nomatch harity
    · have hplain := hr.plain_of_isAlias _ _ hb invocation.args
      have hconfined := hr.recipe_confined hb invocation.args
      split at h
      case h_1 => exact nomatch h
      case h_2 =>
        -- The message shows the name of the rule, and a text can always be shown.
        exact Or.inl ⟨_, (Except.error.inj h).symm⟩
      case h_3 cause hcause =>
        right
        have hfailure := Except.error.inj h
        rcases builderFailure_cases invocation field cause with ⟨reason, c, hd⟩ | ⟨hsame, hno⟩
        · exact Or.inl ⟨reason, c, by rw [← hfailure, hd]⟩
        · rw [hsame] at hfailure
          subst hfailure
          refine Or.inr ⟨builder, hb, ?_⟩
          rcases hconfined.fails hplain hi hcause with ⟨fault, rfl, hobj | hlarge⟩ | hinside
          · rw [hno fault rfl] at hobj
            exact nomatch hobj
          · exact Or.inl ⟨fault, rfl, hlarge⟩
          · exact Or.inr hinside

/-- How a chain fails: its spec means nothing, or a step fails. -/
theorem chain_fails (hi : inner.Restores) {entered : Scope} {field : String} {spec : Value}
    (h : answer (chain env inner entered field spec) scope = .error failure) :
    (∃ bad, Invocation.ofSpec spec = .error bad ∧
      failure = .ofDefect (Defect.malformedSpec bad.part bad.problem.message)) ∨
    ∃ invocation, invocation.IsIn spec ∧
      answer (step env inner field invocation) scope = .error failure := by
  unfold chain at h
  cases hspec : Invocation.ofSpec spec with
  | error bad =>
    rw [hspec] at h
    exact Or.inl ⟨bad, rfl, (Except.error.inj h).symm⟩
  | ok invocations =>
    simp only [hspec] at h
    rw [answer_bind (steps_restores hi field invocations), answer_steps hi] at h
    rcases Except.bind_eq_error.mp h with hsteps | ⟨steps, -, h⟩
    · obtain ⟨before, invocation, after, rfl, -, hstep⟩ := Except.mapM_eq_error.mp hsteps
      exact Or.inr ⟨invocation, ⟨_, hspec, by simp⟩, hstep⟩
    · exact nomatch h

/-- How fields fail: one has a name that is no text, or the chain of one fails. -/
theorem fields_fails (hi : inner.Restores) {entered : Scope} {schema : Value} {entries : Entries}
    (h : answer (fields env inner entered schema entries) scope = .error failure) :
    (∃ key spec, (key, spec) ∈ entries ∧ failure = .ofDefect (key.shown >>= fun shown =>
      .ok (Defect.malformedSchema schema ("field names must be strings, got " ++ shown)))) ∨
    ∃ name spec, (.text name, spec) ∈ entries ∧
      answer (chain env inner entered name spec) scope = .error failure := by
  induction entries with
  | nil => exact nomatch h
  | cons e rest ih =>
    obtain ⟨key, spec⟩ := e
    cases key with
    | text name =>
      rw [answer_fields_text hi] at h
      rcases Except.bind_eq_error.mp h with hchain | ⟨first, -, h⟩
      · exact Or.inr ⟨name, spec, List.mem_cons_self, hchain⟩
      · rcases Except.bind_eq_error.mp h with hrest | ⟨others, -, h⟩
        · rcases ih hrest with ⟨k, s, hm, hk⟩ | ⟨n, s, hm, hn⟩
          · exact Or.inl ⟨k, s, List.mem_cons_of_mem _ hm, hk⟩
          · exact Or.inr ⟨n, s, List.mem_cons_of_mem _ hm, hn⟩
        · exact nomatch h
    | _ => exact Or.inl ⟨_, spec, List.mem_cons_self, (Except.error.inj h).symm⟩

end Compiler

end FieldRules
