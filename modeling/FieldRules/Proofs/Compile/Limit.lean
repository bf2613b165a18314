import FieldRules.Proofs.Compile.Levels

/-!
# Raising the limit

A schema that compiles under a limit compiles under every higher one, and to the same
(`compileSchema_persists`), as long as no builder makes something of a failure. One that is *strict*
fails when anything fails that it asks for; it may fail in its own way, and it may ask for any
auto-trim, so this is more than the plain recipes. A builder that is not strict can tell what the
limit is: it has a check to offer for the case that a schema is too deep.
-/

set_option autoImplicit false

namespace FieldRules

open Compiling

/-- A recipe that fails when something fails that it asks for. -/
inductive Recipe.Strict : Recipe → Prop
  | ready (check : Check) : Strict (.ready check)
  | notAValidator : Strict .notAValidator
  | fail (failure : Failure) : Strict (.fail failure)
  | withSchema {schema : Value} {autoTrim : Option Bool}
      {next : Except Failure CompiledSchema → Recipe} :
    (∀ failure, ∃ own, next (.error failure) = .fail own) →
    (∀ compiled, Strict (next (.ok compiled))) → Strict (.withSchema schema autoTrim next)
  | withField {spec : Value} {autoTrim : Option Bool} {next : Except Failure Chain → Recipe} :
    (∀ failure, ∃ own, next (.error failure) = .fail own) →
    (∀ chain, Strict (next (.ok chain))) → Strict (.withField spec autoTrim next)

theorem Recipe.Plain.strict {recipe : Recipe} (h : recipe.Plain) : recipe.Strict := by
  induction h with
  | ready check => exact .ready check
  | notAValidator => exact .notAValidator
  | fail failure => exact .fail failure
  | withSchema hfail _ ih => exact .withSchema (fun failure => ⟨failure, hfail failure⟩) ih
  | withField hfail _ ih => exact .withField (fun failure => ⟨failure, hfail failure⟩) ih

/-- All builders of a registry have strict recipes. -/
def Registry.Strict (r : Registry) : Prop :=
  ∀ name builder, r.find? name = some builder → ∀ args, (builder.recipe args).Strict

/-! ## Results that persist -/

/-- If the one has a result, the other one has the same. -/
def Except.Persists {ε α : Type} (x y : Except ε α) : Prop := ∀ a, x = .ok a → y = .ok a

namespace Except

variable {ε α β : Type} {x y : Except ε α}

theorem Persists.refl (x : Except ε α) : Persists x x := fun _ => id

theorem persists_error (e : ε) (y : Except ε α) : Persists (.error e) y := fun _ h => nomatch h

theorem Persists.bind (h : Persists x y) {f g : α → Except ε β} (hf : ∀ a, Persists (f a) (g a)) :
    Persists (x >>= f) (y >>= g) := by
  intro b hb
  obtain ⟨a, ha, hb⟩ := Except.bind_eq_ok.mp hb
  rw [h a ha]
  exact hf a b hb

theorem Persists.mapM {f g : α → Except ε β} (hf : ∀ a, Persists (f a) (g a)) (xs : List α) :
    Persists (xs.mapM f) (xs.mapM g) := by
  induction xs with
  | nil => exact .refl _
  | cons a rest ih =>
    rw [List.mapM_cons, List.mapM_cons]
    exact (hf a).bind fun _ => ih.bind fun _ => .refl _

end Except

/-! ## Compilers that go deeper -/

namespace Compiler

/-- What the compiler compiles in a scope, the deeper one compiles there too. -/
structure Within (inner deeper : Compiler) (scope : Option Scope) : Prop where
  schema (v : Value) (requested : Option Bool) :
    Except.Persists (answer (inner.schema v requested) scope)
      (answer (deeper.schema v requested) scope)
  field (spec : Value) (requested : Option Bool) :
    Except.Persists (answer (inner.field spec requested) scope)
      (answer (deeper.field spec requested) scope)

end Compiler

section
variable {inner deeper : Compiler} (hi : inner.Restores) (hd : deeper.Restores)
  {scope : Option Scope} (h : inner.Within deeper scope)
include hi hd h

theorem Recipe.Strict.persists {recipe : Recipe} (hs : recipe.Strict) :
    Except.Persists (answer (recipe.run inner) scope) (answer (recipe.run deeper) scope) := by
  induction hs with
  | ready check => exact .refl _
  | notAValidator => exact .refl _
  | fail failure => exact .refl _
  | @withSchema schema autoTrim next hfail _ ih =>
    rw [Recipe.answer_withSchema hi, Recipe.answer_withSchema hd]
    cases hasked : answer (inner.schema schema autoTrim) scope with
    | error failure =>
      obtain ⟨own, hown⟩ := hfail failure
      rw [hown]
      exact Except.persists_error own _
    | ok compiled =>
      rw [h.schema schema autoTrim compiled hasked]
      exact ih compiled
  | @withField spec autoTrim next hfail _ ih =>
    rw [Recipe.answer_withField hi, Recipe.answer_withField hd]
    cases hasked : answer (inner.field spec autoTrim) scope with
    | error failure =>
      obtain ⟨own, hown⟩ := hfail failure
      rw [hown]
      exact Except.persists_error own _
    | ok chain =>
      rw [h.field spec autoTrim chain hasked]
      exact ih chain

namespace Compiler

variable {r : Registry} (hr : r.Strict) {limit higher : Int}
include hr

theorem persists_step (field : String) (invocation : Invocation) :
    Except.Persists (answer (step { registry := r, limit } inner field invocation) scope)
      (answer (step { registry := r, limit := higher } deeper field invocation) scope) := by
  rw [answer_step hi, answer_step hd]
  intro made hmade
  obtain ⟨builder, hb, hmade⟩ := Except.bind_eq_ok.mp hmade
  obtain ⟨⟨⟩, ha, hmade⟩ := Except.bind_eq_ok.mp hmade
  have hrun := (hr _ _ (Registry.lookup_eq_ok.mp hb) invocation.args).persists hi hd h
  rw [hb, Except.ok_bind, ha, Except.ok_bind]
  cases hasked : answer ((builder.recipe invocation.args).run inner) scope with
  | error failure =>
    rw [hasked] at hmade
    exact nomatch hmade
  | ok check =>
    rw [hasked] at hmade
    rw [hrun check hasked]
    exact hmade

theorem persists_chain (entered : Scope) (field : String) (spec : Value) :
    Except.Persists (answer (chain { registry := r, limit } inner entered field spec) scope)
      (answer (chain { registry := r, limit := higher } deeper entered field spec) scope) := by
  unfold chain
  cases Invocation.ofSpec spec with
  | error bad => exact .refl _
  | ok invocations =>
    dsimp only
    rw [answer_bind (steps_restores hi field invocations),
      answer_bind (steps_restores hd field invocations), answer_steps hi, answer_steps hd]
    exact (Except.Persists.mapM (persists_step hi hd h hr field) invocations).bind fun _ =>
      .refl _

theorem persists_fields (entered : Scope) (schema : Value) (entries : Entries) :
    Except.Persists (answer (fields { registry := r, limit } inner entered schema entries) scope)
      (answer (fields { registry := r, limit := higher } deeper entered schema entries) scope) := by
  induction entries with
  | nil => exact .refl _
  | cons e rest ih =>
    obtain ⟨key, spec⟩ := e
    cases key with
    | text name =>
      rw [answer_fields_text hi, answer_fields_text hd]
      exact (persists_chain hi hd h hr entered name spec).bind fun _ => ih.bind fun _ => .refl _
    | _ => exact .refl _

end Compiler

end

section
variable {r : Registry} (hr : r.Strict) {limit higher : Int} (h : limit ≤ higher)
include hr h

theorem Compiler.ofLevels_deeper {m n : Nat} (hmn : m ≤ n) (scope : Option Scope) :
    (ofLevels { registry := r, limit } m).Within (ofLevels { registry := r, limit := higher } n)
      scope := by
  induction m generalizing n scope with
  | zero =>
    constructor
    · intro v requested
      cases v with
      | map entries => exact Except.persists_error _ _
      | _ => exact Except.persists_error _ _
    · exact fun spec requested => Except.persists_error _ _
  | succ m ih =>
    obtain ⟨n, rfl⟩ : ∃ k, n = k + 1 := ⟨n - 1, by omega⟩
    have hi := ofLevels_restores { registry := r, limit } m
    have hd := ofLevels_restores { registry := r, limit := higher } n
    -- What the lower limit lets in, the higher one does.
    have hwithin : ∀ {α : Type} (requested : Option Bool) (body deep : Scope → Compiling α),
        (∀ entered, Except.Persists (answer (body entered) (some entered))
          (answer (deep entered) (some entered))) →
        Except.Persists (answer (within limit requested body) scope)
          (answer (within higher requested deep) scope) := by
      intro α requested body deep hbody
      rw [answer_within, answer_within]
      split
      case isTrue => exact Except.persists_error _ _
      case isFalse hroom =>
        rw [if_neg (by omega)]
        exact hbody _
    have hbelow := fun entered => ih (Nat.le_of_succ_le_succ hmn) (some entered)
    constructor
    · intro v requested
      cases v with
      | map entries =>
        rw [ofLevels_succ, ofLevels_succ, level_schema_map, level_schema_map]
        refine hwithin requested _ _ fun entered => ?_
        rw [answer_bind (fields_restores hi entered _ entries),
          answer_bind (fields_restores hd entered _ entries)]
        exact (persists_fields hi hd (hbelow entered) hr entered _ entries).bind fun _ => .refl _
      | _ => exact Except.persists_error _ _
    · intro spec requested
      rw [ofLevels_succ, ofLevels_succ, level_field, level_field]
      exact hwithin requested _ _ fun entered =>
        persists_chain hi hd (hbelow entered) hr entered "" spec

/-- **What compiles under a limit compiles under a higher one, and to the same.** -/
theorem compileSchema_persists (schema : Value) (autoTrim : Option Bool) :
    Except.Persists (compileSchema { registry := r, limit } schema autoTrim)
      (compileSchema { registry := r, limit := higher } schema autoTrim) := by
  rw [compileSchema_eq, compileSchema_eq]
  exact (Compiler.ofLevels_deeper hr h (Int.toNat_le_toNat h) none).schema schema autoTrim

end

/-- So the limit has no say in what a schema compiles to. -/
theorem compileSchema_unique {r : Registry} (hr : r.Strict) {limit other : Int} {schema : Value}
    {autoTrim : Option Bool} {compiled found : CompiledSchema}
    (h : compileSchema { registry := r, limit } schema autoTrim = .ok compiled)
    (h' : compileSchema { registry := r, limit := other } schema autoTrim = .ok found) :
    found = compiled := by
  rcases Int.le_total limit other with hle | hle
  · exact Except.ok.inj (h'.symm.trans (compileSchema_persists hr hle schema autoTrim _ h))
  · exact Except.ok.inj ((compileSchema_persists hr hle schema autoTrim _ h').symm.trans h)

end FieldRules
