import FieldRules.Proofs.Compile.Meaning
import FieldRules.Proofs.Run.Choice

/-!
# Choices are associative

A choice `or` is made among specs, and one of these may be another choice. It makes no difference:
the alternatives of the inner choice can be written among those of the outer one, in its place, and
nothing about the field changes (`or_associative`). What compiles nested compiles flat, because the
alternatives are then one level less deep, and the other way round is a matter of having a level to
spare.

What a choice does is said without looking at how it runs. Each of its specs has a chain of its own,
the same that it would have if it were the spec of the field; and the outcome of the choice is that
of the first of these chains that passes on the value as it came in, with its value and with its
knowledge of whether that was written. The chains that failed before it might never have been there.
-/

set_option autoImplicit false

namespace FieldRules

section
variable {r : Registry} (hr : r.Extends Builder.IsAlias) {autoTrim : Bool} {n : Nat}
  {specs : List Value} {chain : Chain}
include hr

/-- A choice compiles to its alternatives, which have one level less. -/
theorem Registry.Extends.chains_of_or
    (h : (Compilation.ofLevels r autoTrim n).field (Builtin.or.spec (.list specs)) chain) :
    ∃ m rule chains, n = m + 1 ∧ chain = withTrim autoTrim [⟨rule, .firstOf chains⟩] ∧ chains ≠ [] ∧
      List.Forall₂ (Compilation.ofLevels r autoTrim m).field specs chains := by
  obtain ⟨m, ⟨rule, check⟩, hn, hchain, hyields⟩ :=
    hr.yields_of_call (Invocation.ofSpec_spec _ _) h
  obtain ⟨chains, rfl, hne, hchains⟩ := (Builtin.builds hyields).of_or
  refine ⟨m, rule, chains, hn, hchain, ?_, hchains⟩
  rintro rfl
  exact hne (List.forall₂_nil_right_iff.mp hchains)

/-- A choice of specs that compile compiles, with one level more. -/
theorem Registry.Extends.field_or {chains : List Chain} (hne : chains ≠ [])
    (h : List.Forall₂ (Compilation.ofLevels r autoTrim n).field specs chains) :
    ∃ rule, (Compilation.ofLevels r autoTrim (n + 1)).field (Builtin.or.spec (.list specs))
      (withTrim autoTrim [⟨rule, .firstOf chains⟩]) := by
  have hspecs : specs ≠ [] := by
    rintro rfl
    exact hne (List.forall₂_nil_left_iff.mp h)
  exact ⟨_, hr.field_of_yields (Invocation.ofSpec_spec _ _) (Builtin.takes_of_variadic rfl _)
    (Builtin.yields_or hspecs h)⟩

end

/-- The chains of specs have the pass in front. -/
theorem Compilation.prepare_of_ofLevels {r : Registry} {autoTrim : Bool} {n : Nat}
    {specs : List Value} {chains : List Chain}
    (h : List.Forall₂ (ofLevels r autoTrim n).field specs chains) : Prepare autoTrim chains := by
  intro chain hm
  obtain ⟨spec, -, hchain⟩ := h.exists_of_mem_right hm
  exact exists_withTrim_of_ofLevels hchain

/-- **An inner choice can be dissolved**, and what compiles with it compiles without. -/
theorem keepsMeaning_or {r : Registry} (hr : r.Extends Builder.IsAlias) (limit : Int)
    (autoTrim : Option Bool) (before inner after : List Value) :
    CompileEnv.KeepsMeaning ⟨r, limit⟩ autoTrim
      (Builtin.or.spec (.list (before ++ Builtin.or.spec (.list inner) :: after)))
      (Builtin.or.spec (.list (before ++ inner ++ after))) := by
  intro c hc
  rw [compileField_eq_ok_iff hr.plain_of_isAlias] at hc
  obtain ⟨m, rule, chains, hn, rfl, -, hchains⟩ := hr.chains_of_or hc
  obtain ⟨as, others, rfl, has, hothers⟩ := hchains.split
  obtain ⟨nested, bs, hnested, hbs, rfl⟩ := List.forall₂_cons_left_iff.mp hothers
  obtain ⟨k, inside, found, rfl, rfl, hne, hfound⟩ := hr.chains_of_or hnested
  -- The inner alternatives were compiled with one level less than they have in the flat choice.
  have hlifted := hfound.imp fun spec chain =>
    (Compilation.ofLevels_within r (autoTrim.getD false) (Nat.le_succ k)).field spec chain
  have hflat := List.rel_append (List.rel_append has hlifted) hbs
  obtain ⟨outside, hfield⟩ := hr.field_or (by simp [hne]) hflat
  refine ⟨_, (compileField_eq_ok_iff hr.plain_of_isAlias _ _ _).mpr (hn ▸ hfield), ?_⟩
  intro v siblings
  rw [runChain_firstOf, runChain_firstOf,
    runFirst_dissolve hne (Compilation.prepare_of_ofLevels hfound)]

/-- **A choice decides by the chains of its specs, each compiled on its own.** -/
theorem firstPassing_or {r : Registry} (hr : r.Extends Builder.IsAlias) {limit : Int}
    {autoTrim : Option Bool} {specs : List Value} {c : Chain}
    (hc : compileField ⟨r, limit⟩ (Builtin.or.spec (.list specs)) autoTrim = .ok c) :
    ∃ chains,
      List.Forall₂ (fun spec chain => compileField ⟨r, limit⟩ spec autoTrim = .ok chain)
        specs chains ∧
      ∀ v siblings, FirstPassing chains v siblings (runChain c v siblings false) := by
  rw [compileField_eq_ok_iff hr.plain_of_isAlias] at hc
  obtain ⟨m, rule, chains, hn, rfl, hne, hchains⟩ := hr.chains_of_or hc
  refine ⟨chains, hchains.imp fun spec chain h => ?_,
    firstPassing_runChain hne (Compilation.prepare_of_ofLevels hchains) rule⟩
  -- On its own a spec has all the levels, of which the choice takes one.
  rw [compileField_eq_ok_iff hr.plain_of_isAlias, hn]
  exact (Compilation.ofLevels_within r _ (Nat.le_succ m)).field spec chain h

/-- **Choices are associative and take the first match.** A choice with another one among its
alternatives means the same as the choice with the inner alternatives in its place; and a choice has
the outcome of the first of its alternatives that passes on the value itself. -/
theorem or_associative {r : Registry} (hr : r.Extends Builder.IsAlias) (limit : Int)
    (autoTrim : Option Bool) :
    (∀ before inner after : List Value, CompileEnv.KeepsMeaning ⟨r, limit⟩ autoTrim
      (Builtin.or.spec (.list (before ++ Builtin.or.spec (.list inner) :: after)))
      (Builtin.or.spec (.list (before ++ inner ++ after)))) ∧
    ∀ (specs : List Value) (c : Chain),
      compileField ⟨r, limit⟩ (Builtin.or.spec (.list specs)) autoTrim = .ok c → ∃ chains,
        List.Forall₂ (fun spec chain => compileField ⟨r, limit⟩ spec autoTrim = .ok chain)
          specs chains ∧
        ∀ v siblings, FirstPassing chains v siblings (runChain c v siblings false) :=
  ⟨keepsMeaning_or hr limit autoTrim, fun _ _ hc => firstPassing_or hr hc⟩

/-- Alternatives for a quantity. -/
def bounds : List Value :=
  [.map [(.text "max_number", .int 9)], .map [(.text "min_number", .int 90)]]

/-- A word instead of a quantity. -/
def word : Value := .list [.text "to_lc", .map [(.text "eq", .text "many")]]

theorem or_associative_quantity :
    Registry.ofBuiltins.Extends Builder.IsAlias ∧
      ∃ c d, compileField ⟨.ofBuiltins, 20⟩ (Builtin.or.spec
          (.list ([word] ++ Builtin.or.spec (.list bounds) :: [.text "email"]))) (some true) =
          .ok c ∧
        compileField ⟨.ofBuiltins, 20⟩ (Builtin.or.spec
          (.list ([word] ++ bounds ++ [.text "email"]))) (some true) = .ok d ∧
        runChain c (.text " 95 ") [] false = .ok { value := .int 95, written := true } ∧
        runChain c (.text "50") [] false =
          .ok { value := .text "50", error := some (.text "WRONG_EMAIL"), written := true } ∧
        ∀ v siblings, runChain c v siblings false = runChain d v siblings false := by
  have hr := Registry.extends_ofBuiltins Builder.IsAlias
  obtain ⟨c, hc, hpasses, hfails⟩ : ∃ c, compileField ⟨.ofBuiltins, 20⟩ (Builtin.or.spec
      (.list ([word] ++ Builtin.or.spec (.list bounds) :: [.text "email"]))) (some true) = .ok c ∧
      runChain c (.text " 95 ") [] false = .ok { value := .int 95, written := true } ∧
      runChain c (.text "50") [] false =
        .ok { value := .text "50", error := some (.text "WRONG_EMAIL"), written := true } :=
    ⟨_, rfl, rfl, rfl⟩
  obtain ⟨d, hd, hsame⟩ := (or_associative hr 20 (some true)).1 [word] bounds [.text "email"] c hc
  exact ⟨hr, c, d, hc, hd, hpasses, hfails, hsame⟩

end FieldRules
