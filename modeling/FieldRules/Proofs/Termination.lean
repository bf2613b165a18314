import Mathlib.Logic.Function.Iterate
import FieldRules.Proofs.Compile.Reached

/-!
# Compiling comes to an end

Aliases are compiled where they are used, and their rules come from the registry, so nothing in a
schema gets smaller on the way down. All that ends the recursion is the limit. Compiling is one
level of compiling that is given itself for what is inside; unrolled more often than the limit
allows levels, it never gets to the bottom, whatever is there (`Compiler.iterate_sameIn`). The
compiler for a number of levels is that recursion, and compiling always ends. That the machine has a
stack for as many levels as the limit allows is taken for granted.

It cannot end well where an alias is used inside its own rules, however far down and by whatever way
(`Registry.Extends.not_has_of_uses`). The limit only decides how long it takes to fail: rules that
compile with some levels would have to compile with fewer of them, as a part of themselves.
-/

set_option autoImplicit false

namespace FieldRules

open Compiling

/-! ## Compilers that answer alike -/

/-- Two compilers come to the same in a scope. -/
structure Compiler.SameIn (scope : Option Scope) (a b : Compiler) : Prop where
  schema (v : Value) (requested : Option Bool) :
    answer (a.schema v requested) scope = answer (b.schema v requested) scope
  field (spec : Value) (requested : Option Bool) :
    answer (a.field spec requested) scope = answer (b.field spec requested) scope

section
variable {env : CompileEnv} {a b : Compiler} (ha : a.Restores) (hb : b.Restores)
  {s : Option Scope} (h : Compiler.SameIn s a b)
include ha hb h

/-- A builder cannot tell apart two compilers that come to the same. -/
theorem Recipe.answer_run_congr (recipe : Recipe) :
    answer (recipe.run a) s = answer (recipe.run b) s := by
  induction recipe with
  | ready check => rfl
  | notAValidator => rfl
  | fail failure => rfl
  | withSchema schema autoTrim next ih =>
    rw [answer_withSchema ha, answer_withSchema hb, h.schema, ih]
  | withField spec autoTrim next ih =>
    rw [answer_withField ha, answer_withField hb, h.field, ih]

namespace Compiler

theorem answer_step_congr (field : String) (invocation : Invocation) :
    answer (step env a field invocation) s = answer (step env b field invocation) s := by
  rw [answer_step ha, answer_step hb]
  simp only [Recipe.answer_run_congr ha hb h]

theorem answer_steps_congr (field : String) (invocations : List Invocation) :
    answer (steps env a field invocations) s = answer (steps env b field invocations) s := by
  rw [answer_steps ha, answer_steps hb]
  simp only [answer_step_congr ha hb h]

theorem answer_chain_congr (scope : Scope) (field : String) (spec : Value) :
    answer (chain env a scope field spec) s = answer (chain env b scope field spec) s := by
  unfold chain
  cases Invocation.ofSpec spec with
  | error bad => rfl
  | ok invocations =>
    show answer (steps env a field invocations >>= _) s =
      answer (steps env b field invocations >>= _) s
    rw [answer_bind (steps_restores ha field invocations),
      answer_bind (steps_restores hb field invocations), answer_steps_congr ha hb h]

theorem answer_fields_congr (scope : Scope) (schema : Value) (entries : Entries) :
    answer (fields env a scope schema entries) s =
      answer (fields env b scope schema entries) s := by
  induction entries with
  | nil => rfl
  | cons e rest ih =>
    obtain ⟨key, spec⟩ := e
    cases key with
    | text name =>
      rw [answer_fields_text ha, answer_fields_text hb, answer_chain_congr ha hb h, ih]
    | _ => rfl

end Compiler

end

namespace Compiler

variable {env : CompileEnv} {a b : Compiler} {s : Option Scope}

/-- Two levels come to the same if what is inside of them does. -/
theorem level_sameIn (ha : a.Restores) (hb : b.Restores)
    (h : ∀ requested, SameIn (some (entered s requested)) a b) :
    SameIn s (level env a) (level env b) := by
  constructor
  · intro v requested
    cases v with
    | map entries =>
      simp only [level]
      rw [answer_within, answer_within, answer_bind (fields_restores ha _ _ entries),
        answer_bind (fields_restores hb _ _ entries),
        answer_fields_congr ha hb (h requested)]
    | _ => rfl
  · intro spec requested
    simp only [level]
    rw [answer_within, answer_within, answer_chain_congr ha hb (h requested)]

/-- Where there is no room, what is inside does not matter. -/
theorem level_sameIn_exhausted (hs : env.limit - (depthOf s : Int) ≤ 0) :
    SameIn s (level env a) (exhausted env) := by
  have hfull : ∀ requested, env.limit < ((entered s requested).depth : Int) := by
    intro requested
    show env.limit < ((depthOf s + 1 : Nat) : Int)
    omega
  constructor
  · intro v requested
    cases v with
    | map entries =>
      simp only [level]
      rw [answer_within, if_pos (hfull requested)]
      rfl
    | _ => rfl
  · intro spec requested
    simp only [level]
    rw [answer_within, if_pos (hfull requested)]
    rfl

theorem iterate_level_restores (base : Compiler) {j : Nat} (hj : 0 < j) :
    ((level env)^[j] base).Restores := by
  cases j with
  | zero => exact absurd hj (Nat.lt_irrefl 0)
  | succ k =>
    rw [Function.iterate_succ_apply']
    exact level_restores env _

/-- **Unrolled once more than there are levels, compiling never gets to the bottom.** The induction
is on the levels that are left: each unrolling enters a scope, and in the last one there is no room
for another. -/
theorem iterate_sameIn (base : Compiler) {n j : Nat} (hj : n < j)
    (hn : (env.limit - (depthOf s : Int)).toNat = n) :
    SameIn s ((level env)^[j] base) (ofLevels env n) := by
  induction n generalizing s j with
  | zero =>
    obtain ⟨k, rfl⟩ : ∃ k, j = k + 1 := ⟨j - 1, by omega⟩
    rw [Function.iterate_succ_apply']
    exact level_sameIn_exhausted (by omega)
  | succ n ih =>
    obtain ⟨k, rfl⟩ : ∃ k, j = k + 1 := ⟨j - 1, by omega⟩
    -- The outermost of the unrolled levels stands against the outermost of the compiler.
    rw [Function.iterate_succ_apply', ofLevels_succ]
    have hk : n < k := by omega
    refine level_sameIn (iterate_level_restores base (by omega)) (ofLevels_restores env n) ?_
    intro requested
    refine ih hk ?_
    show (env.limit - ((depthOf s + 1 : Nat) : Int)).toNat = n
    omega

end Compiler

/-! ## Aliases that use themselves -/

namespace Registry

variable {r : Registry} {autoTrim : Bool} {n : Nat} {part : SchemaPart}
  {definition : AliasDefinition}

/-- An alias is used somewhere in a part of a schema, at any depth. -/
def Uses (r : Registry) (part : SchemaPart) (definition : AliasDefinition) : Prop :=
  ∃ (spec : Value) (invocation : Invocation), r.Reaches part (.spec spec) ∧
    invocation.IsIn spec ∧ r.find? invocation.name = some (.aliased definition)

/-- The rules of an alias compile with a level less than what uses it. -/
theorem Extends.has_rules_of_uses (hr : r.Extends Builder.IsAlias) (h : r.Uses part definition)
    (hp : (Compilation.ofLevels r autoTrim (n + 1)).Has part) :
    (Compilation.ofLevels r autoTrim n).Has (.spec definition.rules) := by
  obtain ⟨spec, invocation, hreaches, hi, hd⟩ := h
  have hspec : (Compilation.ofLevels r autoTrim (n + 1)).Has (.spec spec) :=
    hr.has_of_reaches hp hreaches
  have hinside : (Builder.aliased definition).Inside invocation.args (.spec definition.rules) :=
    List.mem_singleton_self definition.rules
  exact hr.has_of_rule hspec hi hd hinside

/-- **An alias that uses itself never compiles**, with any number of levels. -/
theorem Extends.not_has_of_uses (hr : r.Extends Builder.IsAlias)
    (h : r.Uses (.spec definition.rules) definition) :
    ¬ (Compilation.ofLevels r autoTrim n).Has (.spec definition.rules) := by
  induction n with
  | zero => exact Compilation.not_has_ofLevels_zero
  | succ n ih =>
    intro hp
    exact ih (hr.has_rules_of_uses h hp)

end Registry

/-- **Compiling comes to an end, and not to a good one where an alias uses itself.** For the first,
`Compiler.level` is the source of the recursion: given itself for what is inside it is the compiler,
and it may be given anything else after one level more than the limit allows without changing the
result. For the second, it does not matter in what way the aliases go round in a circle, whether
directly or in an alternative, in a list, or in the schema of an object. -/
theorem compileSchema_ends {r : Registry} (hr : r.Extends Builder.IsAlias) (limit : Int)
    (schema : Value) (autoTrim : Option Bool) :
    (∀ (base : Compiler) (j : Nat), limit.toNat < j →
      answer (((Compiler.level ⟨r, limit⟩)^[j] base).schema schema autoTrim) none =
        compileSchema ⟨r, limit⟩ schema autoTrim) ∧
    ∀ definition, r.Uses (.schema schema) definition →
      r.Uses (.spec definition.rules) definition →
      ∃ failure, compileSchema ⟨r, limit⟩ schema autoTrim = .error failure := by
  constructor
  · intro base j hj
    rw [compileSchema_eq]
    exact (Compiler.iterate_sameIn base hj (by simp [depthOf])).schema schema autoTrim
  · intro definition huses hself
    cases h : compileSchema ⟨r, limit⟩ schema autoTrim with
    | error failure => exact ⟨failure, rfl⟩
    | ok compiled =>
      have hp : (Compilation.ofLevels r (autoTrim.getD false) limit.toNat).Has (.schema schema) :=
        ⟨compiled, (compileSchema_eq_ok_iff hr.plain_of_isAlias autoTrim _ _).mp h⟩
      have hmore := Compilation.ofLevels_within r (autoTrim.getD false) (Nat.le_succ limit.toNat)
      exact absurd (hr.has_rules_of_uses huses (hmore.has hp)) (hr.not_has_of_uses hself)

/-! ## Two aliases that use each other -/

/-- The rules of a tree, which may have a forest under it. -/
def tree : AliasDefinition where
  name := "tree"
  rules := .map [(.text "nested_object", .map [(.text "below", .text "forest")])]
  error := none

/-- The rules of a forest: nothing, or a list of trees. -/
def forest : AliasDefinition where
  name := "forest"
  rules := .map [(.text "or", .list [.text "not_empty_list",
    .map [(.text "list_of", .text "tree")]])]
  error := some "BAD_FOREST"

/-- The catalogue with the two aliases. -/
def treeRules : Registry :=
  (Registry.ofBuiltins.put "tree" (.aliased tree)).put "forest" (.aliased forest)

theorem treeRules_extends : treeRules.Extends Builder.IsAlias := by
  refine Registry.Extends.put (Registry.Extends.put (Registry.extends_ofBuiltins _) ?_ ?_) ?_ ?_
  · decide +kernel
  · exact ⟨tree, rfl, by decide, by decide⟩
  · decide +kernel
  · exact ⟨forest, rfl, by decide, by decide⟩

theorem reaches_forest : treeRules.Reaches (.spec tree.rules) (.spec (.text "forest")) := by
  have hschema : treeRules.Holds (.spec tree.rules)
      (.schema (.map [(.text "below", .text "forest")])) :=
    .schema ⟨_, rfl, List.mem_cons_self⟩ (treeRules_extends.builtin .nestedObject)
      List.mem_cons_self
  exact (Relation.ReflTransGen.single hschema).tail (.field List.mem_cons_self)

theorem uses_tree : treeRules.Uses (.spec tree.rules) tree := by
  refine ⟨.text "tree", ⟨"tree", []⟩, ?_, ⟨_, rfl, List.mem_cons_self⟩, rfl⟩
  have hrules : treeRules.Embeds (.text "forest") forest.rules :=
    ⟨⟨"forest", []⟩, .aliased forest, ⟨_, rfl, List.mem_cons_self⟩, rfl, List.mem_cons_self⟩
  have hor : treeRules.Embeds forest.rules (.map [(.text "list_of", .text "tree")]) :=
    ⟨⟨"or", _⟩, .builtin .or, ⟨_, rfl, List.mem_cons_self⟩, treeRules_extends.builtin .or,
      List.mem_cons_of_mem _ List.mem_cons_self⟩
  have hlist : treeRules.Embeds (.map [(.text "list_of", .text "tree")]) (.text "tree") :=
    ⟨⟨"list_of", _⟩, .builtin .listOf, ⟨_, rfl, List.mem_cons_self⟩,
      treeRules_extends.builtin .listOf, List.mem_cons_self⟩
  exact ((reaches_forest.embedded hrules).embedded hor).embedded hlist

/-- A garden with a tree in it is never compiled, however deep schemas may be, and it takes no more
than a level over the limit to find out. -/
theorem compileSchema_ends_garden :
    let garden : Value := .map [(.text "oak", .list [.text "required", .text "tree"])]
    treeRules.Extends Builder.IsAlias ∧
      treeRules.Uses (.schema garden) tree ∧ treeRules.Uses (.spec tree.rules) tree ∧
      (∃ failure, compileSchema ⟨treeRules, 20⟩ garden = .error failure) ∧
      20 < 21 ∧
      answer (((Compiler.level ⟨treeRules, 20⟩)^[21]
        (Compiler.refusing (.fault .numberTooLong))).schema garden none) none =
          compileSchema ⟨treeRules, 20⟩ garden := by
  intro garden
  have huses : treeRules.Uses (.schema garden) tree :=
    ⟨.list [.text "required", .text "tree"], ⟨"tree", []⟩, .single (.field List.mem_cons_self),
      ⟨_, rfl, List.mem_cons_of_mem _ List.mem_cons_self⟩, rfl⟩
  obtain ⟨hunrolled, hfails⟩ := compileSchema_ends treeRules_extends 20 garden none
  exact ⟨treeRules_extends, huses, uses_tree, hfails tree huses uses_tree, by decide,
    hunrolled _ 21 (by decide)⟩

end FieldRules
