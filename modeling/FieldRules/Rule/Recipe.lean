import FieldRules.Check
import FieldRules.Failure

/-!
# Recipes

What a rule's builder does with its arguments. A builder may have schemas and specs compiled that
are embedded in them, and it decides what to do once it knows how that went; in the end it has a
check, or something that is none, or it fails.

A recipe is this dialogue as a value. It says nothing about *how* anything is compiled, which leaves
the compiler in charge of depth and auto-trim, whatever a custom builder asks for.
-/

set_option autoImplicit false

namespace FieldRules

/-- A builder's dialogue with the compiler. -/
inductive Recipe where
  | ready (check : Check)
  | notAValidator
  | fail (failure : Failure)
  | withSchema (schema : Value) (autoTrim : Option Bool)
      (next : Except Failure CompiledSchema → Recipe)
  | withField (spec : Value) (autoTrim : Option Bool) (next : Except Failure Chain → Recipe)

namespace Recipe

/-- The recipe for a check of one value. -/
def leaf (leaf : Leaf) : Recipe := ready (.leaf leaf)

/-- The recipe that a fallible computation ends in. -/
def ofExcept : Except Fault Recipe → Recipe
  | .ok recipe => recipe
  | .error f => fail (.fault f)

/-- An objection to the arguments. -/
def refuse (refusal : Refusal) : Recipe := fail (.fault (.refused refusal))

/-- Asks for a schema, failing as it fails. -/
def onSchema (schema : Value) (next : CompiledSchema → Recipe) : Recipe :=
  withSchema schema none fun
    | .ok compiled => next compiled
    | .error failure => fail failure

/-- Asks for a chain, failing as it fails. -/
def onField (spec : Value) (next : Chain → Recipe) : Recipe :=
  withField spec none fun
    | .ok chain => next chain
    | .error failure => fail failure

/-- Asks for the chains of all specs, in order. -/
def onFields : List Value → (List Chain → Recipe) → Recipe
  | [], next => next []
  | spec :: rest, next =>
    onField spec fun chain => onFields rest fun chains => next (chain :: chains)

end Recipe

/-- Puts a value under a name: in the place of the same name if there is one, else at the end. -/
def putNamed {α : Type} (name : String) (value : α) : List (String × α) → List (String × α)
  | [] => [(name, value)]
  | (other, old) :: rest =>
    if other = name then (name, value) :: rest else (other, old) :: putNamed name value rest

theorem lookup_putNamed {α : Type} (name other : String) (value : α) (named : List (String × α)) :
    (putNamed name value named).lookup other =
      if other = name then some value else named.lookup other := by
  induction named with
  | nil =>
    by_cases h : other = name
    · simp [putNamed, h]
    · have hb : (other == name) = false := by simpa using h
      simp [putNamed, List.lookup_cons, h, hb]
  | cons e rest ih =>
    obtain ⟨k, v⟩ := e
    by_cases hk : k = name
    · subst hk
      by_cases h : other = k
      · simp [putNamed, h]
      · have hb : (other == k) = false := by simpa using h
        simp [putNamed, List.lookup_cons, h, hb]
    · by_cases h : other = k
      · subst h
        simp [putNamed, hk]
      · have hb : (other == k) = false := by simpa using h
        simp [putNamed, hk, List.lookup_cons, hb, ih]

theorem mem_putNamed {α : Type} {name : String} {value : α} {named : List (String × α)}
    {e : String × α} (h : e ∈ putNamed name value named) : e = (name, value) ∨ e ∈ named := by
  induction named with
  | nil => exact Or.inl (List.mem_singleton.mp h)
  | cons first rest ih =>
    obtain ⟨other, old⟩ := first
    unfold putNamed at h
    split at h
    · rcases List.mem_cons.mp h with rfl | h
      · exact Or.inl rfl
      · exact Or.inr (List.mem_cons_of_mem _ h)
    · rcases List.mem_cons.mp h with rfl | h
      · exact Or.inr List.mem_cons_self
      · exact (ih h).imp_right (List.mem_cons_of_mem _)

end FieldRules
