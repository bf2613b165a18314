import FieldRules.Errors
import FieldRules.Proofs.Except

/-!
# The shape of errors

An error is a code, or it has errors in it: under the names of fields, or at the places of list
items. It is *well formed* when there is something in it all the way down: no code is empty, no
mapping is, and no list is without an item that has an error (`IsError`). The predicate is
parametrised by what may stand in an error, the codes and the names. Nothing else is a text in it,
so it says also that no text comes from anywhere else.

Well-formed errors are those that reading an error can rely on. Each has a leaf, and every leaf is a
code (`IsError.exists_leaf`, `IsError.leaf_eq_text`), so that counting the leaves of a mapping of
errors tells whether it has any.
-/

set_option autoImplicit false

namespace FieldRules

/-- A well-formed error that is built from some codes and field names. -/
inductive IsError (codes names : String → Prop) : Value → Prop
  | code {s : String} : codes s → s ≠ "" → IsError codes names (.text s)
  | fields {errors : List (String × Value)} :
    errors ≠ [] → (∀ e ∈ errors, names e.1) → (∀ e ∈ errors, IsError codes names e.2) →
    IsError codes names (.map (Entries.ofNamed errors))
  | items {errors : List Value} :
    (∃ error ∈ errors, error ≠ .null) →
    (∀ error ∈ errors, error ≠ .null → IsError codes names error) →
    IsError codes names (.list errors)

/-! ## Leaves -/

namespace Errors

theorem mem_entryLeaves {entries : Entries} {key error : Value} (h : (key, error) ∈ entries)
    {place : Place} {leaf : Value} (hl : (place, leaf) ∈ leaves error) :
    (key :: place, leaf) ∈ entryLeaves entries := by
  induction entries with
  | nil => exact absurd h (by simp)
  | cons e rest ih =>
    obtain ⟨key', error'⟩ := e
    rw [entryLeaves, List.mem_append]
    rcases List.mem_cons.mp h with heq | h
    · cases heq
      exact Or.inl (List.mem_map.mpr ⟨_, hl, rfl⟩)
    · exact Or.inr (ih h)

theorem mem_itemLeaves {errors : List Value} {error : Value} (h : error ∈ errors) {place : Place}
    {leaf : Value} (hl : (place, leaf) ∈ leaves error) (start : Nat) :
    ∃ index : Nat, (.int index :: place, leaf) ∈ itemLeaves start errors := by
  induction errors generalizing start with
  | nil => exact absurd h (by simp)
  | cons other rest ih =>
    rcases List.mem_cons.mp h with rfl | h
    · refine ⟨start, ?_⟩
      rw [itemLeaves, List.mem_append]
      exact Or.inl (List.mem_map.mpr ⟨_, hl, rfl⟩)
    · obtain ⟨index, hm⟩ := ih h (start + 1)
      refine ⟨index, ?_⟩
      rw [itemLeaves, List.mem_append]
      exact Or.inr hm

theorem exists_of_mem_entryLeaves {entries : Entries} {l : Place × Value}
    (h : l ∈ entryLeaves entries) :
    ∃ e ∈ entries, ∃ inner ∈ leaves e.2, l = (e.1 :: inner.1, inner.2) := by
  induction entries with
  | nil => exact absurd h (by simp [entryLeaves])
  | cons e rest ih =>
    obtain ⟨key, error⟩ := e
    rw [entryLeaves, List.mem_append] at h
    rcases h with h | h
    · obtain ⟨inner, hinner, rfl⟩ := List.mem_map.mp h
      exact ⟨(key, error), List.mem_cons_self, inner, hinner, rfl⟩
    · obtain ⟨e, he, hrest⟩ := ih h
      exact ⟨e, List.mem_cons_of_mem _ he, hrest⟩

theorem exists_of_mem_itemLeaves {errors : List Value} {start : Nat} {l : Place × Value}
    (h : l ∈ itemLeaves start errors) :
    ∃ error ∈ errors, ∃ inner ∈ leaves error, l.2 = inner.2 := by
  induction errors generalizing start with
  | nil => exact absurd h (by simp [itemLeaves])
  | cons error rest ih =>
    rw [itemLeaves, List.mem_append] at h
    rcases h with h | h
    · obtain ⟨inner, hinner, rfl⟩ := List.mem_map.mp h
      exact ⟨error, List.mem_cons_self, inner, hinner, rfl⟩
    · obtain ⟨error, he, hrest⟩ := ih h
      exact ⟨error, List.mem_cons_of_mem _ he, hrest⟩

end Errors

open Errors

variable {codes names : String → Prop} {error : Value}

/-- **A well-formed error has a leaf.** -/
theorem IsError.exists_leaf (h : IsError codes names error) : ∃ l, l ∈ leaves error := by
  induction h with
  | @code s _ _ => exact ⟨([], .text s), List.mem_singleton.mpr rfl⟩
  | @fields errors hne _ _ ih =>
    obtain ⟨e, rest, rfl⟩ := List.exists_cons_of_ne_nil hne
    obtain ⟨l, hl⟩ := ih e List.mem_cons_self
    have hentry : (.text e.1, e.2) ∈ Entries.ofNamed (e :: rest) := List.mem_cons_self
    exact ⟨_, mem_entryLeaves hentry hl⟩
  | @items errors hsome _ ih =>
    obtain ⟨error, hm, hne⟩ := hsome
    obtain ⟨l, hl⟩ := ih error hm hne
    obtain ⟨index, hindex⟩ := mem_itemLeaves hm hl 0
    exact ⟨_, hindex⟩

/-- **The leaves of a well-formed error are codes.** -/
theorem IsError.leaf_eq_text (h : IsError codes names error) {l : Place × Value}
    (hl : l ∈ leaves error) : ∃ s, l.2 = .text s ∧ codes s := by
  induction h generalizing l with
  | @code s hs _ =>
    rw [List.mem_singleton.mp hl]
    exact ⟨s, rfl, hs⟩
  | @fields errors _ _ _ ih =>
    obtain ⟨e, he, inner, hinner, rfl⟩ := exists_of_mem_entryLeaves hl
    obtain ⟨named, hnamed, rfl⟩ := List.mem_map.mp he
    obtain ⟨s, hs, hc⟩ := ih named hnamed hinner
    exact ⟨s, hs, hc⟩
  | @items errors _ _ ih =>
    obtain ⟨error, hm, inner, hinner, heq⟩ := exists_of_mem_itemLeaves hl
    have hne : error ≠ .null := by
      rintro rfl
      exact absurd hinner (by simp [leaves])
    rw [heq]
    exact ih error hm hne hinner

/-! ## Errors under the names of fields -/

section
variable {errors : List (String × Value)} (h : ∀ e ∈ errors, IsError codes names e.2)
include h

/-- The errors of fields can be listed, and each field has a code in the list. -/
theorem listed_of_isError :
    ∃ items, listed (.map (Entries.ofNamed errors)) = .ok items ∧
      ∀ e ∈ errors, ∃ place code, (.text e.1 :: place, code) ∈ items ∧ codes code := by
  have hleaf : ∀ l ∈ leaves (.map (Entries.ofNamed errors)), ∃ s, l.2 = .text s ∧ codes s := by
    intro l hl
    obtain ⟨e, he, inner, hinner, rfl⟩ := exists_of_mem_entryLeaves hl
    obtain ⟨named, hnamed, rfl⟩ := List.mem_map.mp he
    obtain ⟨s, hs, hc⟩ := (h named hnamed).leaf_eq_text hinner
    exact ⟨s, hs, hc⟩
  have hlist : ∃ items, listed (.map (Entries.ofNamed errors)) = .ok items := by
    refine Except.exists_mapM_eq_ok_iff.mpr fun l hl => ?_
    obtain ⟨place, leaf⟩ := l
    obtain ⟨s, hs, -⟩ := hleaf _ hl
    cases hs
    exact ⟨_, rfl⟩
  obtain ⟨items, hitems⟩ := hlist
  refine ⟨items, hitems, fun e he => ?_⟩
  obtain ⟨⟨place, leaf⟩, hl⟩ := (h e he).exists_leaf
  have hentry : (.text e.1, e.2) ∈ Entries.ofNamed errors := List.mem_map.mpr ⟨e, he, rfl⟩
  have hmem : (.text e.1 :: place, leaf) ∈ leaves (.map (Entries.ofNamed errors)) :=
    mem_entryLeaves hentry hl
  obtain ⟨s, hs, hc⟩ := hleaf _ hmem
  cases hs
  obtain ⟨item, hitem, hshown⟩ := (Except.mapM_eq_ok.mp hitems).flip.exists_of_mem_right hmem
  cases hshown
  exact ⟨place, s, hitem, hc⟩

/-- **Counting the leaves tells whether there are errors.** -/
theorem count_eq_zero_iff : count (.map (Entries.ofNamed errors)) = 0 ↔ errors = [] := by
  constructor
  · intro hcount
    by_contra hne
    obtain ⟨e, rest, rfl⟩ := List.exists_cons_of_ne_nil hne
    obtain ⟨l, hl⟩ := (h e List.mem_cons_self).exists_leaf
    have hentry : (.text e.1, e.2) ∈ Entries.ofNamed (e :: rest) := List.mem_cons_self
    have hmem := mem_entryLeaves hentry hl
    have hnil : entryLeaves (Entries.ofNamed (e :: rest)) = [] := List.length_eq_zero_iff.mp hcount
    rw [hnil] at hmem
    exact absurd hmem (by simp)
  · rintro rfl
    rfl

end

end FieldRules
