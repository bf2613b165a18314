import Mathlib.Data.List.Nodup
import FieldRules.Proofs.Error.Path
import FieldRules.Proofs.Error.Shape
import FieldRules.Proofs.Value.Parts

/-!
# Leaves in document order

Reading an error finds all of its leaves (`Errors.mem_leaves_iff`) and finds them in the order in
which they are written down (`Errors.leaves_before`): of two leaves that are under different keys of
a mapping, or at different indices of a list, the one comes first whose key or index does. Where no
mapping has the same key twice this is an order (`Errors.Before.asymm`), so that no leaf is found
twice.
-/

set_option autoImplicit false

namespace FieldRules.Errors

/-! ## Places in an error -/

/-- What stands in an error at a place. -/
inductive At : Value → Place → Value → Prop
  | here (error : Value) : At error [] error
  | entry {entries : Entries} {key error found : Value} {place : Place} :
    (key, error) ∈ entries → At error place found → At (.map entries) (key :: place) found
  | item {errors : List Value} {index : Nat} {error found : Value} {place : Place} :
    errors[index]? = some error → At error place found →
    At (.list errors) (.int index :: place) found

/-- The value is an error and has no errors in it. -/
def IsLeaf : Value → Prop
  | .null | .map _ | .list _ => False
  | _ => True

/-- The order in which places are written down. -/
inductive Before : Value → Place → Place → Prop
  | entries {entries : Entries} {i j : Nat} {key key' error error' : Value} {p q : Place} :
    i < j → entries[i]? = some (key, error) → entries[j]? = some (key', error') →
    Before (.map entries) (key :: p) (key' :: q)
  | entry {entries : Entries} {key error : Value} {p q : Place} :
    (key, error) ∈ entries → Before error p q → Before (.map entries) (key :: p) (key :: q)
  | items {errors : List Value} {i j : Nat} {p q : Place} :
    i < j → Before (.list errors) (.int i :: p) (.int j :: q)
  | item {errors : List Value} {index : Nat} {error : Value} {p q : Place} :
    errors[index]? = some error → Before error p q →
    Before (.list errors) (.int index :: p) (.int index :: q)

/-! ## Reading an error -/

/-- The leaves below a key or an index. -/
def leavesBelow (segment error : Value) : List (Place × Value) :=
  (leaves error).map fun l => (segment :: l.1, l.2)

theorem mem_leavesBelow {segment error : Value} {l : Place × Value} :
    l ∈ leavesBelow segment error ↔
      ∃ place, (place, l.2) ∈ leaves error ∧ l.1 = segment :: place := by
  unfold leavesBelow
  rw [List.mem_map]
  constructor
  · rintro ⟨⟨place, leaf⟩, hl, rfl⟩
    exact ⟨place, hl, rfl⟩
  · rintro ⟨place, hl, hplace⟩
    exact ⟨_, hl, Prod.ext hplace.symm rfl⟩

theorem leaves_map (entries : Entries) :
    leaves (.map entries) = entries.flatMap fun e => leavesBelow e.1 e.2 := by
  show entryLeaves entries = _
  induction entries with
  | nil => rfl
  | cons e rest ih =>
    rw [List.flatMap_cons, ← ih]
    rfl

theorem leaves_list (errors : List Value) :
    leaves (.list errors) = errors.zipIdx.flatMap fun e => leavesBelow (.int e.2) e.1 := by
  have hitems : ∀ start, itemLeaves start errors =
      (errors.zipIdx start).flatMap fun e => leavesBelow (.int e.2) e.1 := by
    induction errors with
    | nil => exact fun _ => rfl
    | cons error rest ih =>
      intro start
      rw [List.zipIdx_cons, List.flatMap_cons, ← ih]
      rfl
  exact hitems 0

/-- A leaf is all that there is to read. -/
theorem leaves_of_isLeaf {error : Value} (h : IsLeaf error) : leaves error = [([], error)] := by
  cases error with
  | null => exact h.elim
  | map entries => exact h.elim
  | list errors => exact h.elim
  | _ => rfl

theorem mem_leaves_map {entries : Entries} {l : Place × Value} :
    l ∈ leaves (.map entries) ↔
      ∃ key error place, (key, error) ∈ entries ∧ (place, l.2) ∈ leaves error ∧
        l.1 = key :: place := by
  rw [leaves_map, List.mem_flatMap]
  simp only [mem_leavesBelow, Prod.exists]
  constructor
  · rintro ⟨key, error, he, place, hl, hplace⟩
    exact ⟨key, error, place, he, hl, hplace⟩
  · rintro ⟨key, error, place, he, hl, hplace⟩
    exact ⟨key, error, he, place, hl, hplace⟩

theorem mem_leaves_list {errors : List Value} {l : Place × Value} :
    l ∈ leaves (.list errors) ↔
      ∃ (index : Nat) (error : Value) (place : Place), errors[index]? = some error ∧
        (place, l.2) ∈ leaves error ∧ l.1 = .int index :: place := by
  rw [leaves_list, List.mem_flatMap]
  simp only [mem_leavesBelow, Prod.exists, List.mk_mem_zipIdx_iff_getElem?]
  constructor
  · rintro ⟨error, index, he, place, hl, hplace⟩
    exact ⟨index, error, place, he, hl, hplace⟩
  · rintro ⟨index, error, place, he, hl, hplace⟩
    exact ⟨error, index, he, place, hl, hplace⟩

/-- **Reading an error finds its leaves, and nothing else.** -/
theorem mem_leaves_iff {error : Value} {place : Place} {leaf : Value} :
    (place, leaf) ∈ leaves error ↔ At error place leaf ∧ IsLeaf leaf := by
  constructor
  · induction error using Value.induction_parts generalizing place with
    | h error ih =>
      intro h
      cases error with
      | null => exact nomatch h
      | map entries =>
        obtain ⟨key, error, below, he, hl, rfl⟩ := mem_leaves_map.mp h
        obtain ⟨hat, hleaf⟩ := ih error (Entries.mem_parts he) hl
        exact ⟨.entry he hat, hleaf⟩
      | list errors =>
        obtain ⟨index, error, below, he, hl, rfl⟩ := mem_leaves_list.mp h
        obtain ⟨hat, hleaf⟩ := ih error (List.mem_of_getElem? he) hl
        exact ⟨.item he hat, hleaf⟩
      | _ =>
        cases List.mem_singleton.mp h
        exact ⟨.here _, trivial⟩
  · rintro ⟨hat, hleaf⟩
    induction hat with
    | here error =>
      rw [leaves_of_isLeaf hleaf]
      exact List.mem_singleton.mpr rfl
    | entry he _ ih => exact mem_leaves_map.mpr ⟨_, _, _, he, ih hleaf, rfl⟩
    | item he _ ih => exact mem_leaves_list.mpr ⟨_, _, _, he, ih hleaf, rfl⟩

/-- Leaves below one segment are in the order that they have there. -/
theorem pairwise_leavesBelow {segment error outer : Value}
    (h : (leaves error).Pairwise fun a b => Before error a.1 b.1)
    (hbelow : ∀ p q, Before error p q → Before outer (segment :: p) (segment :: q)) :
    (leavesBelow segment error).Pairwise fun a b => Before outer a.1 b.1 :=
  List.pairwise_map.mpr (h.imp fun hab => hbelow _ _ hab)

/-- **Reading an error finds its leaves in the order in which they are written down.** -/
theorem leaves_before (error : Value) :
    (leaves error).Pairwise fun a b => Before error a.1 b.1 := by
  induction error using Value.induction_parts with
  | h error ih =>
    cases error with
    | null => exact List.Pairwise.nil
    | map entries =>
      rw [leaves_map, List.pairwise_flatMap]
      constructor
      · rintro ⟨key, error⟩ he
        exact pairwise_leavesBelow (ih error (Entries.mem_parts he)) fun _ _ => .entry he
      · rw [List.pairwise_iff_getElem]
        intro i j hi hj hij a ha b hb
        obtain ⟨p, -, hp⟩ := mem_leavesBelow.mp ha
        obtain ⟨q, -, hq⟩ := mem_leavesBelow.mp hb
        rw [hp, hq]
        exact .entries hij (List.getElem?_eq_getElem hi) (List.getElem?_eq_getElem hj)
    | list errors =>
      rw [leaves_list, List.pairwise_flatMap]
      constructor
      · rintro ⟨error, index⟩ he
        have he := List.mk_mem_zipIdx_iff_getElem?.mp he
        exact pairwise_leavesBelow (ih error (List.mem_of_getElem? he)) fun _ _ => .item he
      · rw [List.pairwise_iff_getElem]
        intro i j hi hj hij a ha b hb
        obtain ⟨p, -, hp⟩ := mem_leavesBelow.mp ha
        obtain ⟨q, -, hq⟩ := mem_leavesBelow.mp hb
        rw [hp, hq, List.getElem_zipIdx, List.getElem_zipIdx]
        exact .items (by simpa using hij)
    | _ => exact List.pairwise_singleton _ _

/-! ## Plain errors -/

/-- An error that can be flattened without loss. Mappings have plain names, each of them once, and
what is neither null nor a mapping nor a list has a text, like every code. No list is longer than
there are indices to write, which is far more than a memory holds. -/
inductive IsPlain : Value → Prop
  | null : IsPlain .null
  | leaf {error : Value} {text : String} :
    IsLeaf error → error.display = .ok text → IsPlain error
  | map {entries : Entries} :
    (entries.map (·.1)).Nodup → (∀ e ∈ entries, ∃ name, e.1 = .text name ∧ IsPlainName name) →
    (∀ e ∈ entries, IsPlain e.2) → IsPlain (.map entries)
  | list {errors : List Value} :
    errors.length ≤ Numeral.textless → (∀ error ∈ errors, IsPlain error) → IsPlain (.list errors)

/-- Errors under the names of fields are plain if the names are. -/
theorem IsPlain.ofNamed {errors : List (String × Value)} (hnodup : (errors.map (·.1)).Nodup)
    (hnames : ∀ e ∈ errors, IsPlainName e.1) (herrors : ∀ e ∈ errors, IsPlain e.2) :
    IsPlain (.map (Entries.ofNamed errors)) := by
  refine .map ?_ ?_ ?_
  · have hkeys : (Entries.ofNamed errors).map (·.1) = (errors.map (·.1)).map Value.text := by
      simp [Entries.ofNamed]
    rw [hkeys]
    exact hnodup.map fun _ _ => Value.text.inj
  · intro e he
    obtain ⟨named, hnamed, rfl⟩ := List.mem_map.mp he
    exact ⟨named.1, rfl, hnames named hnamed⟩
  · intro e he
    obtain ⟨named, hnamed, rfl⟩ := List.mem_map.mp he
    exact herrors named hnamed

theorem IsPlain.entries {entries : Entries} (h : IsPlain (.map entries)) :
    (entries.map (·.1)).Nodup ∧ (∀ e ∈ entries, ∃ name, e.1 = .text name ∧ IsPlainName name) ∧
      ∀ e ∈ entries, IsPlain e.2 := by
  cases h with
  | leaf hleaf => exact hleaf.elim
  | map hnodup hnames herrors => exact ⟨hnodup, hnames, herrors⟩

theorem IsPlain.items {errors : List Value} (h : IsPlain (.list errors)) :
    errors.length ≤ Numeral.textless ∧ ∀ error ∈ errors, IsPlain error := by
  cases h with
  | leaf hleaf => exact hleaf.elim
  | list hlength herrors => exact ⟨hlength, herrors⟩

/-- What stands in a plain error is plain, and so is the place at which it stands. -/
theorem IsPlain.at {error found : Value} {place : Place} (h : IsPlain error)
    (hat : At error place found) : IsPlain found ∧ place.IsPlain := by
  induction hat with
  | here error => exact ⟨h, fun _ hs => nomatch hs⟩
  | @entry entries key error found place he _ ih =>
    obtain ⟨-, hnames, herrors⟩ := h.entries
    obtain ⟨hfound, hplace⟩ := ih (herrors _ he)
    obtain ⟨name, hname, hplain⟩ := hnames _ he
    obtain rfl : key = .text name := hname
    refine ⟨hfound, fun segment hs => ?_⟩
    rcases List.mem_cons.mp hs with rfl | hs
    · exact .name hplain
    · exact hplace segment hs
  | @item errors index error found place he _ ih =>
    obtain ⟨hlength, herrors⟩ := h.items
    obtain ⟨hfound, hplace⟩ := ih (herrors _ (List.mem_of_getElem? he))
    refine ⟨hfound, fun segment hs => ?_⟩
    rcases List.mem_cons.mp hs with rfl | hs
    · obtain ⟨hindex, -⟩ := List.getElem?_eq_some_iff.mp he
      exact .index (Nat.lt_of_lt_of_le hindex hlength)
    · exact hplace segment hs

/-- In a mapping that has each key once, a key has one position. -/
theorem position_unique {entries : Entries} (h : (entries.map (·.1)).Nodup) {i j : Nat}
    {key error error' : Value} (hi : entries[i]? = some (key, error))
    (hj : entries[j]? = some (key, error')) : i = j := by
  obtain ⟨hlt, -⟩ := List.getElem?_eq_some_iff.mp hi
  refine (List.getElem?_inj (by rwa [List.length_map]) h).mp ?_
  rw [List.getElem?_map, List.getElem?_map, hi, hj]
  rfl

theorem value_unique {entries : Entries} (h : (entries.map (·.1)).Nodup) {key error error' : Value}
    (he : (key, error) ∈ entries) (he' : (key, error') ∈ entries) : error = error' := by
  obtain ⟨i, hi⟩ := List.getElem?_of_mem he
  obtain ⟨j, hj⟩ := List.getElem?_of_mem he'
  obtain rfl := position_unique h hi hj
  exact congrArg Prod.snd (Option.some.inj (hi.symm.trans hj))

/-- **In a plain error no two places stand before each other.** -/
theorem Before.asymm {error : Value} (h : IsPlain error) {p q : Place} (hpq : Before error p q) :
    ¬ Before error q p := by
  induction hpq with
  | entries hij hi hj =>
    obtain ⟨hnodup, -, -⟩ := h.entries
    intro hqp
    cases hqp with
    | entries hij' hi' hj' =>
      have hfirst := position_unique hnodup hi hj'
      have hsecond := position_unique hnodup hj hi'
      omega
    | entry =>
      have hsame := position_unique hnodup hi hj
      omega
  | entry he _ ih =>
    obtain ⟨hnodup, -, herrors⟩ := h.entries
    intro hqp
    cases hqp with
    | entries hij' hi' hj' =>
      have hsame := position_unique hnodup hi' hj'
      omega
    | entry he' hqp =>
      obtain rfl := value_unique hnodup he he'
      exact ih (herrors _ he) hqp
  | items hij =>
    intro hqp
    cases hqp with
    | items hij' => omega
    | item => omega
  | item he _ ih =>
    intro hqp
    cases hqp with
    | items hij' => omega
    | item he' hqp =>
      obtain rfl := Option.some.inj (he.symm.trans he')
      exact ih (h.items.2 _ (List.mem_of_getElem? he)) hqp

/-- No leaf of a plain error is found twice. -/
theorem nodup_leaves {error : Value} (h : IsPlain error) :
    ((leaves error).map (·.1)).Nodup := by
  refine List.pairwise_map.mpr ((leaves_before error).imp fun {a b} hab heq => ?_)
  rw [heq] at hab
  exact hab.asymm h hab

end FieldRules.Errors
