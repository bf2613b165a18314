import FieldRules.Proofs.Except
import FieldRules.Spec

/-!
# The grammar of specs

A spec is an item or a list of items, and an item is a name or a mapping of one name to arguments.
That is the whole grammar: these values have a meaning and no others do, and what is refused is
refused for the first part of it that is no item (`Invocation.ofSpec_grammar`).

Each item means one invocation (`Invocation.Means`), and a list means what its items mean, one by
one, so that lists of items can be cut and put together. The invocations can be written down again
as items, all of them in the one form of a name with a list of arguments, and then they mean
themselves. This is the canonical form of a spec; whatever was left out, spread or wrapped in the
arguments is gone in it, since a list around the arguments is taken off exactly once.
-/

set_option autoImplicit false

namespace FieldRules

/-! ## The grammar -/

namespace Value

/-- An item of a spec: a name, or a mapping with one entry, which is from a name. -/
inductive IsItem : Value → Prop
  | name {name : String} : name ≠ "" → IsItem (text name)
  | call {name : String} {arg : Value} : name ≠ "" → IsItem (map [(text name, arg)])

/-- A spec: an item, or a list or a tuple of items with at least one in it. -/
inductive IsSpec : Value → Prop
  | item {v : Value} : v.IsItem → IsSpec v
  | list {items : List Value} : items ≠ [] → (∀ item ∈ items, item.IsItem) → IsSpec (list items)
  | tuple {items : List Value} : items ≠ [] → (∀ item ∈ items, item.IsItem) → IsSpec (tuple items)

/-- What keeps a value from being a spec: the first element that is no item, or the value itself if
it has no elements. -/
inductive SpoiledBy : Value → Value → Prop
  | whole {v : Value} : (∀ items, v.items? = some items → items = []) → ¬ v.IsItem → SpoiledBy v v
  | element {v part : Value} {before after : List Value} :
    v.items? = some (before ++ part :: after) → (∀ item ∈ before, item.IsItem) → ¬ part.IsItem →
    SpoiledBy v part

theorem IsItem.items? {v : Value} (h : v.IsItem) : v.items? = none := by
  cases h <;> rfl

end Value

/-- The items of a spec, which is one item if it is no list. -/
def specItems (spec : Value) : List Value := spec.items?.getD [spec]

/-- A value is a spec if it has items and nothing else. -/
theorem Value.isSpec_iff {spec : Value} :
    spec.IsSpec ↔ specItems spec ≠ [] ∧ ∀ item ∈ specItems spec, item.IsItem := by
  constructor
  · intro h
    cases h with
    | item hv =>
      rw [specItems, hv.items?]
      exact ⟨List.cons_ne_nil _ _, fun item hm => by rwa [List.mem_singleton.mp hm]⟩
    | list hne hall => exact ⟨hne, hall⟩
    | tuple hne hall => exact ⟨hne, hall⟩
  · rintro ⟨hne, hall⟩
    cases spec with
    | list items => exact .list hne hall
    | tuple items => exact .tuple hne hall
    | _ => exact .item (hall _ List.mem_cons_self)

namespace Invocation

/-- **What an item means**: a name is a rule without arguments, and an entry is the rule of its name
with the elements of its value as arguments, or with the value itself if it has none. -/
inductive Means : Value → Invocation → Prop
  | name {name : String} : name ≠ "" → Means (.text name) { name }
  | call {name : String} {arg : Value} :
    name ≠ "" → Means (.map [(.text name, arg)]) { name, args := arg.items?.getD [arg] }

/-- An invocation written as an item, with its arguments in a list. -/
def asItem (invocation : Invocation) : Value :=
  .map [(.text invocation.name, .list invocation.args)]

/-- The spec that has the invocations written out. -/
def canonical (invocations : List Invocation) : Value := .list (invocations.map asItem)

variable {item : Value} {invocation : Invocation} {bad : BadSpec}

theorem Means.isItem (h : Means item invocation) : item.IsItem := by
  cases h with
  | name hname => exact .name hname
  | call hname => exact .call hname

theorem Means.name_ne (h : Means item invocation) : invocation.name ≠ "" := by
  cases h with
  | name hname => exact hname
  | call hname => exact hname

theorem exists_means (h : item.IsItem) : ∃ invocation, Means item invocation := by
  cases h with
  | name hname => exact ⟨_, .name hname⟩
  | call hname => exact ⟨_, .call hname⟩

theorem means_asItem (h : invocation.name ≠ "") : Means invocation.asItem invocation := .call h

/-! ## Items -/

theorem ofItem_eq_ok_iff : ofItem item = .ok invocation ↔ Means item invocation := by
  constructor
  · intro h
    unfold ofItem at h
    split at h
    case h_1 name =>
      split at h
      · exact nomatch h
      · rename_i hname
        cases h
        exact .name fun he => hname (String.isEmpty_iff.mpr he)
    case h_2 name arg =>
      split at h
      · exact nomatch h
      · rename_i hname
        cases h
        exact .call fun he => hname (String.isEmpty_iff.mpr he)
    all_goals exact nomatch h
  · rintro (hname | hname)
    · simp [ofItem, String.isEmpty_iff, hname]
    · simp [ofItem, String.isEmpty_iff, hname]

/-- What is wrong with an item is said of the item. -/
theorem part_of_ofItem (h : ofItem item = .error bad) : bad.part = item := by
  unfold ofItem at h
  split at h
  case h_1 =>
    split at h
    · rw [← Except.error.inj h]
    · exact nomatch h
  case h_2 =>
    split at h
    · rw [← Except.error.inj h]
    · exact nomatch h
  all_goals rw [← Except.error.inj h]

/-- No item is a list, so that in a list nothing else is accepted. -/
theorem ofListItem_eq_ok_iff : ofListItem item = .ok invocation ↔ Means item invocation := by
  unfold ofListItem
  cases hitems : item.items? with
  | some items =>
    constructor
    · exact fun h => nomatch h
    · intro h
      rw [h.isItem.items?] at hitems
      exact nomatch hitems
  | none => exact ofItem_eq_ok_iff

theorem part_of_ofListItem (h : ofListItem item = .error bad) : bad.part = item := by
  unfold ofListItem at h
  split at h
  · rw [← Except.error.inj h]
  · exact part_of_ofItem h

/-! ## Lists of items -/

theorem ofItems_eq_mapM (items : List Value) : ofItems items = items.mapM ofListItem := by
  induction items with
  | nil => rfl
  | cons item rest ih =>
    rw [ofItems, List.mapM_cons, ih]

/-- **A list means what its items mean, one by one.** -/
theorem ofItems_eq_ok_iff {items : List Value} {invocations : List Invocation} :
    ofItems items = .ok invocations ↔ List.Forall₂ Means items invocations := by
  rw [ofItems_eq_mapM, Except.mapM_eq_ok]
  simp only [ofListItem_eq_ok_iff]

theorem ofItems_append (xs ys : List Value) :
    ofItems (xs ++ ys) = do
      let before ← ofItems xs
      let after ← ofItems ys
      return before ++ after := by
  simp only [ofItems_eq_mapM, List.mapM_append]

theorem ofItems_append_eq_ok {xs ys : List Value} {invocations : List Invocation} :
    ofItems (xs ++ ys) = .ok invocations ↔ ∃ before after,
      ofItems xs = .ok before ∧ ofItems ys = .ok after ∧ invocations = before ++ after := by
  rw [ofItems_append, Except.bind_eq_ok]
  constructor
  · rintro ⟨before, hbefore, h⟩
    obtain ⟨after, hafter, h⟩ := Except.bind_eq_ok.mp h
    exact ⟨before, after, hbefore, hafter, (Except.ok.inj h).symm⟩
  · rintro ⟨before, after, hbefore, hafter, rfl⟩
    exact ⟨before, hbefore, by rw [hafter]; rfl⟩

theorem length_ofItems {items : List Value} {invocations : List Invocation}
    (h : ofItems items = .ok invocations) : invocations.length = items.length :=
  (ofItems_eq_ok_iff.mp h).length_eq.symm

theorem ofItems_text {name : String} {invocations : List Invocation}
    (h : ofItems [.text name] = .ok invocations) : invocations = [{ name }] := by
  obtain ⟨invocation, rest, hmeans, hrest, rfl⟩ :=
    List.forall₂_cons_left_iff.mp (ofItems_eq_ok_iff.mp h)
  cases hrest
  cases hmeans
  rfl

theorem forall_isItem_of_ofItems {items : List Value} {invocations : List Invocation}
    (h : ofItems items = .ok invocations) : ∀ item ∈ items, item.IsItem := by
  intro item hm
  obtain ⟨invocation, -, hmeans⟩ := (ofItems_eq_ok_iff.mp h).flip.exists_of_mem_right hm
  exact hmeans.isItem

theorem exists_ofItems {items : List Value} (h : ∀ item ∈ items, item.IsItem) :
    ∃ invocations, ofItems items = .ok invocations := by
  rw [ofItems_eq_mapM, Except.exists_mapM_eq_ok_iff]
  intro item hm
  obtain ⟨invocation, hmeans⟩ := exists_means (h item hm)
  exact ⟨invocation, ofListItem_eq_ok_iff.mpr hmeans⟩

/-- A list is refused for its first element that is no item. -/
theorem first_of_ofItems {items : List Value} (h : ofItems items = .error bad) :
    ∃ before after, items = before ++ bad.part :: after ∧ (∀ item ∈ before, item.IsItem) ∧
      ¬ bad.part.IsItem := by
  rw [ofItems_eq_mapM, Except.mapM_eq_error] at h
  obtain ⟨before, item, after, rfl, hbefore, hitem⟩ := h
  obtain rfl := part_of_ofListItem hitem
  refine ⟨before, after, rfl, fun other hm => ?_, fun hpart => ?_⟩
  · obtain ⟨invocation, hother⟩ := hbefore other hm
    exact (ofListItem_eq_ok_iff.mp hother).isItem
  · obtain ⟨invocation, hmeans⟩ := exists_means hpart
    rw [ofListItem_eq_ok_iff.mpr hmeans] at hitem
    exact nomatch hitem

/-! ## Specs -/

/-- A spec means what the list of its items means, if it has one. -/
theorem ofSpec_eq_ok_iff {spec : Value} {invocations : List Invocation} :
    ofSpec spec = .ok invocations ↔
      specItems spec ≠ [] ∧ ofItems (specItems spec) = .ok invocations := by
  unfold ofSpec specItems
  cases hitems : spec.items? with
  | none =>
    have hitem : ofListItem spec = ofItem spec := by
      unfold ofListItem
      rw [hitems]
    rw [Option.getD_none, ofItems, hitem]
    cases ofItem spec with
    | error bad => exact ⟨fun h => (nomatch h), fun h => (nomatch h.2)⟩
    | ok invocation => exact ⟨fun h => ⟨List.cons_ne_nil _ _, h⟩, fun h => h.2⟩
  | some items =>
    rw [Option.getD_some]
    cases items with
    | nil => exact ⟨fun h => (nomatch h), fun h => absurd rfl h.1⟩
    | cons item rest => exact ⟨fun h => ⟨List.cons_ne_nil _ _, h⟩, fun h => h.2⟩

theorem ofItems_specItems {spec : Value} {invocations : List Invocation}
    (h : ofSpec spec = .ok invocations) : ofItems (specItems spec) = .ok invocations :=
  (ofSpec_eq_ok_iff.mp h).2

theorem ofSpec_list {items : List Value} (h : items ≠ []) :
    ofSpec (.list items) = ofItems items := by
  cases items with
  | nil => exact absurd rfl h
  | cons item rest => rfl

theorem spoiledBy_of_ofSpec {spec : Value} (h : ofSpec spec = .error bad) :
    spec.SpoiledBy bad.part := by
  unfold ofSpec at h
  split at h
  case h_1 hitems =>
    rw [← Except.error.inj h]
    refine .whole (fun items hi => ?_) fun hitem => ?_
    · rw [hitems] at hi
      exact (Option.some.inj hi).symm
    · rw [hitem.items?] at hitems
      exact nomatch hitems
  case h_2 items _ hitems =>
    obtain ⟨before, after, hsplit, hbefore, hpart⟩ := first_of_ofItems h
    exact .element (by rw [hitems, hsplit]) hbefore hpart
  case h_3 hitems =>
    rw [Except.map_eq_error] at h
    obtain rfl := part_of_ofItem h
    refine .whole (fun items hi => ?_) fun hitem => ?_
    · rw [hitems] at hi
      exact nomatch hi
    · obtain ⟨invocation, hmeans⟩ := exists_means hitem
      rw [ofItem_eq_ok_iff.mpr hmeans] at h
      exact nomatch h

/-- The canonical form means the invocations that are written out in it. -/
theorem ofSpec_canonical {invocations : List Invocation} (hne : invocations ≠ [])
    (hnames : ∀ invocation ∈ invocations, invocation.name ≠ "") :
    ofSpec (canonical invocations) = .ok invocations := by
  have hmeans : List.Forall₂ Means (invocations.map asItem) invocations := by
    rw [List.forall₂_map_left_iff, List.forall₂_same]
    exact fun invocation hm => means_asItem (hnames invocation hm)
  rw [canonical, ofSpec_list (by simpa using hne)]
  exact ofItems_eq_ok_iff.mpr hmeans

/-- **The values that have a meaning are the specs.** Any other value is refused for what spoils it.
A spec means one invocation for each of its items, in order, and these have names and mean
themselves when they are written out. Of two lists put together each has to be a spec, and then the
invocations of the second one follow those of the first. -/
theorem ofSpec_grammar (spec : Value) :
    ((∃ invocations, ofSpec spec = .ok invocations) ↔ spec.IsSpec) ∧
      (∀ bad, ofSpec spec = .error bad → spec.SpoiledBy bad.part) ∧
      (∀ invocations, ofSpec spec = .ok invocations →
        List.Forall₂ Means (specItems spec) invocations ∧
          (∀ invocation ∈ invocations, invocation.name ≠ "") ∧
          ofSpec (canonical invocations) = .ok invocations) ∧
      ∀ xs ys : List Value, xs ≠ [] → ys ≠ [] → ∀ invocations,
        ofSpec (.list (xs ++ ys)) = .ok invocations ↔ ∃ before after,
          ofSpec (.list xs) = .ok before ∧ ofSpec (.list ys) = .ok after ∧
            invocations = before ++ after := by
  refine ⟨?accepts, fun _ => spoiledBy_of_ofSpec, fun invocations h => ?means, ?append⟩
  case accepts =>
    rw [Value.isSpec_iff]
    constructor
    · rintro ⟨invocations, h⟩
      obtain ⟨hne, hitems⟩ := ofSpec_eq_ok_iff.mp h
      exact ⟨hne, forall_isItem_of_ofItems hitems⟩
    · rintro ⟨hne, hall⟩
      obtain ⟨invocations, hitems⟩ := exists_ofItems hall
      exact ⟨invocations, ofSpec_eq_ok_iff.mpr ⟨hne, hitems⟩⟩
  case means =>
    obtain ⟨hne, hitems⟩ := ofSpec_eq_ok_iff.mp h
    have hmeans := ofItems_eq_ok_iff.mp hitems
    have hnames : ∀ invocation ∈ invocations, invocation.name ≠ "" := fun invocation hm => by
      obtain ⟨item, -, hitem⟩ := hmeans.exists_of_mem_right hm
      exact hitem.name_ne
    refine ⟨hmeans, hnames, ofSpec_canonical ?_ hnames⟩
    rintro rfl
    exact hne (List.forall₂_nil_right_iff.mp hmeans)
  case append =>
    intro xs ys hxs hys invocations
    rw [ofSpec_list hxs, ofSpec_list hys, ofSpec_list (List.append_ne_nil_of_left_ne_nil hxs ys)]
    exact ofItems_append_eq_ok

/-- The rules of a size: a name, a list that is an argument, and arguments in a tuple. -/
def sizeItems : List Value := [.text "required",
  .map [(.text "one_of", .list [.list [.text "S", .text "M"]])],
  .map [(.text "length_between", .tuple [.int 1, .int 2])]]

/-- What they mean. -/
def sizeRules : List Invocation := [{ name := "required" },
  { name := "one_of", args := [.list [.text "S", .text "M"]] },
  { name := "length_between", args := [.int 1, .int 2] }]

theorem ofSpec_grammar_size :
    ofSpec (.tuple sizeItems) = .ok sizeRules ∧ (Value.tuple sizeItems).IsSpec ∧
      ofSpec (canonical sizeRules) = .ok sizeRules ∧
      (∃ after, ofSpec (.list sizeItems.tail) = .ok after ∧
        ofSpec (.list (sizeItems.tail ++ sizeItems)) = .ok (after ++ sizeRules)) ∧
      ∃ bad, ofSpec (.list (sizeItems ++ [.list sizeItems, .null])) = .error bad ∧
        (Value.list (sizeItems ++ [.list sizeItems, .null])).SpoiledBy bad.part := by
  have hsize : ofSpec (.tuple sizeItems) = .ok sizeRules := rfl
  obtain ⟨haccepts, -, hmeans, happend⟩ := ofSpec_grammar (.tuple sizeItems)
  obtain ⟨-, hbad, -⟩ := ofSpec_grammar (.list (sizeItems ++ [.list sizeItems, .null]))
  have htail : ofSpec (.list sizeItems.tail) = .ok sizeRules.tail := rfl
  refine ⟨hsize, haccepts.mp ⟨_, hsize⟩, (hmeans _ hsize).2.2, ⟨_, htail, ?_⟩, _, rfl, hbad _ rfl⟩
  exact (happend _ _ (by simp [sizeItems]) (by simp [sizeItems]) _).mpr ⟨_, _, htail, rfl, rfl⟩

end Invocation

end FieldRules
