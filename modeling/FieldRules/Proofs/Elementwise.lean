import FieldRules.Proofs.Error.Order
import FieldRules.Proofs.Run.Items

/-!
# Lists are validated item by item

There are three rules for the items of a list: for values that pass a chain, for objects of one
schema, and for objects that select theirs. Whatever the rule has inside, what it makes of a list is
what it makes of the lists of single items, put together again (`Check.run_elementwise`). So an item
cannot influence what becomes of another one, none is lost and none changes its place: where all
pass, the single values are written in order, and else the error has an entry for every item, in
order, null for those that pass. What the error says about an item it says at the index of the item,
and it says what the error of the item alone says at index zero.

The point of the proof is that the two lists that are filled, of values and of errors, are told
apart by the errors alone. A value that counts as false is a value like any other, and only null is
no error.
-/

set_option autoImplicit false

namespace FieldRules

/-- The check validates the items of a list. -/
inductive Check.IsOverItems : Check → Prop
  | each (chain : Chain) : IsOverItems (.each chain)
  | eachObject (schema : CompiledSchema) : IsOverItems (.eachObject schema)
  | eachVariant (selector : String) (variants : List (String × CompiledSchema)) :
    IsOverItems (.eachVariant selector variants)

namespace Effect

/-! ## Lists of single items -/

/-- What the effect on a list of one item says about the item: that there is no error, or the only
entry of the error. -/
inductive ErrorOfOne : Effect → Value → Prop
  | null {single : Effect} : single.error = .null → ErrorOfOne single .null
  | entry {error : Value} : error ≠ .null → ErrorOfOne { error := .list [error] } error

/-- The effect on a list is put together from the effects on the lists of its single items. If none
of these has an error, the list of what they write is written; else nothing is written, and the
error is the list of the single errors. -/
structure PutTogether (singles : List Effect) (whole : Effect) : Prop where
  passes : (∀ single ∈ singles, single.error = .null) → ∃ items,
    List.Forall₂ (fun single item => single = .wrote (.list [item])) singles items ∧
      whole = .wrote (.list items)
  fails : (¬ ∀ single ∈ singles, single.error = .null) → ∃ errors,
    List.Forall₂ ErrorOfOne singles errors ∧ whole = { error := .list errors }

variable {o : ItemOutcome}

theorem ofItems_singleton_of_null (h : o.2 = .null) : ofItems [o] = .wrote (.list [o.1]) :=
  ofItems_of_null (by simpa using h)

theorem ofItems_singleton_of_error (h : o.2 ≠ .null) : ofItems [o] = { error := .list [o.2] } :=
  ofItems_of_error (by simpa using h)

/-- A single item has no error just if the list of it has none. -/
theorem error_ofItems_singleton : (ofItems [o]).error = .null ↔ o.2 = .null := by
  constructor
  · intro h
    by_contra hne
    rw [ofItems_singleton_of_error hne] at h
    exact nomatch h
  · intro h
    rw [ofItems_singleton_of_null h]
    rfl

theorem errorOfOne_ofItems (o : ItemOutcome) : ErrorOfOne (ofItems [o]) o.2 := by
  by_cases h : o.2 = .null
  · rw [h]
    exact .null (error_ofItems_singleton.mpr h)
  · rw [ofItems_singleton_of_error h]
    exact .entry h

/-- **What is made of items is put together from what is made of each of them.** -/
theorem putTogether_ofItems (outcomes : List ItemOutcome) :
    PutTogether (outcomes.map fun o => ofItems [o]) (ofItems outcomes) := by
  have hnull : (∀ single ∈ outcomes.map fun o => ofItems [o], single.error = .null) ↔
      ∀ o ∈ outcomes, o.2 = .null := by
    simp only [List.forall_mem_map, error_ofItems_singleton]
  constructor
  case passes =>
    intro h
    rw [hnull] at h
    refine ⟨outcomes.map (·.1), ?_, ofItems_of_null h⟩
    rw [List.forall₂_map_left_iff, List.forall₂_map_right_iff, List.forall₂_same]
    exact fun o ho => ofItems_singleton_of_null (h o ho)
  case fails =>
    intro h
    rw [hnull] at h
    refine ⟨outcomes.map (·.2), ?_, ofItems_of_error h⟩
    rw [List.forall₂_map_left_iff, List.forall₂_map_right_iff, List.forall₂_same]
    exact fun o _ => errorOfOne_ofItems o

/-! ## Places in the errors -/

/-- The error of a list of one item says at index zero what it says about the item. -/
theorem ErrorOfOne.mem_leaves {single : Effect} {error : Value} (h : ErrorOfOne single error)
    {place : Errors.Place} {leaf : Value} :
    (.int 0 :: place, leaf) ∈ Errors.leaves single.error ↔ (place, leaf) ∈ Errors.leaves error := by
  cases h with
  | null h =>
    rw [h]
    exact ⟨fun hl => (nomatch hl), fun hl => (nomatch hl)⟩
  | entry _ =>
    rw [Errors.mem_leaves_list]
    constructor
    · rintro ⟨index, other, below, hother, hl, hplace⟩
      obtain ⟨hindex, rfl⟩ := List.cons.inj hplace
      obtain rfl : 0 = index := Int.ofNat.inj (Value.int.inj hindex)
      rwa [Option.some.inj hother]
    · exact fun hl => ⟨0, error, place, rfl, hl, rfl⟩

/-- The error of a list says at an index what the error of that item says at index zero. -/
theorem PutTogether.mem_leaves {singles : List Effect} {whole : Effect}
    (h : PutTogether singles whole) {place : Errors.Place} {leaf : Value} :
    (place, leaf) ∈ Errors.leaves whole.error ↔
      ∃ (index : Nat) (single : Effect) (below : Errors.Place), singles[index]? = some single ∧
        (.int 0 :: below, leaf) ∈ Errors.leaves single.error ∧ place = .int index :: below := by
  by_cases hnull : ∀ single ∈ singles, single.error = .null
  · obtain ⟨items, -, rfl⟩ := h.passes hnull
    constructor
    · exact fun hl => nomatch hl
    · rintro ⟨index, single, below, hsingle, hl, -⟩
      rw [hnull single (List.mem_of_getElem? hsingle)] at hl
      exact nomatch hl
  · obtain ⟨errors, herrors, rfl⟩ := h.fails hnull
    rw [Errors.mem_leaves_list]
    constructor
    · rintro ⟨index, error, below, herror, hl, rfl⟩
      obtain ⟨single, hsingle, hone⟩ := herrors.flip.exists_getElem? herror
      exact ⟨index, single, below, hsingle, hone.mem_leaves.mpr hl, rfl⟩
    · rintro ⟨index, single, below, hsingle, hl, rfl⟩
      obtain ⟨error, herror, hone⟩ := herrors.exists_getElem? hsingle
      exact ⟨index, error, below, herror, hone.mem_leaves.mp hl, rfl⟩

end Effect

/-! ## The list and its items -/

section
variable {one : Value → Except Fault ItemOutcome}

theorem checkItems_of_items? {v : Value} {items : List Value} (hv : v.items? = some items) :
    checkItems one v = (items.mapM one).map Effect.ofItems := by
  have hm : v.isMissing = false := by
    cases v with
    | list _ => rfl
    | tuple _ => rfl
    | _ => exact nomatch hv
  rw [checkItems, hm, hv]
  show (items.mapM one >>= fun outcomes => .ok (Effect.ofItems outcomes)) = _
  cases items.mapM one with
  | error fault => rfl
  | ok outcomes => rfl

/-- A list of one item has the outcome of the item. -/
theorem checkItems_singleton (item : Value) :
    checkItems one (.list [item]) = (one item).map fun o => Effect.ofItems [o] := by
  rw [checkItems_of_items? rfl]
  cases h : one item with
  | error fault =>
    rw [List.mapM_cons, h]
    rfl
  | ok o =>
    rw [List.mapM_cons, h]
    rfl

end

namespace Check

/-- All checks of the items of a list go through the items in the same way. -/
theorem IsOverItems.exists_one {check : Check} (h : check.IsOverItems) (siblings : Entries) :
    ∃ one : Value → Except Fault ItemOutcome, ∀ v, check.run v siblings = checkItems one v := by
  cases h with
  | each chain => exact ⟨_, fun v => by rw [run]⟩
  | eachObject schema => exact ⟨_, fun v => by rw [run]⟩
  | eachVariant selector variants => exact ⟨_, fun v => by rw [run]⟩

/-- **Lists are validated item by item.** If all the lists of one item have an effect, then so has
the whole list, and it is put together from theirs; the error of the whole says at an index what the
error of that item alone says at index zero. A fault is that of the first item that has one. -/
theorem run_elementwise {check : Check} (hcheck : check.IsOverItems) {v : Value}
    {items : List Value} (hv : v.items? = some items) (siblings : Entries) :
    (∀ singles,
      List.Forall₂ (fun item single => check.run (.list [item]) siblings = .ok single)
        items singles →
      ∃ whole, check.run v siblings = .ok whole ∧ Effect.PutTogether singles whole ∧
        ∀ (place : Errors.Place) (leaf : Value), (place, leaf) ∈ Errors.leaves whole.error ↔
          ∃ (index : Nat) (single : Effect) (below : Errors.Place), singles[index]? = some single ∧
            (.int 0 :: below, leaf) ∈ Errors.leaves single.error ∧ place = .int index :: below) ∧
    ∀ fault, check.run v siblings = .error fault ↔ ∃ before item after,
      items = before ++ item :: after ∧
        (∀ other ∈ before, ∃ single, check.run (.list [other]) siblings = .ok single) ∧
        check.run (.list [item]) siblings = .error fault := by
  obtain ⟨one, hone⟩ := hcheck.exists_one siblings
  simp only [hone]
  constructor
  · intro singles hsingles
    -- Each effect on one item is made of the outcome of the item, and all outcomes make the whole.
    obtain ⟨outcomes, houtcomes, rfl⟩ : ∃ outcomes, items.mapM one = .ok outcomes ∧
        outcomes.map (fun o => Effect.ofItems [o]) = singles := by
      rw [← Except.map_eq_ok, ← Except.mapM_map, Except.mapM_eq_ok]
      exact hsingles.imp fun item single h => by rwa [← checkItems_singleton]
    have htogether := Effect.putTogether_ofItems outcomes
    refine ⟨_, ?_, htogether, fun place leaf => htogether.mem_leaves⟩
    rw [checkItems_of_items? hv, houtcomes]
    rfl
  · intro fault
    have hok : ∀ item, (∃ single, checkItems one (.list [item]) = .ok single) ↔
        ∃ o, one item = .ok o := by
      intro item
      rw [checkItems_singleton]
      constructor
      · rintro ⟨single, h⟩
        obtain ⟨o, ho, -⟩ := Except.map_eq_ok.mp h
        exact ⟨o, ho⟩
      · rintro ⟨o, ho⟩
        exact ⟨_, Except.map_eq_ok.mpr ⟨o, ho, rfl⟩⟩
    have herror : ∀ item, checkItems one (.list [item]) = .error fault ↔
        one item = .error fault := by
      intro item
      rw [checkItems_singleton, Except.map_eq_error]
    simp only [hok, herror]
    rw [checkItems_of_items? hv, Except.map_eq_error, Except.mapM_eq_error]

/-- A rule of one's own: whole numbers become zero, and nothing else passes. -/
def zeroed : Step where
  rule := { name := "zeroed" }
  check := .custom fun v _ => match v with
    | .int _ => .ok (.wrote (.int 0))
    | _ => .ok (.fail .notInteger)

/-- A whole number, a text, and zero, which counts as false. -/
def amounts : List Value := [.int 7, .text "x", .int 0]

theorem run_elementwise_amounts :
    (each [zeroed]).IsOverItems ∧ (Value.tuple amounts).items? = some amounts ∧
      ∃ singles whole,
        List.Forall₂ (fun item single => (each [zeroed]).run (.list [item]) [] = .ok single)
          amounts singles ∧
        (each [zeroed]).run (.tuple amounts) [] = .ok whole ∧ Effect.PutTogether singles whole ∧
        whole.error = .list [.null, .text "NOT_INTEGER", .null] := by
  have hover : (each [zeroed]).IsOverItems := .each _
  have hv : (Value.tuple amounts).items? = some amounts := rfl
  obtain ⟨singles, hsingles⟩ : ∃ singles, List.Forall₂
      (fun item single => (each [zeroed]).run (.list [item]) [] = .ok single) amounts singles :=
    ⟨_, .cons rfl (.cons rfl (.cons rfl .nil))⟩
  obtain ⟨whole, hrun, htogether, -⟩ := (run_elementwise hover hv []).1 singles hsingles
  refine ⟨hover, hv, singles, whole, hsingles, hrun, htogether, ?_⟩
  rw [← Except.ok.inj hrun]
  rfl

end Check

end FieldRules
