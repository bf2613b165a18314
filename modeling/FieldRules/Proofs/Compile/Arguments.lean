import FieldRules.Proofs.Except
import FieldRules.Rule.Arguments
import Mathlib.Data.List.Induction

/-!
# How arguments are refused

The rules read their arguments with a handful of functions, and what these fail with decides what
becomes of a schema: an objection is reported as a defect of the schema, any other fault is not. All
of them object and do nothing else (`Objects`), even where the message of an objection cannot be
written, with one exception: a pattern may also be too large for the engine that matches it
(`pattern_ends`).
-/

set_option autoImplicit false

namespace FieldRules

theorem Value.plainText_eq_ok {v : Value} {s : String} :
    v.plainText = .ok s ↔ v.plainText? = some s := by
  unfold plainText
  cases v.plainText? with
  | none => simp
  | some t => simp

namespace Arguments

variable {α β : Type}

/-- The computation fails with objections only. -/
def Objects (x : Except Fault α) : Prop :=
  Except.Ends (fun _ => True) (fun fault => fault.isObjection = true) x

theorem Objects.ok (a : α) : Objects (.ok a) := Except.Ends.ok trivial

theorem Objects.error {fault : Fault} (h : fault.isObjection = true) :
    Objects (.error fault : Except Fault α) := Except.Ends.error h

theorem Objects.bind {x : Except Fault α} {f : α → Except Fault β} (hx : Objects x)
    (hf : ∀ a, Objects (f a)) : Objects (x >>= f) := Except.Ends.bind hx fun a _ => hf a

theorem objects_shown (v : Value) : Objects v.shown := by
  unfold Value.shown
  cases v.shown? with
  | some s => exact .ok s
  | none => exact .error rfl

theorem objects_plainText (v : Value) : Objects v.plainText := by
  unfold Value.plainText
  cases v.plainText? with
  | some s => exact .ok s
  | none => exact .error rfl

theorem objects_numberText (n : Number) : Objects (numberText n) := by
  unfold numberText
  cases n.text? with
  | some s => exact .ok s
  | none => exact .error rfl

theorem objects_refuse (v : Value) (refusal : String → Refusal) :
    Objects (refuse v refusal : Except Fault α) :=
  (objects_shown v).bind fun _ => .error rfl

theorem objects_number (argument : String) (v : Value) : Objects (number argument v) := by
  unfold number
  split
  · exact .ok _
  · exact objects_refuse v _

theorem objects_length (argument : String) (v : Value) : Objects (length argument v) := by
  unfold length
  split
  · split
    · exact .ok _
    · exact objects_refuse v _
  · exact objects_refuse v _

theorem objects_fullText (v : Value) (refusal : String → Refusal) :
    Objects (fullText v refusal) := by
  unfold fullText
  split
  · split
    · exact objects_refuse _ _
    · exact .ok _
  · exact objects_refuse v _

theorem objects_numberBounds (low high : Value) : Objects (numberBounds low high) := by
  refine (objects_number _ low).bind fun l => (objects_number _ high).bind fun h => ?_
  split
  · refine (objects_numberText l).bind fun _ => (objects_numberText h).bind fun _ => ?_
    exact .error rfl
  · exact .ok _

theorem objects_lengthBounds (low high : Value) : Objects (lengthBounds low high) := by
  refine (objects_length _ low).bind fun l => (objects_length _ high).bind fun h => ?_
  split
  · refine (objects_numberText (.whole l)).bind fun _ => ?_
    refine (objects_numberText (.whole h)).bind fun _ => ?_
    exact .error rfl
  · exact .ok _

/-! ## What is read -/

theorem refuse_ne_ok (v : Value) (refusal : String → Refusal) (a : α) :
    (refuse v refusal : Except Fault α) ≠ .ok a := by
  intro h
  obtain ⟨shown, -, h⟩ := Except.bind_eq_ok.mp h
  exact nomatch h

theorem fullText_eq_ok {v : Value} {refusal : String → Refusal} {s : String}
    (h : fullText v refusal = .ok s) : v = .text s := by
  cases v with
  | text t =>
    by_cases ht : t.isEmpty = true
    · rw [fullText, if_pos ht] at h
      exact absurd h (refuse_ne_ok _ _ _)
    · rw [fullText, if_neg ht, Except.ok.injEq] at h
      rw [h]
  | _ => exact absurd h (refuse_ne_ok _ _ _)

theorem number_eq_ok {argument : String} {v : Value} {n : Number} :
    number argument v = .ok n ↔ v.number? = some n := by
  unfold number
  cases v.number? with
  | none => simp [refuse_ne_ok]
  | some m => simp

/-- The length that a value is or denotes. -/
def length? (v : Value) : Option Nat :=
  match v.number? with
  | some n => if n.isWhole && 0 ≤ n.truncate then some n.truncate.toNat else none
  | none => none

theorem length_eq_ok {argument : String} {v : Value} {n : Nat} :
    length argument v = .ok n ↔ length? v = some n := by
  unfold length length?
  cases v.number? with
  | none => simp [refuse_ne_ok]
  | some m =>
    dsimp only
    split
    · simp
    · simp [refuse_ne_ok]

theorem number?_of_length? {v : Value} {n : Nat} (h : length? v = some n) :
    ∃ m, v.number? = some m := by
  unfold length? at h
  cases hm : v.number? with
  | none =>
    rw [hm] at h
    exact nomatch h
  | some m => exact ⟨m, rfl⟩

theorem numberBounds_eq_ok {low high : Value} {bounds : Number × Number}
    (h : numberBounds low high = .ok bounds) :
    low.number? = some bounds.1 ∧ high.number? = some bounds.2 := by
  obtain ⟨l, hl, h⟩ := Except.bind_eq_ok.mp h
  obtain ⟨u, hu, h⟩ := Except.bind_eq_ok.mp h
  split at h
  · obtain ⟨_, -, h⟩ := Except.bind_eq_ok.mp h
    obtain ⟨_, -, h⟩ := Except.bind_eq_ok.mp h
    exact nomatch h
  · rw [← Except.ok.inj h]
    exact ⟨number_eq_ok.mp hl, number_eq_ok.mp hu⟩

theorem lengthBounds_eq_ok {low high : Value} {bounds : Nat × Nat}
    (h : lengthBounds low high = .ok bounds) :
    length? low = some bounds.1 ∧ length? high = some bounds.2 := by
  obtain ⟨l, hl, h⟩ := Except.bind_eq_ok.mp h
  obtain ⟨u, hu, h⟩ := Except.bind_eq_ok.mp h
  split at h
  · obtain ⟨_, -, h⟩ := Except.bind_eq_ok.mp h
    obtain ⟨_, -, h⟩ := Except.bind_eq_ok.mp h
    exact nomatch h
  · rw [← Except.ok.inj h]
    exact ⟨length_eq_ok.mp hl, length_eq_ok.mp hu⟩

/-! ## Options -/

/-- The options with their texts, as a table: each in its place, a later one instead of an earlier
one that reads the same. -/
def tabled (named : List (String × Value)) : List (String × Value) :=
  named.foldl (fun table e => putNamed e.1 e.2 table) []

/-- A value with its text. -/
def withText (v : Value) : Except Fault (String × Value) := v.plainText >>= fun s => .ok (s, v)

/-- Options are read by checking what they are, and then each by itself. -/
theorem options_eq (vs : List Value) :
    options vs =
      if vs.isEmpty then .error (.refused .noOptions)
      else if !vs.all Value.isPrimitive then .error (.refused .compositeOption)
      else (vs.reverse.mapM withText).map tabled := by
  unfold options
  split
  · rfl
  · split
    · rfl
    · show (vs.reverse.mapM withText >>= fun named => .ok (tabled named)) = _
      cases vs.reverse.mapM withText <;> rfl

theorem objects_options (vs : List Value) : Objects (options vs) := by
  rw [options_eq]
  split
  · exact .error rfl
  · split
    · exact .error rfl
    · have hends : Except.Ends (fun es : List (String × Value) => ∀ e ∈ es, True)
          (fun fault => fault.isObjection = true) (vs.reverse.mapM withText) :=
        Except.Ends.mapM fun v _ => (objects_plainText v).bind fun s => .ok (s, v)
      exact hends.map fun _ _ => trivial

/-- The entries that the options are tabled from: the values from the last to the first, all of them
primitive, each with its plain text. -/
theorem options_eq_ok {vs : List Value} {options : List (String × Value)}
    (h : Arguments.options vs = .ok options) :
    vs ≠ [] ∧ (∀ v ∈ vs, v.isPrimitive = true) ∧ ∃ named, options = tabled named ∧
      List.Forall₂ (fun v e => v.plainText = .ok e.1 ∧ e.2 = v) vs.reverse named := by
  rw [options_eq] at h
  split at h
  · exact nomatch h
  · rename_i hempty
    split at h
    · exact nomatch h
    · rename_i hprimitive
      rw [Bool.not_eq_true', Bool.not_eq_false, List.all_eq_true] at hprimitive
      obtain ⟨named, hnamed, rfl⟩ := Except.map_eq_ok.mp h
      refine ⟨by simpa using hempty, hprimitive, named, rfl, ?_⟩
      refine (Except.mapM_eq_ok.mp hnamed).imp fun v e he => ?_
      obtain ⟨s, hs, he⟩ := Except.bind_eq_ok.mp he
      rw [← Except.ok.inj he]
      exact ⟨hs, rfl⟩

theorem tabled_append_singleton (named : List (String × Value)) (e : String × Value) :
    tabled (named ++ [e]) = putNamed e.1 e.2 (tabled named) := by
  simp [tabled]

theorem mem_of_mem_tabled {named : List (String × Value)} {e : String × Value}
    (h : e ∈ tabled named) : e ∈ named := by
  induction named using List.reverseRecOn with
  | nil => exact h
  | append_singleton named last ih =>
    rw [tabled_append_singleton] at h
    rcases mem_putNamed h with rfl | h
    · simp
    · simp [ih h]

/-- **What is found in the table is the last entry of its text.** -/
theorem lookup_tabled (named : List (String × Value)) (s : String) :
    (tabled named).lookup s = named.reverse.lookup s := by
  induction named using List.reverseRecOn with
  | nil => rfl
  | append_singleton named last ih =>
    rw [tabled_append_singleton, lookup_putNamed, ih, List.reverse_append, List.reverse_singleton,
      List.singleton_append]
    obtain ⟨text, v⟩ := last
    by_cases hs : s = text
    · simp [hs]
    · simp [List.lookup_cons, beq_eq_false_iff_ne.mpr hs, hs]

/-- What is read as options are the values, which are primitive, each with its plain text. -/
theorem mem_options {vs : List Value} {options : List (String × Value)}
    (h : Arguments.options vs = .ok options) :
    ∀ e ∈ options, e.2 ∈ vs ∧ e.2.isPrimitive = true ∧ e.2.plainText = .ok e.1 := by
  intro e he
  obtain ⟨-, hprimitive, named, rfl, hnamed⟩ := options_eq_ok h
  obtain ⟨v, hv, ht, rfl⟩ := hnamed.exists_of_mem_right (mem_of_mem_tabled he)
  rw [List.mem_reverse] at hv
  exact ⟨hv, hprimitive _ hv, ht⟩

/-- The first of some values that reads like a text. -/
def firstReading? (s : String) (vs : List Value) : Option Value :=
  vs.find? fun v => v.plainText? == some s

/-- **The option under a text is the first one that reads like it.** The table was filled from the
last option to the first, so that the first one is the one that replaced the others. -/
theorem lookup_options {vs : List Value} {options : List (String × Value)}
    (h : Arguments.options vs = .ok options) (s : String) :
    options.lookup s = firstReading? s vs := by
  obtain ⟨-, -, named, rfl, hnamed⟩ := options_eq_ok h
  rw [lookup_tabled]
  have hreverse := List.forall₂_reverse_iff.mpr hnamed
  rw [List.reverse_reverse] at hreverse
  generalize named.reverse = es at hreverse
  clear h hnamed
  induction hreverse with
  | nil => rfl
  | @cons v e vs es hve _ ih =>
    obtain ⟨text, w⟩ := e
    obtain ⟨htext, rfl⟩ := hve
    rw [Value.plainText_eq_ok] at htext
    by_cases hs : s = text
    · simp [firstReading?, htext, hs]
    · have hne : (s == text) = false := beq_eq_false_iff_ne.mpr hs
      simpa [firstReading?, List.lookup_cons, htext, hne, Ne.symm hs] using ih

/-- The faults of patterns that are too large to be compiled. -/
def IsOversized (fault : Fault) : Prop := fault = .repetitionTooLarge ∨ fault = .farLookbehind

/-- **A pattern is refused, or it is too large.** -/
theorem pattern_ends (source flags : Value) :
    Except.Ends (fun _ => True) (fun fault => fault.isObjection = true ∨ IsOversized fault)
      (pattern source flags) := by
  have hrefuse : ∀ {γ : Type} {x : Except Fault γ}, Objects x →
      Except.Ends (fun _ => True) (fun fault => fault.isObjection = true ∨ IsOversized fault) x :=
    fun h => ⟨fun _ _ => trivial, fun fault hf => Or.inl (h.2 fault hf)⟩
  unfold pattern
  split
  case h_2 => exact .error (Or.inl rfl)
  case h_1 s =>
    split
    case h_2 => exact hrefuse (objects_refuse flags _)
    case h_1 letters =>
      split
      case h_2 => exact hrefuse (objects_refuse _ _)
      case h_1 set _ =>
        split
        · exact .ok trivial
        · exact .error (Or.inl rfl)
        · exact .error (Or.inr (Or.inl rfl))
        · exact .error (Or.inl rfl)
        · exact .error (Or.inl rfl)
        · exact .error (Or.inr (Or.inr rfl))

end Arguments

end FieldRules
