import FieldRules.Errors
import FieldRules.Proofs.Except

/-!
# Paths can be read back

A path is written without escaping: a name that has a point or an opening bracket in it looks like
several segments, and an empty one like none. Where names are *plain* there is only one way to read
a path. A name goes on up to the next point or bracket, an index up to the bracket that closes it,
and what follows either starts with a point or a bracket or is not there at all. So no two places
have the same path (`Errors.path_injective`), apart from the empty place, whose path could be a
name.
-/

set_option autoImplicit false

namespace FieldRules.Errors

/-- A name that can be told apart from what stands around it in a path. -/
structure IsPlainName (name : String) : Prop where
  ne_empty : name ≠ ""
  no_point : '.' ∉ name.toList
  no_bracket : '[' ∉ name.toList

instance (name : String) : Decidable (IsPlainName name) :=
  decidable_of_iff (name ≠ "" ∧ '.' ∉ name.toList ∧ '[' ∉ name.toList)
    ⟨fun ⟨h, h', h''⟩ => ⟨h, h', h''⟩, fun h => ⟨h.ne_empty, h.no_point, h.no_bracket⟩⟩

/-- A segment of a place that is a plain name, or an index that can be written, as that of every list
that fits into a memory can. -/
inductive IsPlainSegment : Value → Prop
  | name {name : String} : IsPlainName name → IsPlainSegment (.text name)
  | index {index : Nat} : index < Numeral.textless → IsPlainSegment (.int index)

/-- The place has plain segments only. -/
def Place.IsPlain (place : Place) : Prop := ∀ segment ∈ place, IsPlainSegment segment

theorem Place.IsPlain.head {segment : Value} {rest : Place} (h : IsPlain (segment :: rest)) :
    IsPlainSegment segment := h segment List.mem_cons_self

theorem Place.IsPlain.tail {segment : Value} {rest : Place} (h : IsPlain (segment :: rest)) :
    rest.IsPlain := fun other ho => h other (List.mem_cons_of_mem _ ho)

/-! ## The characters of a path -/

/-- The characters of an index. -/
def indexChars (index : Nat) : List Char := '[' :: (Nat.toDigits 10 index ++ [']'])

/-- The characters of a segment after the first one. -/
def segmentChars : Value → List Char
  | .text name => '.' :: name.toList
  | .int index => indexChars index.toNat
  | _ => []

/-- The characters of the first segment. -/
def headChars : Value → List Char
  | .text name => name.toList
  | segment => segmentChars segment

/-- The characters of the segments after the first one. -/
def tailChars (place : Place) : List Char := place.flatMap segmentChars

theorem tailChars_cons (segment : Value) (rest : Place) :
    tailChars (segment :: rest) = segmentChars segment ++ tailChars rest := List.flatMap_cons

theorem display_index {index : Nat} (h : index < Numeral.textless) :
    (Value.int index).display = .ok (String.ofList (Nat.toDigits 10 index)) := by
  have htext : (Value.int index).display? = some (String.ofList (Nat.toDigits 10 index)) := by
    show Numeral.wholeText? index = _
    unfold Numeral.wholeText?
    rw [Int.natAbs_natCast, if_pos h]
    dsimp only
    rw [if_neg (by omega)]
  unfold Value.display
  rw [htext]

theorem segmentText_of_plain {segment : Value} (h : IsPlainSegment segment) :
    segmentText true segment = .ok (String.ofList (headChars segment)) ∧
      segmentText false segment = .ok (String.ofList (segmentChars segment)) := by
  cases h with
  | @name name hname =>
    constructor
    · show Except.ok name = Except.ok (String.ofList name.toList)
      rw [String.ofList_toList]
    · show Except.ok ("." ++ name) = Except.ok (String.ofList ('.' :: name.toList))
      rw [← String.toList_inj.mp (show ("." ++ name).toList =
        (String.ofList ('.' :: name.toList)).toList by simp)]
  | @index index hindex =>
    have htext : ∀ first, segmentText first (.int index) =
        .ok (String.ofList (indexChars index)) := by
      intro first
      have hjoin : "[" ++ String.ofList (Nat.toDigits 10 index) ++ "]" =
          String.ofList (indexChars index) := by
        apply String.toList_inj.mp
        simp [indexChars]
      unfold segmentText
      rw [display_index hindex, Except.ok_bind]
      show Except.ok ("[" ++ String.ofList (Nat.toDigits 10 index) ++ "]") = _
      rw [hjoin]
    exact ⟨htext true, htext false⟩

theorem join_segmentChars (place : Place) :
    String.join (place.map fun segment => String.ofList (segmentChars segment)) =
      String.ofList (tailChars place) := by
  induction place with
  | nil => rfl
  | cons segment rest ih =>
    rw [List.map_cons, String.join_cons, ih, tailChars_cons, String.ofList_append]

theorem path_of_plain {segment : Value} {rest : Place} (h : Place.IsPlain (segment :: rest)) :
    path (segment :: rest) = .ok (String.ofList (headChars segment ++ tailChars rest)) := by
  have htail : rest.mapM (segmentText false) =
      .ok (rest.map fun segment => String.ofList (segmentChars segment)) := by
    refine Except.mapM_eq_ok.mpr ?_
    rw [List.forall₂_map_right_iff, List.forall₂_same]
    exact fun segment hs => (segmentText_of_plain (h.tail segment hs)).2
  show segmentText true segment >>= _ = _
  rw [(segmentText_of_plain h.head).1, Except.ok_bind, htail,
    Except.ok_bind, String.join_cons, join_segmentChars, ← String.ofList_append]
  rfl

/-! ## Reading a path back -/

/-- There is one place at which characters stop to have a property. -/
theorem append_unique {p : Char → Bool} {a b r r' : List Char} (ha : ∀ c ∈ a, p c = true)
    (hb : ∀ c ∈ b, p c = true) (hr : ∀ c ∈ r.head?, p c = false)
    (hr' : ∀ c ∈ r'.head?, p c = false) (h : a ++ r = b ++ r') : a = b ∧ r = r' := by
  have htake : ∀ {a r : List Char}, (∀ c ∈ a, p c = true) → (∀ c ∈ r.head?, p c = false) →
      (a ++ r).takeWhile p = a := by
    intro a r ha hr
    rw [List.takeWhile_append_of_pos ha]
    cases r with
    | nil => rw [List.takeWhile_nil, List.append_nil]
    | cons c rest =>
      have hc : ¬ p c = true := by
        rw [hr c rfl]
        exact Bool.false_ne_true
      rw [List.takeWhile_cons_of_neg hc, List.append_nil]
  have hab := congrArg (List.takeWhile p) h
  rw [htake ha hr, htake hb hr'] at hab
  subst hab
  exact ⟨rfl, List.append_cancel_left h⟩

/-- The characters are none, or they start a segment. -/
def Starts (cs : List Char) : Prop := ∀ c ∈ cs.head?, c = '.' ∨ c = '['

theorem starts_tailChars {place : Place} (h : place.IsPlain) : Starts (tailChars place) := by
  cases place with
  | nil => exact fun c hc => nomatch hc
  | cons segment rest =>
    intro c hc
    cases h.head with
    | name => exact Or.inl (Option.some.inj hc).symm
    | index => exact Or.inr (Option.some.inj hc).symm

/-- A name is read up to where a segment starts. -/
theorem name_unique {a b : String} (ha : IsPlainName a) (hb : IsPlainName b) {r r' : List Char}
    (hr : Starts r) (hr' : Starts r') (h : a.toList ++ r = b.toList ++ r') : a = b ∧ r = r' := by
  have hname : ∀ {name : String}, IsPlainName name →
      ∀ c ∈ name.toList, (c != '.' && c != '[') = true := by
    intro name hname c hc
    rw [Bool.and_eq_true, bne_iff_ne, bne_iff_ne]
    exact ⟨fun he => hname.no_point (he ▸ hc), fun he => hname.no_bracket (he ▸ hc)⟩
  have hstop : ∀ {r : List Char}, Starts r → ∀ c ∈ r.head?, (c != '.' && c != '[') = false := by
    intro r hr c hc
    rcases hr c hc with rfl | rfl <;> rfl
  obtain ⟨hab, hrest⟩ := append_unique (hname ha) (hname hb) (hstop hr) (hstop hr') h
  exact ⟨String.toList_inj.mp hab, hrest⟩

/-- An index is read up to the bracket that closes it. -/
theorem index_unique {i j : Nat} {r r' : List Char} (h : indexChars i ++ r = indexChars j ++ r') :
    i = j ∧ r = r' := by
  have hdigits : ∀ i, ∀ c ∈ Nat.toDigits 10 i, (c != ']') = true := by
    intro i c hc
    have hdigit := Nat.isDigit_of_mem_toDigits (by decide) (by decide) hc
    rw [bne_iff_ne]
    rintro rfl
    exact absurd hdigit (by decide)
  have hstop : ∀ r : List Char, ∀ c ∈ (']' :: r).head?, (c != ']') = false := by
    intro r c hc
    rw [← Option.some.inj hc]
    rfl
  have hbody : Nat.toDigits 10 i ++ ']' :: r = Nat.toDigits 10 j ++ ']' :: r' := by
    simpa [indexChars] using h
  obtain ⟨hij, hrest⟩ := append_unique (hdigits i) (hdigits j) (hstop r) (hstop r') hbody
  refine ⟨?_, (List.cons.inj hrest).2⟩
  rw [← Nat.ofDigitChars_ten_toDigits (n := i), hij, Nat.ofDigitChars_ten_toDigits]

theorem segmentChars_ne_nil {segment : Value} (h : IsPlainSegment segment) :
    segmentChars segment ≠ [] := by
  cases h with
  | name => exact List.cons_ne_nil _ _
  | index => exact List.cons_ne_nil _ _

theorem tailChars_injective {p q : Place} (hp : p.IsPlain) (hq : q.IsPlain)
    (h : tailChars p = tailChars q) : p = q := by
  induction p generalizing q with
  | nil =>
    cases q with
    | nil => rfl
    | cons segment rest =>
      have hnil : segmentChars segment = [] := (List.append_eq_nil_iff.mp h.symm).1
      exact absurd hnil (segmentChars_ne_nil hq.head)
  | cons segment p ih =>
    have hsegment := hp.head
    have hrest := hp.tail
    cases q with
    | nil =>
      have hnil : segmentChars segment = [] := (List.append_eq_nil_iff.mp h).1
      exact absurd hnil (segmentChars_ne_nil hsegment)
    | cons other q =>
      have hother := hq.head
      have hrest' := hq.tail
      rw [tailChars_cons, tailChars_cons] at h
      cases hsegment with
      | name ha =>
        cases hother with
        | name hb =>
          obtain ⟨rfl, hsame⟩ := name_unique ha hb (starts_tailChars hrest)
            (starts_tailChars hrest') (List.cons.inj h).2
          rw [ih hrest hrest' hsame]
        | index => exact absurd (List.cons.inj h).1 (by decide)
      | @index i =>
        cases hother with
        | name hb => exact absurd (List.cons.inj h).1 (by decide)
        | @index j =>
          obtain ⟨rfl, hsame⟩ := index_unique (i := i) (j := j) h
          rw [ih hrest hrest' hsame]

/-- A path that starts with a name does not start with an index. -/
theorem name_ne_index {name : String} (hname : IsPlainName name) (r cs : List Char) :
    name.toList ++ r ≠ '[' :: cs := by
  intro h
  cases hchars : name.toList with
  | nil => exact hname.ne_empty (String.toList_inj.mp hchars)
  | cons c rest =>
    rw [hchars] at h
    have hc : c = '[' := (List.cons.inj h).1
    have hmem : c ∈ name.toList := by
      rw [hchars]
      exact List.mem_cons_self
    exact hname.no_bracket (hc ▸ hmem)

/-- **Different places have different paths**, if their names are plain. -/
theorem path_injective {p q : Place} (hp : p.IsPlain) (hq : q.IsPlain) (hp' : p ≠ []) (hq' : q ≠ [])
    (h : path p = path q) : p = q := by
  obtain ⟨first, p, rfl⟩ := List.exists_cons_of_ne_nil hp'
  obtain ⟨other, q, rfl⟩ := List.exists_cons_of_ne_nil hq'
  rw [path_of_plain hp, path_of_plain hq, Except.ok.injEq, String.ofList_inj] at h
  have hfirst := hp.head
  have hother := hq.head
  have hrest := hp.tail
  have hrest' := hq.tail
  cases hfirst with
  | name ha =>
    cases hother with
    | name hb =>
      obtain ⟨rfl, hsame⟩ := name_unique ha hb (starts_tailChars hrest) (starts_tailChars hrest') h
      rw [tailChars_injective hrest hrest' hsame]
    | index => exact absurd h (name_ne_index ha _ _)
  | @index i =>
    cases hother with
    | name hb => exact absurd h.symm (name_ne_index hb _ _)
    | @index j =>
      obtain ⟨rfl, hsame⟩ := index_unique (i := i) (j := j) h
      rw [tailChars_injective hrest hrest' hsame]

end FieldRules.Errors
