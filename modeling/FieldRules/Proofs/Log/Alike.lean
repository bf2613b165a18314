import FieldRules.Log
import FieldRules.Proofs.Except

/-!
# Records that differ in inputs only

Records are alike if they have the same names in the same order, and the same value under each name
under which input is never passed. Nothing that is done to a record before it is blanked out tells
such records apart: it looks up names of its own only, and what it puts into a record or takes out
of it depends on the names that the record has. So alike records stay alike on their way, and are
one record as soon as they are blanked out (`Record.Alike.finished_eq`).

The same holds of the calls that entries are made by. What is wrong with a call is wrong with the
names that values are passed by, and not with the values (`Parameters.bind_alike`).
-/

set_option autoImplicit false

namespace FieldRules.Log

/-! ## Records -/

namespace Record

/-- The records have the same names, and differ in the values of inputs only. -/
inductive Alike : Record → Record → Prop
  | nil : Alike [] []
  | cons {name : String} {v w : Value} {r s : Record} (hv : name ∉ inputNames → v = w)
      (h : Alike r s) : Alike ((name, v) :: r) ((name, w) :: s)

variable {r s other other' : Record} {name : String} {v w : Value}

theorem Alike.refl (r : Record) : r.Alike r := by
  induction r with
  | nil => exact .nil
  | cons e r ih => exact .cons (fun _ => rfl) ih

theorem Alike.ite {c : Prop} [Decidable c] (h : r.Alike s) (hother : other.Alike other') :
    Record.Alike (if c then r else other) (if c then s else other') := by
  split
  · exact h
  · exact hother

theorem Alike.length_eq (h : r.Alike s) : r.length = s.length := by
  induction h with
  | nil => rfl
  | cons _ _ ih => exact congrArg (· + 1) ih

/-! ### What is looked up -/

theorem Alike.isSome_lookup (h : r.Alike s) (name : String) :
    (r.lookup name).isSome = (s.lookup name).isSome := by
  induction h with
  | nil => rfl
  | @cons other v w r s _ _ ih =>
    rw [List.lookup_cons, List.lookup_cons]
    cases name == other with
    | true => rfl
    | false => exact ih

/-- What is under a name under which input is never passed is the same. -/
theorem Alike.lookup_eq (h : r.Alike s) (hname : name ∉ inputNames) :
    r.lookup name = s.lookup name := by
  induction h with
  | nil => rfl
  | @cons other v w r s hv _ ih =>
    rw [List.lookup_cons, List.lookup_cons, ih]
    by_cases hother : name = other
    · subst hother
      rw [hv hname]
    · have hne : (name == other) = false := by simpa using hother
      rw [hne]

/-! ### What is done on the way -/

theorem Alike.append (h : r.Alike s) (hother : other.Alike other') :
    Record.Alike (r ++ other) (s ++ other') := by
  induction h with
  | nil => exact hother
  | cons hv _ ih => exact .cons hv ih

theorem Alike.put (h : r.Alike s) (hv : name ∉ inputNames → v = w) :
    (r.put name v).Alike (s.put name w) := by
  unfold Record.put
  induction h with
  | nil => exact .cons hv .nil
  | cons hold hrest ih =>
    unfold putNamed
    split
    · exact .cons hv hrest
    · exact .cons hold ih

theorem Alike.putDefault (h : r.Alike s) (hv : name ∉ inputNames → v = w) :
    (r.putDefault name v).Alike (s.putDefault name w) := by
  unfold Record.putDefault
  rw [h.isSome_lookup name]
  split
  · exact h
  · exact h.append (.cons hv .nil)

theorem Alike.overlay (h : r.Alike s) (hother : other.Alike other') :
    (r.overlay other).Alike (s.overlay other') := by
  induction hother generalizing r s with
  | nil => exact h
  | cons hv _ ih => exact ih (h.put hv)

theorem Alike.underlay (h : r.Alike s) (hother : other.Alike other') :
    (r.underlay other).Alike (s.underlay other') := by
  induction hother generalizing r s with
  | nil => exact h
  | cons hv _ ih => exact ih (h.putDefault hv)

/-- What is kept for its name is kept of both. -/
theorem Alike.filter (h : r.Alike s) (kept : String → Bool) :
    Record.Alike (r.filter fun e => kept e.1) (s.filter fun e => kept e.1) := by
  induction h with
  | nil => exact .nil
  | @cons name v w r s hv _ ih =>
    rw [List.filter_cons, List.filter_cons]
    split
    · exact .cons hv ih
    · exact ih

theorem Alike.without (h : r.Alike s) (names : List String) :
    (r.without names).Alike (s.without names) :=
  h.filter fun name => !names.contains name

theorem Alike.decoded (h : r.Alike s) : r.decoded.Alike s.decoded := by
  induction h with
  | nil => exact .nil
  | cons hv _ ih =>
    refine .cons (fun hname => ?_) ih
    rw [hv hname]

/-- The places of a message are filled before inputs are blanked out, but not from them. -/
theorem Alike.filled (h : r.Alike s) : Except.Alike Record.Alike r.filled s.filled := by
  unfold Record.filled
  rw [h.lookup_eq (show "positional_args" ∉ inputNames by decide),
    h.lookup_eq (show "event" ∉ inputNames by decide)]
  split
  · exact .ok h
  · exact .ok h
  · split
    · refine .bind_same _ fun args => ?_
      split
      · refine .bind_same _ fun message => ?_
        exact .ok ((h.put fun _ => rfl).without _)
      · exact .error _
    · exact .ok (h.without _)

/-! ### The end of the way -/

/-- **Alike records are the same once their inputs are blanked out.** -/
theorem Alike.redact_eq (h : r.Alike s) : r.redact = s.redact := by
  induction h with
  | nil => rfl
  | @cons name v w r s hv _ ih =>
    refine congrArg₂ List.cons (congrArg (Prod.mk name) ?_) ih
    by_cases hname : name ∈ inputNames
    · simp [hname]
    · rw [hv hname]

theorem Alike.finished_eq (h : r.Alike s) : r.finished = s.finished :=
  ((h.without _).decoded.putDefault fun _ => rfl).redact_eq

/-- What is made of a record once it is finished is the same of alike records. -/
theorem Alike.written_eq {α : Type} (h : r.Alike s) (level logger : String)
    (f : Record → Except Fault α) :
    ((r.identified level logger).filled >>= fun r => f r.finished) =
      ((s.identified level logger).filled >>= fun s => f s.finished) := by
  have hidentified : (r.identified level logger).Alike (s.identified level logger) :=
    (h.put fun _ => rfl).put fun _ => rfl
  refine hidentified.filled.bind_eq fun r s hrs => ?_
  rw [hrs.finished_eq]

end Record

/-! ## Details -/

/-- The details have the same keys, and differ in the values of inputs only. -/
inductive DetailsAlike : Entries → Entries → Prop
  | nil : DetailsAlike [] []
  | cons {key v w : Value} {entries others : Entries}
      (hv : (∀ name ∈ Record.inputNames, key ≠ .text name) → v = w)
      (h : DetailsAlike entries others) :
      DetailsAlike ((key, v) :: entries) ((key, w) :: others)

/-- Details are records for the same reasons. -/
theorem DetailsAlike.ofEntries {entries others : Entries} (h : DetailsAlike entries others) :
    Except.Alike Record.Alike (Record.ofEntries entries) (Record.ofEntries others) := by
  induction h with
  | nil => exact .ok .nil
  | @cons key v w entries others hv _ ih =>
    cases key with
    | text name =>
      refine ih.map fun r s hrs => .cons (fun hname => hv ?_) hrs
      intro other hother hkey
      rw [Value.text.inj hkey] at hname
      exact hname hother
    | _ => exact .error _

end FieldRules.Log

/-! ## Calls -/

namespace FieldRules

open Log

/-- The calls have bound alike values. -/
structure Bound.Alike (b c : Bound Value) : Prop where
  values : Record.Alike b.values c.values
  others : Record.Alike b.others c.others

theorem Bound.Alike.get?_eq {b c : Bound Value} (h : b.Alike c) {name : String}
    (hname : name ∉ Record.inputNames) : b.get? name = c.get? name :=
  h.values.lookup_eq hname

namespace Parameters

theorem bindNames_alike (p : Parameters) {b c : Bound Value} (hbound : b.Alike c)
    {named others : Record} (h : named.Alike others) :
    Except.Alike Bound.Alike (p.bindNames b named) (p.bindNames c others) := by
  induction h generalizing b c with
  | nil => exact .ok hbound
  | @cons name v w named others hv _ ih =>
    have hisSome : (b.get? name).isSome = (c.get? name).isSome := hbound.values.isSome_lookup name
    unfold bindNames
    rw [hisSome]
    split
    · split
      · exact .error _
      · exact ih ⟨hbound.values.append (.cons hv .nil), hbound.others⟩
    · split
      · exact ih ⟨hbound.values, hbound.others.append (.cons hv .nil)⟩
      · exact .error _

/-- **Whether a call fits depends on no value.** -/
theorem bind_alike (p : Parameters) (positional : List Value) {named others : Record}
    (h : named.Alike others) :
    Except.Alike Bound.Alike (p.bind positional named) (p.bind positional others) := by
  unfold bind
  refine (p.bindNames_alike ⟨.refl _, .nil⟩ h).bind fun b c hbc => ?_
  have hbyName := (hbc.values.filter fun name => p.onlyByName.contains name).length_eq
  have hmissing : (fun name => (b.get? name).isNone) = fun name => (c.get? name).isNone := by
    funext name
    have hisSome : (b.get? name).isSome = (c.get? name).isSome := hbc.values.isSome_lookup name
    rw [← Option.not_isSome, ← Option.not_isSome, hisSome]
  rw [hbyName, hmissing]
  split
  · exact .error _
  · split
    · exact .ok hbc
    · exact .error _

end Parameters

end FieldRules
