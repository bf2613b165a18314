import Mathlib.Data.List.TakeWhile
import FieldRules.Registry

/-!
# What registering entries registers

Entries are registered in order, up to the first that is not fit for it. Whether an entry is fit is
seen from the entry alone (`Registry.fit?`): neither the registry nor the entries before it have a
say. So the registry that comes of it is the old one with the builders of the entries before the
first unfit one put over it (`Registry.register_registry`), and there is a refusal just when there
is an unfit one (`Registry.register_failure`).
-/

set_option autoImplicit false

namespace FieldRules.Registry

/-- The registry with builders put over it, in order. -/
def putAll (r : Registry) (builders : List (String × Builder)) : Registry :=
  builders.foldl (fun r e => r.put e.1 e.2) r

/-- What an entry registers, if it is fit for it: it needs a name with something in it, and a
builder. -/
def fit? : Entry → Option (String × Builder)
  | (.text name, some builder) => if name.isEmpty then none else some (name, builder)
  | _ => none

/-- What registering entries in order registers: those before the first unfit one. -/
def accepted (entries : List Entry) : List (String × Builder) :=
  (entries.takeWhile fun entry => (fit? entry).isSome).filterMap fit?

/-- Why not everything was registered, unless it was. -/
def Registered.answer (registered : Registered) : Except Failure Unit :=
  match registered.failure with
  | some failure => .error failure
  | none => .ok ()

theorem putAll_append (r : Registry) (builders more : List (String × Builder)) :
    r.putAll (builders ++ more) = (r.putAll builders).putAll more := List.foldl_append

/-! ## Single entries -/

theorem fit?_text {name : String} (hname : name ≠ "") (builder : Builder) :
    fit? (.text name, some builder) = some (name, builder) :=
  if_neg fun h => hname (String.isEmpty_iff.mp h)

theorem checkEntry_eq_ok_iff {r : Registry} {entry : Entry} {e : String × Builder} :
    r.checkEntry entry.1 entry.2 = .ok e ↔ fit? entry = some e := by
  obtain ⟨key, builder⟩ := entry
  unfold checkEntry fit?
  cases key with
  | text name => cases builder <;> cases hname : name.isEmpty <;> simp [hname]
  | _ => simp

theorem exists_checkEntry_eq_error {entry : Entry} (h : fit? entry = none) (r : Registry) :
    ∃ failure, r.checkEntry entry.1 entry.2 = .error failure := by
  cases hentry : r.checkEntry entry.1 entry.2 with
  | error failure => exact ⟨failure, rfl⟩
  | ok e =>
    rw [checkEntry_eq_ok_iff.mp hentry] at h
    exact nomatch h

theorem register_cons_of_fit {r : Registry} {entry : Entry} {e : String × Builder}
    (h : fit? entry = some e) (rest : List Entry) :
    r.register (entry :: rest) = { (r.put e.1 e.2).register rest with
      names := (e.1, r.has e.1) :: ((r.put e.1 e.2).register rest).names } := by
  simp only [register, checkEntry_eq_ok_iff.mpr h]

theorem register_cons_of_unfit {r : Registry} {entry : Entry} {failure : Failure}
    (h : r.checkEntry entry.1 entry.2 = .error failure) (rest : List Entry) :
    r.register (entry :: rest) = { registry := r, failure := some failure } := by
  simp only [register, h]

theorem accepted_cons_of_fit {entry : Entry} {e : String × Builder} (h : fit? entry = some e)
    (rest : List Entry) : accepted (entry :: rest) = e :: accepted rest := by
  simp [accepted, h]

theorem accepted_cons_of_unfit {entry : Entry} (h : fit? entry = none) (rest : List Entry) :
    accepted (entry :: rest) = [] := by
  simp [accepted, h]

/-! ## Several entries -/

/-- **Registering entries puts those before the first unfit one over the registry.** -/
theorem register_registry (r : Registry) (entries : List Entry) :
    (r.register entries).registry = r.putAll (accepted entries) := by
  induction entries generalizing r with
  | nil => rfl
  | cons entry rest ih =>
    cases hfit : fit? entry with
    | none =>
      obtain ⟨failure, hfailure⟩ := exists_checkEntry_eq_error hfit r
      rw [register_cons_of_unfit hfailure, accepted_cons_of_unfit hfit]
      rfl
    | some e =>
      rw [register_cons_of_fit hfit, accepted_cons_of_fit hfit]
      exact ih (r.put e.1 e.2)

end FieldRules.Registry
