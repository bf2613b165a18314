import FieldRules.Session

/-!
# What validating comes to

An operation on a session that succeeds has gone through all of its parts, each from the store that
the one before it left (`Session.bind_eq_ok`). For the validation of an input this says where its
result is from: a compiled schema has made it, which the validator had already or which was compiled
against the registry of the validator (`Session.validate_eq_ok`).
-/

set_option autoImplicit false

namespace FieldRules

/-- The schema of a validator is compiled against a registry: it has been, or it will be as soon as
it is needed. -/
def Validator.CompilesAgainst (v : Validator) (r : Registry) : Prop :=
  match v.compiled with
  | none => v.registry = r
  | some compiled =>
    ∃ limit, compileSchema { registry := r, limit } v.schema (some v.autoTrim) = .ok compiled

namespace Session

variable {α β : Type} {s s' : Store}

/-- A sequence succeeds just when both parts do, the second in the store that the first one left. -/
theorem bind_eq_ok {m : Session α} {f : α → Session β} {b : β} :
    (m >>= f) s = (.ok b, s') ↔ ∃ a t, m s = (.ok a, t) ∧ f a t = (.ok b, s') := by
  have hrun : (m >>= f) s = ExceptT.bindCont f (m s).1 (m s).2 := rfl
  rw [hrun]
  rcases m s with ⟨result, t⟩
  cases result with
  | error failure => exact ⟨fun h => (nomatch h), fun ⟨_, _, h, _⟩ => (nomatch h)⟩
  | ok a =>
    constructor
    · exact fun h => ⟨a, t, rfl, h⟩
    · rintro ⟨_, _, ⟨⟩, h⟩
      exact h

theorem ofExcept_eq_ok {x : Except Failure α} {a : α} :
    ofExcept x s = (.ok a, s') ↔ x = .ok a ∧ s' = s := by
  cases x with
  | error failure => exact ⟨fun h => (nomatch h), fun h => (nomatch h.1)⟩
  | ok b =>
    constructor
    · rintro ⟨⟩
      exact ⟨rfl, rfl⟩
    · rintro ⟨⟨⟩, rfl⟩
      rfl

theorem ofFallible_eq_ok {x : Except Fault α} {a : α} :
    ofFallible x s = (.ok a, s') ↔ x = .ok a ∧ s' = s := by
  cases x with
  | error fault => exact ⟨fun h => (nomatch h), fun h => (nomatch h.1)⟩
  | ok b =>
    constructor
    · rintro ⟨⟩
      exact ⟨rfl, rfl⟩
    · rintro ⟨⟨⟩, rfl⟩
      rfl

/-- A schema that is compiled in a session is compiled against the registry, with the limit of the
settings. -/
theorem compileSchema_of_eq_ok {r : Registry} {schema : Value} {autoTrim : Option Bool}
    {compiled : CompiledSchema} (h : compileSchema r schema autoTrim s = (.ok compiled, s')) :
    ∃ limit, FieldRules.compileSchema { registry := r, limit } schema autoTrim = .ok compiled := by
  cases schema with
  | map entries =>
    obtain ⟨settings, t, -, h⟩ := bind_eq_ok.mp h
    obtain ⟨made, t', hmade, h⟩ := bind_eq_ok.mp h
    obtain ⟨⟨⟩, t'', -, h⟩ := bind_eq_ok.mp h
    cases h
    exact ⟨settings.maxDepth, (ofExcept_eq_ok.mp hmade).1⟩
  | _ => exact nomatch h

/-- **The result of a validation is made by the compiled schema of the validator.** -/
theorem validate_eq_ok {id : String} {v : Validator} (hv : s.validator? id = some v)
    {r : Registry} (hr : v.CompilesAgainst r) {data : Value} {result : Result}
    (h : validate id data s = (.ok (some result), s')) :
    ∃ compiled limit, FieldRules.compileSchema { registry := r, limit } v.schema
        (some v.autoTrim) = .ok compiled ∧
      Validator.resultOf compiled data = .ok result := by
  unfold validate at h
  obtain ⟨store, t, hstore, h⟩ := bind_eq_ok.mp h
  cases hstore
  rw [hv] at h
  obtain ⟨compiled, t', hcompiled, h⟩ := bind_eq_ok.mp h
  obtain ⟨made, t'', hmade, h⟩ := bind_eq_ok.mp h
  obtain ⟨⟨⟩, _, -, h⟩ := bind_eq_ok.mp h
  obtain ⟨event, _, -, h⟩ := bind_eq_ok.mp h
  have hanswer : made = result := by
    cases event with
    | none =>
      cases h
      rfl
    | some event =>
      obtain ⟨⟨⟩, _, -, h⟩ := bind_eq_ok.mp h
      cases h
      rfl
  have hresult : Validator.resultOf compiled data = .ok result := by
    rw [(ofFallible_eq_ok.mp hmade).1, hanswer]
  unfold Validator.CompilesAgainst at hr
  unfold prepared at hcompiled
  cases hc : v.compiled with
  | some found =>
    rw [hc] at hr hcompiled
    cases hcompiled
    obtain ⟨limit, hlimit⟩ := hr
    exact ⟨compiled, limit, hlimit, hresult⟩
  | none =>
    rw [hc] at hr hcompiled
    obtain ⟨found, _, hfound, hcompiled⟩ := bind_eq_ok.mp hcompiled
    obtain ⟨⟨⟩, _, -, hcompiled⟩ := bind_eq_ok.mp hcompiled
    cases hcompiled
    obtain ⟨limit, hlimit⟩ := compileSchema_of_eq_ok hfound
    rw [show v.registry = r from hr] at hlimit
    exact ⟨compiled, limit, hlimit, hresult⟩

end Session

end FieldRules
