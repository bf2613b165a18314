import FieldRules.Session.Store

/-!
# Stores that hold the same

Most of what an operation does to the store is to report events, and some of it is to fill the
default registry. Neither can be found out by looking something up, so stores are compared by what
can be looked up in them, and what is put into two stores that are alike leaves them alike.
-/

set_option autoImplicit false

namespace FieldRules

namespace Store

/-- Nothing that can be looked up tells the stores apart. They may differ in their events, and in
whether the default registry has been asked for. -/
structure Alike (s t : Store) : Prop where
  environment : s.environment = t.environment
  autoTrim : s.autoTrim = t.autoTrim
  registryOf? (target : Target) : s.registryOf? target = t.registryOf? target
  validator? (id : String) : s.validator? id = t.validator? id

variable {s t u : Store}

theorem Alike.refl (s : Store) : s.Alike s := ⟨rfl, rfl, fun _ => rfl, fun _ => rfl⟩

theorem Alike.symm (h : s.Alike t) : t.Alike s :=
  ⟨h.environment.symm, h.autoTrim.symm, fun target => (h.registryOf? target).symm,
    fun id => (h.validator? id).symm⟩

theorem Alike.trans (h : s.Alike t) (h' : t.Alike u) : s.Alike u :=
  ⟨h.environment.trans h'.environment, h.autoTrim.trans h'.autoTrim,
    fun target => (h.registryOf? target).trans (h'.registryOf? target),
    fun id => (h.validator? id).trans (h'.validator? id)⟩

/-! ## Putting something into a store -/

theorem registryOf?_putValidator (s : Store) (id : String) (v : Validator) (target : Target) :
    (s.putValidator id v).registryOf? target =
      if target = .validator id then some v.registry else s.registryOf? target := by
  cases target with
  | default => rfl
  | registry other => rfl
  | validator other =>
    show ((s.putValidator id v).validator? other).map (·.registry) = _
    rw [validator?_putValidator]
    by_cases h : other = id
    · rw [if_pos h, if_pos (congrArg Target.validator h)]
      rfl
    · rw [if_neg h, if_neg fun he => h (Target.validator.inj he)]
      rfl

theorem putRegistry_validator {id : String} {v : Validator} (h : s.validator? id = some v)
    (r : Registry) :
    s.putRegistry (.validator id) r = s.putValidator id { v with registry := r } := by
  unfold putRegistry
  simp only [h]

theorem registryOf?_putRegistry_registry (s : Store) (id : String) (r : Registry)
    (target : Target) :
    (s.putRegistry (.registry id) r).registryOf? target =
      if target = .registry id then some r else s.registryOf? target := by
  cases target with
  | registry other =>
    show (putNamed id r s.registries).lookup other = _
    rw [lookup_putNamed]
    by_cases h : other = id
    · rw [if_pos h, if_pos (congrArg Target.registry h)]
    · rw [if_neg h, if_neg fun he => h (Target.registry.inj he)]
      rfl
  | _ => rfl

/-- A registry that exists can be replaced, and nothing else changes. -/
theorem registryOf?_putRegistry {target : Target} {old : Registry}
    (h : s.registryOf? target = some old) (r : Registry) (other : Target) :
    (s.putRegistry target r).registryOf? other =
      if other = target then some r else s.registryOf? other := by
  cases target with
  | default => cases other <;> rfl
  | registry id => exact registryOf?_putRegistry_registry s id r other
  | validator id =>
    obtain ⟨v, hv, -⟩ := Option.map_eq_some_iff.mp h
    rw [putRegistry_validator hv, registryOf?_putValidator]

/-- A registration in the registry of a validator leaves everything else about it as it was. -/
theorem validator?_putRegistry (s : Store) (target : Target) (r : Registry) (id : String) :
    (s.putRegistry target r).validator? id =
      if target = .validator id then (s.validator? id).map fun v => { v with registry := r }
      else s.validator? id := by
  cases target with
  | default => rfl
  | registry other => rfl
  | validator other =>
    cases hv : s.validator? other with
    | none =>
      have hput : s.putRegistry (.validator other) r = s := by
        unfold putRegistry
        simp only [hv]
      rw [hput]
      by_cases h : other = id
      · rw [if_pos (congrArg Target.validator h), ← h, hv]
        rfl
      · rw [if_neg fun he => h (Target.validator.inj he)]
    | some v =>
      rw [putRegistry_validator hv, validator?_putValidator]
      by_cases h : other = id
      · rw [if_pos h.symm, if_pos (congrArg Target.validator h), ← h, hv]
        rfl
      · rw [if_neg (Ne.symm h), if_neg fun he => h (Target.validator.inj he)]

theorem environment_putRegistry (s : Store) (target : Target) (r : Registry) :
    (s.putRegistry target r).environment = s.environment := by
  unfold putRegistry
  split
  · rfl
  · rfl
  · split <;> rfl

theorem autoTrim_putRegistry (s : Store) (target : Target) (r : Registry) :
    (s.putRegistry target r).autoTrim = s.autoTrim := by
  unfold putRegistry
  split
  · rfl
  · rfl
  · split <;> rfl

/-! ## Stores that stay alike -/

/-- Events are not looked up. -/
theorem reported_alike (s : Store) (events : List Event) : ({ s with events } : Store).Alike s := by
  refine ⟨rfl, rfl, fun target => ?_, fun _ => rfl⟩
  cases target <;> rfl

theorem Alike.defaultContents (h : s.Alike t) : s.defaultContents = t.defaultContents :=
  Option.some.inj (h.registryOf? .default)

/-- The default registry can be looked up before it is there. -/
theorem filled_alike {r : Registry} (h : s.defaultContents = r) :
    ({ s with defaultRegistry := some r } : Store).Alike s := by
  refine ⟨rfl, rfl, fun target => ?_, fun _ => rfl⟩
  cases target with
  | default => exact congrArg some h.symm
  | _ => rfl

theorem Alike.putValidator (h : s.Alike t) (id : String) (v : Validator) :
    (s.putValidator id v).Alike (t.putValidator id v) := by
  refine ⟨h.environment, h.autoTrim, fun target => ?_, fun other => ?_⟩
  · rw [registryOf?_putValidator, registryOf?_putValidator, h.registryOf?]
  · rw [validator?_putValidator, validator?_putValidator, h.validator?]

/-- Of two validators under one name the later one counts. -/
theorem putValidator_putValidator (s : Store) (id : String) (v w : Validator) :
    ((s.putValidator id v).putValidator id w).Alike (s.putValidator id w) := by
  refine ⟨rfl, rfl, fun target => ?_, fun other => ?_⟩
  · simp only [registryOf?_putValidator]
    split <;> rfl
  · simp only [validator?_putValidator]
    split <;> rfl

theorem putValidator_self {id : String} {v : Validator} (h : s.validator? id = some v) :
    (s.putValidator id v).Alike s := by
  refine ⟨rfl, rfl, fun target => ?_, fun other => ?_⟩
  · rw [registryOf?_putValidator]
    split
    case isTrue htarget =>
      rw [htarget]
      show some v.registry = (s.validator? id).map (·.registry)
      rw [h]
      rfl
    case isFalse => rfl
  · rw [validator?_putValidator]
    split
    case isTrue hother => rw [hother, h]
    case isFalse => rfl

theorem Alike.putRegistry (h : s.Alike t) {target : Target} {old : Registry}
    (hold : t.registryOf? target = some old) (r : Registry) :
    (s.putRegistry target r).Alike (t.putRegistry target r) := by
  refine ⟨?_, ?_, fun other => ?_, fun id => ?_⟩
  · rw [environment_putRegistry, environment_putRegistry, h.environment]
  · rw [autoTrim_putRegistry, autoTrim_putRegistry, h.autoTrim]
  · rw [registryOf?_putRegistry ((h.registryOf? target).trans hold), registryOf?_putRegistry hold,
      h.registryOf?]
  · rw [validator?_putRegistry, validator?_putRegistry, h.validator?]

theorem Alike.putRegistry_registry (h : s.Alike t) (id : String) (r : Registry) :
    (s.putRegistry (.registry id) r).Alike (t.putRegistry (.registry id) r) := by
  refine ⟨h.environment, h.autoTrim, fun other => ?_, fun id => ?_⟩
  · rw [registryOf?_putRegistry_registry, registryOf?_putRegistry_registry, h.registryOf?]
  · rw [validator?_putRegistry, validator?_putRegistry, h.validator?]

end Store

end FieldRules
