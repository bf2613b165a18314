import FieldRules.Proofs.Catalogue
import FieldRules.Session

/-!
# How operations on a session fail

An operation may fail, but hardly any of its parts can. Finding a registry, reporting an event and
changing the store never do, so what an operation fails with is what it takes over from outside of
the session. For the registration of an alias that is the parsing of its definition
(`Session.registerAlias_fails`): a definition that was parsed has a name under which it can be
registered.
-/

set_option autoImplicit false

namespace FieldRules

/-- A definition that was parsed is valid. -/
theorem AliasDefinition.valid_of_parse {v : Value} {definition : AliasDefinition}
    (h : parse v = .ok definition) : definition.Valid := by
  unfold parse at h
  split at h
  case h_1 read hread =>
    unfold check at h
    split at h
    · rw [← Except.ok.inj h]
      exact valid_of_ofValue hread
    · exact nomatch h
  case h_2 => exact nomatch h

namespace Session

variable {α β : Type} {own : Failure → Prop}

/-- An operation fails only in some ways, whatever the store is. -/
def FailsOnly (own : Failure → Prop) (m : Session α) : Prop :=
  ∀ s failure, (m s).1 = .error failure → own failure

theorem failsOnly_pure (a : α) : FailsOnly own (pure a : Session α) := fun _ _ h => nomatch h

theorem failsOnly_modify (f : Store → Store) : FailsOnly own (modify f : Session Unit) :=
  fun _ _ h => nomatch h

theorem FailsOnly.bind {m : Session α} {f : α → Session β} (hm : FailsOnly own m)
    (hf : ∀ a, FailsOnly own (f a)) : FailsOnly own (m >>= f) := by
  intro s failure h
  have hrun : (m >>= f) s = ExceptT.bindCont f (m s).1 (m s).2 := rfl
  rw [hrun] at h
  cases hfirst : (m s).1 with
  | ok a =>
    rw [hfirst] at h
    exact hf a _ _ h
  | error failure' =>
    rw [hfirst] at h
    exact hm s failure (by rw [hfirst, Except.error.inj h])

theorem failsOnly_bind_ofExcept {x : Except Failure α} {f : α → Session β}
    (herror : ∀ failure, x = .error failure → own failure)
    (hok : ∀ a, x = .ok a → FailsOnly own (f a)) : FailsOnly own (ofExcept x >>= f) := by
  cases x with
  | ok a => exact hok a rfl
  | error failure =>
    intro s other h
    rw [← Except.error.inj h]
    exact herror failure rfl

theorem failsOnly_get : FailsOnly own (get : Session Store) := fun _ _ h => nomatch h

theorem failsOnly_emit (event : Event) : FailsOnly own (emit event) := failsOnly_modify _

theorem failsOnly_forM {xs : List α} {f : α → Session Unit} (h : ∀ x, FailsOnly own (f x)) :
    FailsOnly own (xs.forM f) := by
  induction xs with
  | nil => exact failsOnly_pure ()
  | cons x rest ih => exact (h x).bind fun _ => ih

theorem failsOnly_defaultRegistry : FailsOnly own defaultRegistry := by
  refine failsOnly_get.bind fun s => ?_
  split
  · exact failsOnly_pure _
  · exact (failsOnly_forM fun _ => failsOnly_emit _).bind fun _ => (failsOnly_emit _).bind fun _ =>
      (failsOnly_modify _).bind fun _ => failsOnly_pure _

theorem failsOnly_registryOf? (target : Target) : FailsOnly own (registryOf? target) := by
  cases target with
  | default => exact failsOnly_defaultRegistry.bind fun _ => failsOnly_pure _
  | _ => exact failsOnly_get.bind fun _ => failsOnly_pure _

theorem failsOnly_warnIfPrepared (target : Target) (operation : String) :
    FailsOnly own (warnIfPrepared target operation) := by
  cases target with
  | validator id =>
    refine failsOnly_get.bind fun s => ?_
    split
    · exact failsOnly_emit _
    · exact failsOnly_pure ()
  | _ => exact failsOnly_pure ()

/-- A builder under a name with something in it is always registered. -/
theorem failsOnly_registerIn (target : Target) (r : Registry) {name : String} (hname : name ≠ "")
    (builder : Builder) : FailsOnly own (registerIn target r [(.text name, some builder)]) := by
  have hentry : r.checkEntry (.text name) (some builder) = .ok (name, builder) := by
    have hempty : ¬ name.isEmpty = true := fun h => hname (String.isEmpty_iff.mp h)
    unfold Registry.checkEntry
    simp only [if_neg hempty]
  have hregister : (r.register [(.text name, some builder)]).failure = none := by
    simp only [Registry.register, hentry]
  refine (failsOnly_modify _).bind fun _ => ?_
  refine (failsOnly_forM fun _ => failsOnly_emit _).bind fun _ => ?_
  rw [hregister]
  exact failsOnly_pure ()

/-- **Registering an alias fails as the parsing of its definition does**, and in no other way. -/
theorem registerAlias_fails (target : Target) (definition : Value) :
    FailsOnly (fun failure => AliasDefinition.parse definition = .error failure)
      (registerAlias target definition) := by
  refine (failsOnly_registryOf? target).bind fun r => ?_
  cases r with
  | none => exact failsOnly_pure _
  | some r =>
    refine (failsOnly_warnIfPrepared _ _).bind fun _ => ?_
    refine failsOnly_bind_ofExcept (fun failure h => h) fun parsed hparsed => ?_
    have hname := (AliasDefinition.valid_of_parse hparsed).name
    exact (failsOnly_registerIn target r hname _).bind fun _ =>
      (failsOnly_emit _).bind fun _ => failsOnly_pure _

end Session

end FieldRules
