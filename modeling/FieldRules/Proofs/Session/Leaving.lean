import FieldRules.Proofs.Session.Alike
import FieldRules.Proofs.Session.Failing
import FieldRules.Proofs.Session.Registering

/-!
# What operations leave in the store

Each operation has one lemma that says what it answers and what it leaves, up to what cannot be
looked up. The two are given together because they belong together: an operation that fails has done
something by then, or it has not, and which of the two it is depends on why it fails.
-/

set_option autoImplicit false

namespace FieldRules

/-! ## What the settings decide -/

namespace Store

/-- Whether auto-trim is on for what asks for it, or leaves it to the default: the one that was set,
else the one of the settings. -/
def autoTrimFor (s : Store) : Option Bool → Except Failure Bool
  | some enabled => .ok enabled
  | none => match s.autoTrim with
    | some enabled => .ok enabled
    | none => ((Settings.ofEnvironment s.environment).mapError .invalid).map (·.autoTrim)

/-- What a schema compiles to against a registry under the settings. A schema that is no mapping is
refused whatever these are. -/
def compile (s : Store) (r : Registry) (schema : Value) (autoTrim : Option Bool) :
    Except Failure CompiledSchema :=
  match schema with
  | .map _ => do
    let settings ← (Settings.ofEnvironment s.environment).mapError Failure.invalid
    compileSchema { registry := r, limit := settings.maxDepth } schema autoTrim
  | _ => .error (Compiler.notAMapping schema)

/-- What a validator that is needed now has been compiled to, or is compiled to. -/
def compiledOf (s : Store) (v : Validator) : Except Failure CompiledSchema :=
  match v.compiled with
  | some compiled => .ok compiled
  | none => s.compile v.registry v.schema (some v.autoTrim)

end Store

/-! ## Running operations -/

namespace Session

variable {α β : Type} {s t u : Store}

/-- An operation that is run in a store gives the answer, and leaves what the other store holds. -/
def Leaves (m : Session α) (s : Store) (answer : Except Failure α) (t : Store) : Prop :=
  (m s).1 = answer ∧ (m s).2.Alike t

theorem leaves_pure (a : α) : Leaves (pure a) s (.ok a) s := ⟨rfl, .refl s⟩

theorem leaves_ofExcept (x : Except Failure α) : Leaves (ofExcept x) s x s := by
  cases x <;> exact ⟨rfl, .refl s⟩

theorem leaves_ofFallible (x : Except Fault α) :
    Leaves (ofFallible x) s (x.mapError .fault) s := leaves_ofExcept _

/-- An operation may depend on the store that it finds. -/
theorem leaves_get_bind {f : Store → Session α} {answer : Except Failure α}
    (h : Leaves (f s) s answer t) : Leaves (get >>= f) s answer t := h

theorem leaves_modify (f : Store → Store) : Leaves (modify f : Session Unit) s (.ok ()) (f s) :=
  ⟨rfl, .refl _⟩

theorem leaves_emit (event : Event) : Leaves (emit event) s (.ok ()) s :=
  ⟨rfl, s.reported_alike _⟩

theorem Leaves.alike {m : Session α} {answer : Except Failure α} (h : Leaves m s answer t)
    (ht : t.Alike u) : Leaves m s answer u := ⟨h.1, h.2.trans ht⟩

/-- The second half of a sequence runs in a store that is like the one the first half leaves. -/
theorem Leaves.bind {m : Session α} {f : α → Session β} {a : α} {answer : Except Failure β}
    (hm : Leaves m s (.ok a) t) (hf : ∀ w, w.Alike t → Leaves (f a) w answer u) :
    Leaves (m >>= f) s answer u := by
  have hrun : (m >>= f) s = ExceptT.bindCont f (m s).1 (m s).2 := rfl
  rw [Leaves, hrun, hm.1]
  exact hf _ hm.2

theorem Leaves.bind_error {m : Session α} {f : α → Session β} {failure : Failure}
    (hm : Leaves m s (.error failure) t) : Leaves (m >>= f) s (.error failure) t := by
  have hrun : (m >>= f) s = ExceptT.bindCont f (m s).1 (m s).2 := rfl
  rw [Leaves, hrun, hm.1]
  exact ⟨rfl, hm.2⟩

/-- If neither half of a sequence leaves anything, the sequence answers what the two answer. -/
theorem Leaves.bind_same {m : Session α} {x : Except Failure α} {f : α → Session β}
    {g : α → Except Failure β} (hm : Leaves m s x s)
    (hf : ∀ a w, w.Alike s → Leaves (f a) w (g a) s) : Leaves (m >>= f) s (x >>= g) s := by
  cases x with
  | ok a => exact hm.bind (hf a)
  | error failure => exact hm.bind_error

/-- A function of the answer changes nothing else. -/
theorem run_map (f : α → β) (m : Session α) (s : Store) :
    (f <$> m).run s = ((m.run s).1.map f, (m.run s).2) := by
  rw [ExceptT.run_map]
  rfl

theorem Leaves.map {m : Session α} {answer : Except Failure α} (h : Leaves m s answer t)
    (f : α → β) : Leaves (f <$> m) s (answer.map f) t := by
  have hrun : (f <$> m) s = ((m s).1.map f, (m s).2) := run_map f m s
  rw [Leaves, hrun, h.1]
  exact ⟨rfl, h.2⟩

/-! ### What operations are made of -/

theorem leaves_forM_emit (xs : List α) (event : α → Event) :
    Leaves (xs.forM fun x => emit (event x)) s (.ok ()) s := by
  induction xs generalizing s with
  | nil => exact leaves_pure ()
  | cons x rest ih => exact (leaves_emit _).bind fun w hw => ih.alike hw

theorem leaves_settings :
    Leaves settings s ((Settings.ofEnvironment s.environment).mapError .invalid) s :=
  leaves_get_bind (leaves_ofExcept _)

theorem leaves_defaultRegistry : Leaves defaultRegistry s (.ok s.defaultContents) s := by
  refine leaves_get_bind ?_
  cases hs : s.defaultRegistry with
  | some r =>
    rw [show s.defaultContents = r by rw [Store.defaultContents, hs]; rfl]
    exact leaves_pure r
  | none =>
    have hcontents : s.defaultContents = .ofBuiltins := by rw [Store.defaultContents, hs]; rfl
    rw [hcontents]
    refine (leaves_forM_emit _ _).bind fun t ht => ?_
    refine (leaves_emit _).bind fun u hu => ?_
    have hu := hu.trans ht
    refine (leaves_modify _).bind fun w hw => ?_
    exact (leaves_pure _).alike
      ((hw.trans (Store.filled_alike (hu.defaultContents.trans hcontents))).trans hu)

theorem leaves_registryOf? (target : Target) :
    Leaves (registryOf? target) s (.ok (s.registryOf? target)) s := by
  cases target with
  | default => exact leaves_defaultRegistry.map some
  | _ => exact leaves_get_bind (leaves_pure _)

theorem leaves_warnIfPrepared (target : Target) (operation : String) :
    Leaves (warnIfPrepared target operation) s (.ok ()) s := by
  cases target with
  | validator id =>
    refine leaves_get_bind ?_
    split
    · exact leaves_emit _
    · exact leaves_pure ()
  | _ => exact leaves_pure ()

/-! ### Registering -/

/-- What has been registered by the time of a refusal stays registered. -/
theorem leaves_registerIn (target : Target) (r : Registry) (entries : List Registry.Entry) :
    Leaves (registerIn target r entries) s (r.register entries).answer
      (s.putRegistry target (r.register entries).registry) := by
  refine (leaves_modify _).bind fun t ht => ?_
  refine (leaves_forM_emit _ _).bind fun u hu => ?_
  unfold Registry.Registered.answer
  cases (r.register entries).failure with
  | some failure => exact ⟨rfl, hu.trans ht⟩
  | none => exact ⟨rfl, hu.trans ht⟩

theorem leaves_register_none {target : Target} (h : s.registryOf? target = none)
    (entries : List Registry.Entry) : Leaves (register target entries) s (.ok none) s := by
  refine (leaves_registryOf? target).bind fun t ht => ?_
  rw [h]
  exact (leaves_pure _).alike ht

theorem leaves_register {target : Target} {r : Registry} (h : s.registryOf? target = some r)
    (entries : List Registry.Entry) :
    Leaves (register target entries) s ((r.register entries).answer.map some)
      (s.putRegistry target (r.register entries).registry) := by
  refine (leaves_registryOf? target).bind fun t ht => ?_
  rw [h]
  refine (leaves_warnIfPrepared target _).bind fun u hu => ?_
  have hput := (hu.trans ht).putRegistry h (r.register entries).registry
  exact ((leaves_registerIn target r entries).alike hput).map some

theorem leaves_registerAlias_none {target : Target} (h : s.registryOf? target = none)
    (definition : Value) : Leaves (registerAlias target definition) s (.ok none) s := by
  refine (leaves_registryOf? target).bind fun t ht => ?_
  rw [h]
  exact (leaves_pure _).alike ht

/-- A definition that cannot be parsed is refused before anything is done. -/
theorem leaves_registerAlias_error {target : Target} {r : Registry}
    (h : s.registryOf? target = some r) {definition : Value} {failure : Failure}
    (hparse : AliasDefinition.parse definition = .error failure) :
    Leaves (registerAlias target definition) s (.error failure) s := by
  refine (leaves_registryOf? target).bind fun t ht => ?_
  rw [h]
  refine (leaves_warnIfPrepared target _).bind fun u hu => ?_
  rw [hparse]
  exact (leaves_ofExcept (.error failure)).bind_error.alike (hu.trans ht)

theorem leaves_registerAlias {target : Target} {r : Registry}
    (h : s.registryOf? target = some r) {definition : Value} {parsed : AliasDefinition}
    (hparse : AliasDefinition.parse definition = .ok parsed) :
    Leaves (registerAlias target definition) s (.ok (some parsed))
      (s.putRegistry target (r.put parsed.name (.aliased parsed))) := by
  have hfit := Registry.fit?_text (AliasDefinition.valid_of_parse hparse).name (.aliased parsed)
  refine (leaves_registryOf? target).bind fun t ht => ?_
  rw [h]
  refine (leaves_warnIfPrepared target _).bind fun u hu => ?_
  rw [hparse]
  refine (leaves_ofExcept (.ok parsed)).bind fun v hv => ?_
  have hput := (hv.trans (hu.trans ht)).putRegistry h (r.put parsed.name (.aliased parsed))
  have hin := leaves_registerIn (s := v) target r [(.text parsed.name, some (.aliased parsed))]
  rw [Registry.register_cons_of_fit hfit] at hin
  refine (hin.alike hput).bind fun w hw => ?_
  exact (leaves_emit _).bind fun w' hw' => (leaves_pure _).alike (hw'.trans hw)

/-! ### Making registries -/

theorem leaves_createRegistry (id : String) (entries : List Registry.Entry) (name : String) :
    let registered := ({ name } : Registry).register entries
    Leaves (createRegistry id entries name) s
      (registered.answer.map fun _ => registered.registry)
      (if registered.failure.isNone then s.putRegistry (.registry id) registered.registry
        else s) := by
  intro registered
  refine (leaves_forM_emit _ _).bind fun t ht => ?_
  unfold Registry.Registered.answer
  dsimp only [registered]
  cases (({ name } : Registry).register entries).failure with
  | some failure => exact ⟨rfl, ht⟩
  | none => exact ⟨rfl, ht.putRegistry_registry id _⟩

theorem leaves_copyRegistry (source : Target) (id name : String) :
    Leaves (copyRegistry source id name) s (.ok ((s.registryOf? source).map (·.copy name)))
      (match s.registryOf? source with
        | some r => s.putRegistry (.registry id) (r.copy name)
        | none => s) := by
  refine (leaves_registryOf? source).bind fun t ht => ?_
  cases s.registryOf? source with
  | none => exact (leaves_pure _).alike ht
  | some r => exact ⟨rfl, ht.putRegistry_registry id _⟩

/-! ### Making validators -/

theorem leaves_autoTrimDefault : Leaves autoTrimDefault s (s.autoTrimFor none) s := by
  refine leaves_get_bind ?_
  unfold Store.autoTrimFor
  cases s.autoTrim with
  | some enabled => exact leaves_pure enabled
  | none =>
    refine (leaves_settings.map (·.autoTrim)).alike ?_
    exact .refl s

theorem leaves_createValidator (id : String) (schema : Value) (requested : Option Bool) :
    Leaves (createValidator id schema requested) s
      ((s.autoTrimFor requested).map fun autoTrim =>
        { schema, autoTrim, registry := s.defaultContents.copy })
      (match s.autoTrimFor requested with
        | .ok autoTrim =>
          s.putValidator id { schema, autoTrim, registry := s.defaultContents.copy }
        | .error _ => s) := by
  have hmake : ∀ (autoTrim : Bool) (t : Store), t.Alike s →
      Leaves (do
        let r ← defaultRegistry
        let v : Validator := { schema, autoTrim, registry := r.copy }
        modify fun s => s.putValidator id v
        return v) t (.ok { schema, autoTrim, registry := s.defaultContents.copy })
        (s.putValidator id { schema, autoTrim, registry := s.defaultContents.copy }) := by
    intro autoTrim t ht
    have hdefault := leaves_defaultRegistry (s := t)
    rw [ht.defaultContents] at hdefault
    exact (hdefault.alike ht).bind fun u hu => ⟨rfl, hu.putValidator id _⟩
  cases requested with
  | some enabled => exact hmake enabled s (.refl s)
  | none =>
    have htrim := leaves_autoTrimDefault (s := s)
    cases h : s.autoTrimFor none with
    | error failure =>
      rw [h] at htrim
      exact htrim.bind_error
    | ok autoTrim =>
      rw [h] at htrim
      exact htrim.bind (hmake autoTrim)

/-! ### Compiling and validating -/

theorem leaves_compileSchema (r : Registry) (schema : Value) (autoTrim : Option Bool) :
    Leaves (compileSchema r schema autoTrim) s (s.compile r schema autoTrim) s := by
  cases schema with
  | map entries =>
    refine leaves_settings.bind_same fun settings t ht => ?_
    have hcompile := leaves_ofExcept (s := t) (FieldRules.compileSchema
      { registry := r, limit := settings.maxDepth } (.map entries) autoTrim)
    rw [← bind_pure (FieldRules.compileSchema _ _ _)]
    refine (hcompile.bind_same fun compiled u hu => ?_).alike ht
    exact (leaves_emit _).bind fun w hw => (leaves_pure _).alike (hw.trans hu)
  | _ => exact ⟨rfl, .refl s⟩

/-- A validator is compiled once; one that cannot be compiled stays as it is. -/
theorem leaves_prepared {id : String} {v : Validator} (h : s.validator? id = some v) :
    Leaves (prepared id v) s (s.compiledOf v)
      (match s.compiledOf v with
        | .ok compiled => s.putValidator id { v with compiled := some compiled }
        | .error _ => s) := by
  unfold prepared Store.compiledOf
  cases hv : v.compiled with
  | some compiled =>
    have hself : ({ v with compiled := some compiled } : Validator) = v := by rw [← hv]
    show Leaves (pure compiled) s (.ok compiled)
      (s.putValidator id { v with compiled := some compiled })
    rw [hself]
    exact ⟨rfl, .symm (Store.putValidator_self h)⟩
  | none =>
    have hcompile := leaves_compileSchema (s := s) v.registry v.schema (some v.autoTrim)
    show Leaves _ s (s.compile v.registry v.schema (some v.autoTrim)) _
    cases hc : s.compile v.registry v.schema (some v.autoTrim) with
    | error failure =>
      rw [hc] at hcompile
      exact hcompile.bind_error
    | ok compiled =>
      rw [hc] at hcompile
      exact hcompile.bind fun t ht => ⟨rfl, ht.putValidator id _⟩

theorem leaves_prepare_none {id : String} (h : s.validator? id = none) :
    Leaves (prepare id) s (.ok none) s := by
  refine leaves_get_bind ?_
  rw [h]
  exact leaves_pure none

theorem leaves_prepare {id : String} {v : Validator} (h : s.validator? id = some v) :
    Leaves (prepare id) s ((s.compiledOf v).map some)
      (match s.compiledOf v with
        | .ok compiled => s.putValidator id { v with compiled := some compiled }
        | .error _ => s) := by
  have hmap := (leaves_prepared h).map some
  rw [map_eq_pure_bind] at hmap
  refine leaves_get_bind ?_
  rw [h]
  exact hmap

theorem leaves_validate_none {id : String} (h : s.validator? id = none) (data : Value) :
    Leaves (validate id data) s (.ok none) s := by
  refine leaves_get_bind ?_
  rw [h]
  exact leaves_pure none

section
variable {id : String} {v : Validator} (h : s.validator? id = some v) {data : Value}
include h

/-- Without a compiled schema nothing is validated. -/
theorem leaves_validate_refused {failure : Failure} (hc : s.compiledOf v = .error failure) :
    Leaves (validate id data) s (.error failure) s := by
  refine leaves_get_bind ?_
  have hprepared := leaves_prepared h
  rw [hc] at hprepared
  rw [h]
  exact hprepared.bind_error

variable {compiled : CompiledSchema} (hc : s.compiledOf v = .ok compiled)
include hc

/-- An execution that stops leaves a validator that is compiled, with the errors that it had. -/
theorem leaves_validate_stopped {fault : Fault}
    (hresult : Validator.resultOf compiled data = .error fault) :
    Leaves (validate id data) s (.error (.fault fault))
      (s.putValidator id { v with compiled := some compiled }) := by
  refine leaves_get_bind ?_
  have hprepared := leaves_prepared h
  rw [hc] at hprepared
  rw [h]
  refine hprepared.bind fun t ht => ?_
  rw [hresult]
  exact (leaves_ofFallible (.error fault)).bind_error.alike ht

/-- A result is remembered before it is reported, and it stays so if it cannot be. -/
theorem leaves_validate {result : Result}
    (hresult : Validator.resultOf compiled data = .ok result) :
    Leaves (validate id data) s
      (((resultEvent? data result).mapError Failure.fault).map fun _ => some result)
      (s.putValidator id
        { v with compiled := some compiled, errors := Validator.errorOf result }) := by
  refine leaves_get_bind ?_
  have hprepared := leaves_prepared h
  rw [hc] at hprepared
  rw [h]
  refine hprepared.bind fun t ht => ?_
  rw [hresult]
  refine (leaves_ofFallible (.ok result)).bind fun u hu => ?_
  have hput := ((hu.trans ht).putValidator id
    { v with compiled := some compiled, errors := Validator.errorOf result }).trans
      (s.putValidator_putValidator id _ _)
  refine ((leaves_modify _).alike hput).bind fun w hw => ?_
  have hevent := leaves_ofFallible (s := w) (resultEvent? data result)
  cases he : resultEvent? data result with
  | error fault =>
    rw [he] at hevent
    exact hevent.bind_error.alike hw
  | ok event =>
    rw [he] at hevent
    refine hevent.bind fun x hx => ?_
    cases event with
    | none => exact (leaves_pure _).alike (hx.trans hw)
    | some event =>
      exact (leaves_emit _).bind fun y hy => (leaves_pure _).alike (hy.trans (hx.trans hw))

end

end Session

end FieldRules
