import FieldRules.Proofs.Isolation

/-!
# What becomes of a validator

An operation that makes no other validator under the name of one turns it into what `Operation.turn`
says (`Session.validator?_after`): it may register something in its registry, compile it, or have it
remember a result. Nothing else about it ever changes, and once it is compiled it stays so. From the
steps follows what a whole run makes of it (`Session.validator?_afterAll`), and where it is compiled
in the run (`Session.compiled_afterAll`).
-/

set_option autoImplicit false

namespace FieldRules.Session

variable {s : Store} {id : String} {v : Validator}

/-! ## What an operation does to a validator -/

/-- The operation needs the validator to be compiled. -/
def Operation.needs (id : String) : Operation → Bool
  | .prepare other => other == id
  | .validate other _ | .isValid other _ => other == id
  | _ => false

/-- The result that an operation has for the input of a validator, if it is a validation and gets
that far. Whether an input is valid cannot be told but by validating it. -/
def Operation.verdict? (s : Store) (id : String) : Operation → Option Result
  | .validate other data | .isValid other data =>
    if other = id then do
      let v ← s.validator? id
      let compiled ← (s.compiledOf v).toOption
      (Validator.resultOf compiled data).toOption
    else none
  | _ => none

/-- What an operation makes of a validator, unless it makes another one under its name. -/
def Operation.turn (operation : Operation) (s : Store) (id : String) (v : Validator) :
    Validator where
  schema := v.schema
  autoTrim := v.autoTrim
  registry := v.registry.putAll (operation.registrations (.validator id))
  compiled := if operation.needs id then (s.compiledOf v).toOption else v.compiled
  errors := ((operation.verdict? s id).map Validator.errorOf).getD v.errors

theorem turn_eq_self {operation : Operation} (hr : operation.registrations (.validator id) = [])
    (hn : operation.needs id = false) (hv : operation.verdict? s id = none) :
    operation.turn s id v = v := by
  unfold Operation.turn
  rw [hr, hn, hv]
  rfl

theorem validator?_after_of {operation : Operation} {answer : Except Failure Answer} {t : Store}
    {w : Validator} (h : Leaves (perform operation) s answer t) (ht : t.validator? id = some w) :
    (after s operation).validator? id = some w := (h.2.validator? id).trans ht

/-- Preparing one validator leaves the others alone. -/
theorem exists_leaves_prepare (s : Store) (other : String) :
    ∃ answer t, Leaves (prepare other) s answer t ∧
      ∀ id, id ≠ other → t.validator? id = s.validator? id := by
  cases hu : s.validator? other with
  | none => exact ⟨_, s, leaves_prepare_none hu, fun _ _ => rfl⟩
  | some u =>
    refine ⟨_, _, leaves_prepare hu, fun id hid => ?_⟩
    cases s.compiledOf u with
    | error failure => rfl
    | ok compiled => rw [Store.validator?_putValidator, if_neg hid]

/-- Validating with one validator leaves the others alone. -/
theorem exists_leaves_validate (s : Store) (other : String) (data : Value) :
    ∃ answer t, Leaves (validate other data) s answer t ∧
      ∀ id, id ≠ other → t.validator? id = s.validator? id := by
  have hput : ∀ w : Validator, ∀ id, id ≠ other →
      (s.putValidator other w).validator? id = s.validator? id := fun w id hid => by
    rw [Store.validator?_putValidator, if_neg hid]
  cases hu : s.validator? other with
  | none => exact ⟨_, s, leaves_validate_none hu data, fun _ _ => rfl⟩
  | some u =>
    cases hc : s.compiledOf u with
    | error failure => exact ⟨_, s, leaves_validate_refused hu hc, fun _ _ => rfl⟩
    | ok compiled =>
      cases hr : Validator.resultOf compiled data with
      | error fault => exact ⟨_, _, leaves_validate_stopped hu hc hr, hput _⟩
      | ok result => exact ⟨_, _, leaves_validate hu hc hr, hput _⟩

theorem compiledOf_of_compiled {compiled : CompiledSchema} (h : v.compiled = some compiled) :
    s.compiledOf v = .ok compiled := by
  unfold Store.compiledOf
  rw [h]

theorem compiledOf_of_unprepared (h : v.compiled = none) :
    s.compiledOf v = s.compile v.registry v.schema (some v.autoTrim) := by
  unfold Store.compiledOf
  rw [h]

/-- A validator that cannot be compiled has not been. -/
theorem compiled_of_compiledOf_error {failure : Failure} (h : s.compiledOf v = .error failure) :
    v.compiled = none := by
  unfold Store.compiledOf at h
  cases hv : v.compiled with
  | none => rfl
  | some compiled =>
    rw [hv] at h
    exact nomatch h

theorem eq_uncompiled (h : v.compiled = none) : v = { v with compiled := none } := by rw [← h]

theorem verdict?_validate (h : s.validator? id = some v) (data : Value) :
    (Operation.validate id data).verdict? s id =
      (s.compiledOf v).toOption.bind fun compiled =>
        (Validator.resultOf compiled data).toOption := by
  show (if id = id then _ else _) = _
  rw [if_pos rfl, h]
  rfl

/-- A registration reaches the validator whose registry it is for. -/
theorem validator?_putRegistry_putAll {target : Target} {r : Registry}
    (hr : s.registryOf? target = some r) (h : s.validator? id = some v)
    (builders : List (String × Builder)) :
    (s.putRegistry target (r.putAll builders)).validator? id =
      some { v with
        registry := v.registry.putAll (if target = .validator id then builders else []) } := by
  rw [Store.validator?_putRegistry, h]
  split
  case isTrue htarget =>
    have hown : s.registryOf? (.validator id) = some v.registry := by
      show (s.validator? id).map (·.registry) = _
      rw [h]
      rfl
    rw [htarget, hown] at hr
    rw [← Option.some.inj hr]
    rfl
  case isFalse => rfl

/-- An operation that makes no validator of the name anew has made none. -/
theorem autoTrimFor_of_kept {schema : Value} {requested : Option Bool}
    (hkept : (Operation.createValidator id schema requested).origin? s (.validator id) = none)
    (autoTrim : Bool) : s.autoTrimFor requested ≠ .ok autoTrim := by
  intro htrim
  have hleaves := (leaves_createValidator (s := s) id schema requested).map Answer.validator
  rw [htrim] at hleaves
  have hok : (perform (.createValidator id schema requested) s).1.isOk = true := by
    show ((.validator <$> createValidator id schema requested : Session Answer) s).1.isOk = true
    rw [hleaves.1]
    rfl
  have hmade : (Operation.createValidator id schema requested).foundation? s (.validator id) =
      some s.defaultContents.copy := if_pos rfl
  unfold Operation.origin? at hkept
  rw [if_pos hok, hmade] at hkept
  exact nomatch hkept

/-- Most operations have nothing to do with the validator. -/
theorem validator?_after_same {operation : Operation} {answer : Except Failure Answer} {t : Store}
    (h : Leaves (perform operation) s answer t) (ht : t.validator? id = some v)
    (hr : operation.registrations (.validator id) = []) (hn : operation.needs id = false)
    (hv : operation.verdict? s id = none) :
    (after s operation).validator? id = some (operation.turn s id v) := by
  rw [turn_eq_self hr hn hv]
  exact validator?_after_of h ht

section
variable (h : s.validator? id = some v)
include h

theorem ne_of_registryOf?_eq_none {target : Target} (hr : s.registryOf? target = none) :
    target ≠ .validator id := by
  rintro rfl
  rw [show s.registryOf? (.validator id) = (s.validator? id).map (·.registry) from rfl, h] at hr
  exact nomatch hr

theorem validator?_after_prepare :
    (after s (.prepare id)).validator? id = some ((Operation.prepare id).turn s id v) := by
  have hneeds : (Operation.prepare id).needs id = true := beq_self_eq_true id
  refine validator?_after_of ((leaves_prepare h).map _) ?_
  unfold Operation.turn
  rw [if_pos hneeds]
  cases hc : s.compiledOf v with
  | error failure =>
    rw [h]
    exact congrArg some (eq_uncompiled (compiled_of_compiledOf_error hc))
  | ok compiled =>
    show (s.putValidator id _).validator? id = _
    rw [Store.validator?_putValidator, if_pos rfl]
    rfl

theorem validator?_after_validate (data : Value) :
    (after s (.validate id data)).validator? id =
      some ((Operation.validate id data).turn s id v) := by
  have hneeds : (Operation.validate id data).needs id = true := beq_self_eq_true id
  have hput : ∀ w : Validator, (s.putValidator id w).validator? id = some w := fun w => by
    rw [Store.validator?_putValidator, if_pos rfl]
  unfold Operation.turn
  rw [if_pos hneeds, verdict?_validate h]
  cases hc : s.compiledOf v with
  | error failure =>
    refine validator?_after_of ((leaves_validate_refused h hc).map _) (h.trans ?_)
    exact congrArg some (eq_uncompiled (compiled_of_compiledOf_error hc))
  | ok compiled =>
    cases hr : Validator.resultOf compiled data with
    | error fault =>
      refine validator?_after_of ((leaves_validate_stopped h hc hr).map _) ((hput _).trans ?_)
      simp only [Except.toOption, Option.bind_some, hr]
      rfl
    | ok result =>
      refine validator?_after_of ((leaves_validate h hc hr).map _) ((hput _).trans ?_)
      simp only [Except.toOption, Option.bind_some, hr]
      rfl

theorem validator?_after_registerAlias (target : Target) (definition : Value) :
    (after s (.registerAlias target definition)).validator? id =
      some ((Operation.registerAlias target definition).turn s id v) := by
  cases hr : s.registryOf? target with
  | none =>
    exact validator?_after_same ((leaves_registerAlias_none hr definition).map _) h
      (if_neg (ne_of_registryOf?_eq_none h hr)) rfl rfl
  | some r =>
    cases hparse : AliasDefinition.parse definition with
    | error failure =>
      exact validator?_after_same ((leaves_registerAlias_error hr hparse).map _) h
        (registrations_registerAlias_of_error hparse target _) rfl rfl
    | ok parsed =>
      refine validator?_after_of ((leaves_registerAlias hr hparse).map _) ?_
      refine (validator?_putRegistry_putAll hr h [(parsed.name, .aliased parsed)]).trans ?_
      rw [← registrations_registerAlias_of_ok hparse]
      rfl

/-- Validating with any validator makes of this one what it says. -/
theorem validator?_after_validating (other : String) (data : Value) :
    (after s (.validate other data)).validator? id =
      some ((Operation.validate other data).turn s id v) := by
  by_cases hid : id = other
  · subst hid
    exact validator?_after_validate h data
  · obtain ⟨answer, t, hleaves, ht⟩ := exists_leaves_validate s other data
    exact validator?_after_same (hleaves.map _) ((ht id hid).trans h) rfl
      (beq_false_of_ne (Ne.symm hid)) (if_neg (Ne.symm hid))

/-- **What an operation makes of a validator.** -/
theorem validator?_after {operation : Operation}
    (hkept : operation.origin? s (.validator id) = none) :
    (after s operation).validator? id = some (operation.turn s id v) := by
  cases operation with
  | createValidator other schema requested =>
    refine validator?_after_same ((leaves_createValidator other schema requested).map _) ?_
      rfl rfl rfl
    cases htrim : s.autoTrimFor requested with
    | error failure => exact h
    | ok autoTrim =>
      show (s.putValidator other _).validator? id = some v
      rw [Store.validator?_putValidator, if_neg, h]
      rintro rfl
      exact autoTrimFor_of_kept hkept autoTrim htrim
  | prepare other =>
    by_cases hid : id = other
    · subst hid
      exact validator?_after_prepare h
    · obtain ⟨answer, t, hleaves, ht⟩ := exists_leaves_prepare s other
      exact validator?_after_same (hleaves.map _) ((ht id hid).trans h) rfl
        (beq_false_of_ne (Ne.symm hid)) rfl
  | validate other data => exact validator?_after_validating h other data
  | isValid other data =>
    rw [after_isValid]
    exact validator?_after_validating h other data
  | register target entries =>
    cases hr : s.registryOf? target with
    | none =>
      exact validator?_after_same ((leaves_register_none hr entries).map _) h
        (if_neg (ne_of_registryOf?_eq_none h hr)) rfl rfl
    | some r =>
      refine validator?_after_of ((leaves_register hr entries).map _) ?_
      rw [Registry.register_registry]
      exact validator?_putRegistry_putAll hr h _
  | registerAlias target definition => exact validator?_after_registerAlias h target definition
  | resetDefault => exact validator?_after_same ((leaves_modify _).map _) h rfl rfl rfl
  | setAutoTrim enabled => exact validator?_after_same ((leaves_modify _).map _) h rfl rfl rfl
  | setEnvironment environment =>
    exact validator?_after_same ((leaves_modify _).map _) h rfl rfl rfl
  | createRegistry other entries name =>
    refine validator?_after_same ((leaves_createRegistry other entries name).map _) ?_ rfl rfl rfl
    split
    · exact (Store.validator?_putRegistry s _ _ id).trans h
    · exact h
  | copyRegistry source other name =>
    refine validator?_after_same ((leaves_copyRegistry source other name).map _) ?_ rfl rfl rfl
    cases s.registryOf? source with
    | none => exact h
    | some r => exact (Store.validator?_putRegistry s _ _ id).trans h

end

/-! ## What a run does to a validator -/

/-- The results that a run has had for the inputs of a validator. -/
def verdicts (id : String) : Store → List Operation → List Result
  | _, [] => []
  | s, operation :: rest =>
    (operation.verdict? s id).toList ++ verdicts id (after s operation) rest

theorem verdicts_append (operations more : List Operation) :
    verdicts id s (operations ++ more) =
      verdicts id s operations ++ verdicts id (afterAll s operations) more := by
  induction operations generalizing s with
  | nil => rfl
  | cons operation rest ih =>
    rw [List.cons_append, verdicts, verdicts, ih, List.append_assoc]
    rfl

/-- Without a validation there is no result. -/
theorem verdicts_eq_nil {operations : List Operation}
    (h : ∀ operation ∈ operations, ∀ s, operation.verdict? s id = none) :
    verdicts id s operations = [] := by
  induction operations generalizing s with
  | nil => rfl
  | cons operation rest ih =>
    obtain ⟨hfirst, hrest⟩ := List.forall_mem_cons.mp h
    rw [verdicts, hfirst, ih hrest]
    rfl

/-- What has become of a validator in a run that does not make another one under its name. -/
structure Since (id : String) (s : Store) (operations : List Operation) (v w : Validator) :
    Prop where
  schema : w.schema = v.schema
  autoTrim : w.autoTrim = v.autoTrim
  registry : w.registry = v.registry.putAll (operations.flatMap (·.registrations (.validator id)))
  errors : w.errors = ((verdicts id s operations).getLast?.map Validator.errorOf).getD v.errors
  compiled (schema : CompiledSchema) : v.compiled = some schema → w.compiled = some schema

/-- What has been compiled stays so. -/
theorem compiled_turn (operation : Operation) {compiled : CompiledSchema}
    (h : v.compiled = some compiled) : (operation.turn s id v).compiled = some compiled := by
  show (if operation.needs id then (s.compiledOf v).toOption else v.compiled) = _
  rw [compiledOf_of_compiled h, h]
  exact ite_self _

theorem Since.refl (id : String) (s : Store) (v : Validator) : Since id s [] v v :=
  ⟨rfl, rfl, rfl, rfl, fun _ h => h⟩

theorem Since.cons {operation : Operation} {rest : List Operation} {w : Validator}
    (h : Since id (after s operation) rest (operation.turn s id v) w) :
    Since id s (operation :: rest) v w where
  schema := h.schema
  autoTrim := h.autoTrim
  registry := by
    rw [List.flatMap_cons, Registry.putAll_append]
    exact h.registry
  errors := by
    rw [h.errors, verdicts, List.getLast?_append]
    cases (verdicts id (after s operation) rest).getLast? with
    | some last => rfl
    | none =>
      show ((operation.verdict? s id).map Validator.errorOf).getD v.errors = _
      cases operation.verdict? s id <;> rfl
  compiled compiled hc := h.compiled compiled (compiled_turn operation hc)

theorem validator?_afterAll (h : s.validator? id = some v) {operations : List Operation}
    (hkept : Kept (.validator id) s operations) :
    ∃ w, (afterAll s operations).validator? id = some w ∧ Since id s operations v w := by
  induction operations generalizing s v with
  | nil => exact ⟨v, h, .refl id s v⟩
  | cons operation rest ih =>
    obtain ⟨w, hw, hsince⟩ := ih (validator?_after h hkept.1) hkept.2
    exact ⟨w, hw, hsince.cons⟩

/-- The operation compiles the validator: it needs it to be compiled, and finds it as one that has
not been, but can be now. -/
structure CompilesNow (id : String) (s : Store) (operation : Operation) (u : Validator)
    (compiled : CompiledSchema) : Prop where
  needs : operation.needs id = true
  found : s.validator? id = some u
  unprepared : u.compiled = none
  compiles : s.compile u.registry u.schema (some u.autoTrim) = .ok compiled

/-- A validator is compiled by the operation that finds it unprepared. -/
theorem compiled_turn_eq_some (h : s.validator? id = some v) (hnone : v.compiled = none)
    {operation : Operation} {compiled : CompiledSchema} :
    (operation.turn s id v).compiled = some compiled ↔ CompilesNow id s operation v compiled := by
  show (if operation.needs id then (s.compiledOf v).toOption else v.compiled) = _ ↔ _
  constructor
  · intro hturn
    split at hturn
    case isTrue hneeds =>
      rw [compiledOf_of_unprepared hnone, Except.toOption_eq_some] at hturn
      exact ⟨hneeds, h, hnone, hturn⟩
    case isFalse => exact nomatch hnone.symm.trans hturn
  · intro hnow
    rw [if_pos hnow.needs, compiledOf_of_unprepared hnone, hnow.compiles]
    rfl

theorem kept_append {target : Target} {operations more : List Operation} :
    Kept target s (operations ++ more) ↔
      Kept target s operations ∧ Kept target (afterAll s operations) more := by
  induction operations generalizing s with
  | nil => exact Iff.of_eq (true_and _).symm
  | cons operation rest ih =>
    show _ ∧ Kept target _ (rest ++ more) ↔ (_ ∧ _) ∧ _
    rw [ih, and_assoc]
    rfl

/-- **A validator that is compiled after a run has been compiled by one operation of it, and stayed
so.** -/
theorem compiled_afterAll (h : s.validator? id = some v) (hnone : v.compiled = none)
    {operations : List Operation} (hkept : Kept (.validator id) s operations) {w : Validator}
    (hw : (afterAll s operations).validator? id = some w) (compiled : CompiledSchema) :
    w.compiled = some compiled ↔
      ∃ before operation later u, operations = before ++ operation :: later ∧
        CompilesNow id (afterAll s before) operation u compiled := by
  constructor
  · intro hc
    induction operations generalizing s v with
    | nil =>
      rw [show w = v from Option.some.inj (hw.symm.trans h), hnone] at hc
      exact nomatch hc
    | cons operation rest ih =>
      have hstep := validator?_after h hkept.1
      cases hturn : (operation.turn s id v).compiled with
      | some found =>
        obtain ⟨last, hlast, hsince⟩ := validator?_afterAll hstep hkept.2
        have hfound := hsince.compiled found hturn
        rw [show last = w from Option.some.inj (hlast.symm.trans hw), hc, Option.some.injEq]
          at hfound
        subst hfound
        exact ⟨[], operation, rest, v, rfl, (compiled_turn_eq_some h hnone).mp hturn⟩
      | none =>
        obtain ⟨before, needing, later, u, rfl, hnow⟩ := ih hstep hturn hkept.2 hw
        exact ⟨operation :: before, needing, later, u, rfl, hnow⟩
  · rintro ⟨before, operation, later, u, rfl, hnow⟩
    obtain ⟨-, hrest⟩ := kept_append.mp hkept
    have hturn := (compiled_turn_eq_some hnow.found hnow.unprepared).mpr hnow
    obtain ⟨last, hlast, hsince⟩ :=
      validator?_afterAll (validator?_after hnow.found hrest.1) hrest.2
    have hall : (afterAll s (before ++ operation :: later)).validator? id = some last := by
      rw [afterAll_append]
      exact hlast
    rw [← Option.some.inj (hall.symm.trans hw)]
    exact hsince.compiled compiled hturn

end FieldRules.Session
