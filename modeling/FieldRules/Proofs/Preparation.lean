import FieldRules.Proofs.Compile.Limit
import FieldRules.Proofs.Number.Size
import FieldRules.Proofs.Session.Turning

/-!
# A validator is compiled once and for all

A validator is made with a schema, an auto-trim and a copy of the default registry. It is compiled
by the first operation that needs it to be, if it can be, and from then on the compiled schema
decides what every validation answers: neither its own registry nor the default one, neither the
default for auto-trim nor the environment has a say in it. Until then each attempt starts afresh,
and one that fails leaves everything as it was (`Session.compiled_once`).

Two things are less simple than they look. The limit to the depth of schemas is one of the settings
of the time that a validator is compiled, and a builder that catches the failure of what it asks for
can make something of it; with builders that do not, it is only decisive for whether the schema
compiles. And a validator remembers a result before it has been reported, so that an error without a
flat form is remembered though it is never answered.
-/

set_option autoImplicit false

namespace FieldRules.Session

variable {s : Store} {id : String} {v : Validator}

/-! ## What validating answers -/

/-- What is answered to an input that is validated with a compiled schema. -/
def answerOf (compiled : CompiledSchema) (data : Value) : Except Failure Result := do
  let result ← (Validator.resultOf compiled data).mapError .fault
  let _ ← (resultEvent? data result).mapError .fault
  return result

theorem answer_prepare (h : s.validator? id = some v) :
    (perform (.prepare id) s).1 = (s.compiledOf v).map .compiled := by
  have hleaves := (leaves_prepare h).map (Answer.ofOption Answer.compiled)
  refine hleaves.1.trans ?_
  cases s.compiledOf v <;> rfl

theorem answer_validating (h : s.validator? id = some v) (data : Value) :
    ((validate id data).run s).1 =
      (s.compiledOf v >>= fun compiled => answerOf compiled data).map some := by
  cases hc : s.compiledOf v with
  | error failure => exact (leaves_validate_refused h hc).1
  | ok compiled =>
    rw [Except.ok_bind]
    unfold answerOf
    cases hr : Validator.resultOf compiled data with
    | error fault => exact (leaves_validate_stopped h hc hr).1
    | ok result =>
      refine (leaves_validate h hc hr).1.trans ?_
      show _ = ((resultEvent? data result).mapError Failure.fault >>= fun _ => .ok result).map some
      cases resultEvent? data result <;> rfl

theorem answer_validate (h : s.validator? id = some v) (data : Value) :
    (perform (.validate id data) s).1 =
      (s.compiledOf v >>= fun compiled => answerOf compiled data).map .result := by
  show ((Answer.ofOption Answer.result <$> validate id data).run s).1 = _
  rw [run_map, answer_validating h]
  cases s.compiledOf v >>= fun compiled => answerOf compiled data <;> rfl

theorem answer_isValid (h : s.validator? id = some v) (data : Value) :
    (perform (.isValid id data) s).1 =
      (s.compiledOf v >>= fun compiled => answerOf compiled data).map
        fun result => .valid result.isOk := by
  show ((Answer.ofOption Answer.valid <$> isValid id data).run s).1 = _
  rw [run_map, isValid, run_map, answer_validating h]
  cases s.compiledOf v >>= fun compiled => answerOf compiled data <;> rfl

/-- Only an error that has no flat form keeps a result from being reported. -/
theorem flatten_of_resultEvent? {data : Value} {result : Result} {fault : Fault}
    (h : resultEvent? data result = .error fault) :
    ∃ errors, result = .err errors ∧ Errors.flatten errors = .error fault := by
  cases result with
  | ok value => exact nomatch h
  | err errors =>
    refine ⟨errors, rfl, ?_⟩
    unfold resultEvent? at h
    cases hdata : data.entries? with
    | none =>
      simp only [hdata] at h
      exact nomatch h
    | some entries =>
      simp only [hdata] at h
      rcases Except.bind_eq_error.mp h with hflat | ⟨flat, -, hpure⟩
      · exact hflat
      · exact nomatch hpure

theorem verdict?_eq_some (h : s.validator? id = some v) {data : Value} {result : Result} :
    (Operation.validate id data).verdict? s id = some result ↔
      ∃ compiled, s.compiledOf v = .ok compiled ∧
        Validator.resultOf compiled data = .ok result := by
  rw [verdict?_validate h, Option.bind_eq_some_iff]
  simp only [Except.toOption_eq_some]

/-- A result that is answered is what the validator has remembered. -/
theorem verdict?_of_answer (hv : s.validator? id = some v) {data : Value} {result : Result}
    (h : (s.compiledOf v >>= fun compiled => answerOf compiled data) = .ok result) :
    (Operation.validate id data).verdict? s id = some result := by
  obtain ⟨compiled, hc, h⟩ := Except.bind_eq_ok.mp h
  obtain ⟨made, hmade, h⟩ := Except.bind_eq_ok.mp h
  obtain ⟨event, -, h⟩ := Except.bind_eq_ok.mp h
  cases h
  exact (verdict?_eq_some hv).mpr ⟨compiled, hc, Except.mapError_eq_ok.mp hmade⟩

/-- What a validator has remembered is answered, unless it cannot be reported. -/
theorem answer_of_verdict? (hv : s.validator? id = some v) {data : Value} {result : Result}
    (h : (Operation.validate id data).verdict? s id = some result) :
    (s.compiledOf v >>= fun compiled => answerOf compiled data) = .ok result ∨
      ∃ errors fault, result = .err errors ∧ Errors.flatten errors = .error fault ∧
        (s.compiledOf v >>= fun compiled => answerOf compiled data) = .error (.fault fault) := by
  obtain ⟨compiled, hc, hr⟩ := (verdict?_eq_some hv).mp h
  have hanswer : (s.compiledOf v >>= fun compiled => answerOf compiled data) =
      ((resultEvent? data result).mapError Failure.fault).map fun _ => result := by
    rw [hc, Except.ok_bind, answerOf, hr]
    rfl
  rw [hanswer]
  cases he : resultEvent? data result with
  | ok event => exact Or.inl rfl
  | error fault =>
    obtain ⟨errors, herrors, hflat⟩ := flatten_of_resultEvent? he
    exact Or.inr ⟨errors, fault, herrors, hflat, rfl⟩

/-! ## Whole lives -/

/-- The store and the validator that making a validator leaves. -/
theorem validator?_after_create {schema : Value} {requested : Option Bool} {made : Validator}
    (h : (perform (.createValidator id schema requested) s).1 = .ok (.validator made)) :
    (after s (.createValidator id schema requested)).validator? id = some made ∧
      ∃ autoTrim, s.autoTrimFor requested = .ok autoTrim ∧
        made = { schema, autoTrim, registry := s.defaultContents.copy } := by
  have hleaves := (leaves_createValidator (s := s) id schema requested).map Answer.validator
  have hanswer := hleaves.1.symm.trans h
  cases htrim : s.autoTrimFor requested with
  | error failure =>
    rw [htrim] at hanswer
    exact nomatch hanswer
  | ok autoTrim =>
    rw [htrim] at hanswer hleaves
    cases hanswer
    refine ⟨validator?_after_of hleaves ?_, autoTrim, rfl, rfl⟩
    show (s.putValidator id _).validator? id = _
    rw [Store.validator?_putValidator, if_pos rfl]

/-- What a session compiles is compiled under the limit of its settings. -/
theorem compile_eq_ok {r : Registry} {schema : Value} {autoTrim : Option Bool}
    {compiled : CompiledSchema} (h : s.compile r schema autoTrim = .ok compiled) :
    ∃ settings, Settings.ofEnvironment s.environment = .ok settings ∧
      FieldRules.compileSchema { registry := r, limit := settings.maxDepth } schema autoTrim =
        .ok compiled := by
  cases schema with
  | map entries =>
    obtain ⟨settings, hsettings, hcompiled⟩ := Except.bind_eq_ok.mp h
    exact ⟨settings, Except.mapError_eq_ok.mp hsettings, hcompiled⟩
  | _ => exact nomatch h

/-- **A validator is compiled once and for all.** From the time that it is made, whatever happens to
it, to other validators, to the default registry or to the settings: it is compiled by the first
operation that needs it and finds that it compiles, from its own schema, with the auto-trim of the
time that it was made and the registry of the time that it is compiled; from then on it has that
compiled schema, which decides what every validation answers. Until then, preparing it fails without
a trace. What it remembers is the last result that a validation came to, which is the last one that
was answered, unless its error cannot be reported. -/
theorem compiled_once {s : Store} {id : String} {schema : Value} {requested : Option Bool}
    {made : Validator}
    (hmade : (perform (.createValidator id schema requested) s).1 = .ok (.validator made))
    {operations : List Operation}
    (hkept : Kept (.validator id) (after s (.createValidator id schema requested)) operations) :
    let start := after s (.createValidator id schema requested)
    let t := afterAll start operations
    ∃ v, t.validator? id = some v ∧
      v.schema = schema ∧ s.autoTrimFor requested = .ok v.autoTrim ∧
      (perform (.prepare id) t).1 = (t.compiledOf v).map .compiled ∧
      -- Where it is compiled, and from what.
      (∀ compiled, v.compiled = some compiled ↔
        ∃ before operation later u, operations = before ++ operation :: later ∧
          CompilesNow id (afterAll start before) operation u compiled) ∧
      (∀ before operation later u compiled, operations = before ++ operation :: later →
        CompilesNow id (afterAll start before) operation u compiled →
        u.registry = s.defaultContents.copy.putAll
          (before.flatMap (·.registrations (.validator id))) ∧
        ∃ settings, Settings.ofEnvironment (afterAll start before).environment = .ok settings ∧
          FieldRules.compileSchema { registry := u.registry, limit := settings.maxDepth } schema
            (some v.autoTrim) = .ok compiled ∧
          (u.registry.Strict → ∀ limit other,
            FieldRules.compileSchema { registry := u.registry, limit } schema (some v.autoTrim) =
              .ok other → other = compiled)) ∧
      -- From then on nothing else has a say.
      (∀ compiled, v.compiled = some compiled → ∀ later, Kept (.validator id) t later →
        (∃ w, (afterAll t later).validator? id = some w ∧ w.compiled = some compiled) ∧
        ∀ data,
          (perform (.validate id data) (afterAll t later)).1 =
            (answerOf compiled data).map .result ∧
          (perform (.isValid id data) (afterAll t later)).1 =
            (answerOf compiled data).map fun result => .valid result.isOk) ∧
      (∀ failure, (perform (.prepare id) t).1 = .error failure →
        v.compiled = none ∧ (after t (.prepare id)).Alike t) ∧
      -- What it remembers, and how that and what is answered belong together.
      v.errors = ((verdicts id start operations).getLast?.map Validator.errorOf).getD .null ∧
      ∀ data,
        let answer := t.compiledOf v >>= fun compiled => answerOf compiled data
        (perform (.validate id data) t).1 = answer.map .result ∧
        (perform (.isValid id data) t).1 = answer.map (fun result => .valid result.isOk) ∧
        (Operation.isValid id data).verdict? t id = (Operation.validate id data).verdict? t id ∧
        (∀ result, answer = .ok result →
          (Operation.validate id data).verdict? t id = some result) ∧
        ∀ result, (Operation.validate id data).verdict? t id = some result →
          answer = .ok result ∨
            ∃ errors fault, result = .err errors ∧ Errors.flatten errors = .error fault ∧
              answer = .error (.fault fault) := by
  intro start t
  obtain ⟨hstart, autoTrim, htrim, rfl⟩ := validator?_after_create hmade
  obtain ⟨v, hv, hsince⟩ := validator?_afterAll hstart hkept
  refine ⟨v, hv, hsince.schema, by rw [htrim, hsince.autoTrim], answer_prepare hv,
    compiled_afterAll hstart rfl hkept hv, ?compiling, ?frozen, ?failed, hsince.errors,
    fun data => ⟨answer_validate hv data, answer_isValid hv data, rfl,
      fun result => verdict?_of_answer hv, fun result => answer_of_verdict? hv⟩⟩
  case compiling =>
    rintro before operation later u compiled rfl hnow
    obtain ⟨found, hfound, hbefore⟩ := validator?_afterAll hstart (kept_append.mp hkept).1
    obtain rfl : found = u := Option.some.inj (hfound.symm.trans hnow.found)
    have hcompiles := hnow.compiles
    rw [hbefore.schema, hbefore.autoTrim, ← hsince.autoTrim] at hcompiles
    obtain ⟨settings, hsettings, hcompiled⟩ := compile_eq_ok hcompiles
    exact ⟨hbefore.registry, settings, hsettings, hcompiled,
      fun hstrict limit other hother => compileSchema_unique hstrict hcompiled hother⟩
  case frozen =>
    intro compiled hc later hlater
    obtain ⟨w, hw, hlast⟩ := validator?_afterAll hv hlater
    have hwc := hlast.compiled compiled hc
    refine ⟨⟨w, hw, hwc⟩, fun data => ?_⟩
    rw [answer_validate hw, answer_isValid hw, compiledOf_of_compiled hwc, Except.ok_bind]
    exact ⟨rfl, rfl⟩
  case failed =>
    intro failure hfailure
    rw [answer_prepare hv] at hfailure
    have hc := Except.map_eq_error.mp hfailure
    have hleaves := (leaves_prepare hv).map (Answer.ofOption Answer.compiled)
    rw [hc] at hleaves
    exact ⟨compiled_of_compiledOf_error hc, hleaves.2⟩

/-- The rules for parcels. -/
def parcelRules : Registry := Registry.ofBuiltins.copy.put "barcode" lenient

theorem strict_parcelRules : parcelRules.Strict := by
  intro name builder hb args
  unfold parcelRules at hb
  rw [Registry.find?_put] at hb
  split at hb
  · rw [← Option.some.inj hb]
    exact .ready _
  · rcases (Registry.extends_ofBuiltins fun _ => False).find?_cases hb with ⟨rule, -, rfl⟩ | hno
    · exact (rule.recipe_plain args).strict
    · exact hno.elim

/-- A parcel whose validator cannot be prepared before there is a rule for barcodes. The first
validation compiles it, to what it would compile to under any limit; then the rule may be replaced,
and nothing else may compile any more. -/
theorem compiled_once_parcel :
    let schema : Value := .map [(.text "code", .text "barcode")]
    let creation : Operation := .createValidator "parcel" schema none
    let before : List Operation :=
      [.prepare "parcel", .register (.validator "parcel") [(.text "barcode", some lenient)]]
    let later : List Operation := [.resetDefault,
      .register (.validator "parcel") [(.text "barcode", some (.builtin .required))],
      .setEnvironment [("RULEFORGE_MAX_SCHEMA_DEPTH", "0")]]
    let compiled : CompiledSchema :=
      { fields := [("code", [⟨{ name := "barcode" }, .custom fun _ _ => .ok .pass⟩])],
        autoTrim := false }
    let start := after {} creation
    let operations := before ++ .validate "parcel" .null :: later
    let t := afterAll start operations
    (∃ made, (perform creation {}).1 = .ok (.validator made)) ∧
      Kept (.validator "parcel") start operations ∧
      (perform (.prepare "parcel") start).1.isOk = false ∧
      (∀ limit other, FieldRules.compileSchema { registry := parcelRules, limit } schema
        (some false) = .ok other → other = compiled) ∧
      ∃ v, t.validator? "parcel" = some v ∧ v.compiled = some compiled ∧
        v.errors = Validator.misfit ∧
        ∀ data, (perform (.validate "parcel" data) t).1 =
          (answerOf compiled data).map .result := by
  intro schema creation before later compiled start operations t
  have hmade : (perform creation {}).1 = .ok (.validator _) := rfl
  have hkept : Kept (.validator "parcel") start operations :=
    ⟨origin?_eq_none rfl, origin?_eq_none rfl, origin?_eq_none rfl, origin?_eq_none rfl,
      origin?_eq_none rfl, origin?_eq_none rfl, trivial⟩
  obtain ⟨v, hv, -, htrim, -, hcompiled, hfrom, -, -, herrors, hanswers⟩ :=
    compiled_once hmade hkept
  let found : Validator := { schema, autoTrim := false, registry := parcelRules }
  have hnow : CompilesNow "parcel" (afterAll start before) (.validate "parcel" .null) found
      compiled := ⟨rfl, rfl, rfl, rfl⟩
  have hc : v.compiled = some compiled :=
    (hcompiled compiled).mpr ⟨before, _, later, found, rfl, hnow⟩
  obtain ⟨-, -, -, -, hunique⟩ := hfrom before _ later _ compiled rfl hnow
  have hoff : v.autoTrim = false := (Except.ok.inj htrim).symm
  rw [hoff] at hunique
  have hverdict : (Operation.validate "parcel" .null).verdict? (afterAll start before) "parcel" =
      some (.err Validator.misfit) := by
    refine (verdict?_eq_some hnow.found).mpr ⟨compiled, ?_, rfl⟩
    rw [compiledOf_of_unprepared hnow.unprepared, hnow.compiles]
  have hverdicts : verdicts "parcel" start operations = [.err Validator.misfit] := by
    have hbefore : verdicts "parcel" start before = [] :=
      verdicts_eq_nil (by simp [before, Operation.verdict?])
    rw [verdicts_append, hbefore, verdicts, hverdict,
      verdicts_eq_nil (by simp [later, Operation.verdict?])]
    rfl
  rw [hverdicts] at herrors
  refine ⟨⟨_, hmade⟩, hkept, rfl, hunique strict_parcelRules, v, hv, hc, herrors, fun data => ?_⟩
  rw [(hanswers data).1, compiledOf_of_compiled hc, Except.ok_bind]

/-- A rule whose error has a number in it. -/
def overweight (grams : Int) : Builder :=
  .custom
    { label := "overweight", signature := some {},
      recipe := fun _ => .ready (.custom fun _ _ =>
        .ok { error := .map [(.text "grams", .int grams)] }) }

/-- A rule that accepts everything if there is room for a schema below it, and nothing otherwise. -/
def roomy : Builder :=
  .custom
    { label := "roomy", signature := some {},
      recipe := fun _ => .withSchema (.map []) none fun
        | .ok _ => .ready (.custom fun _ _ => .ok .pass)
        | .error _ => .ready (.custom fun _ _ => .ok { error := .text "NO_ROOM" }) }

/-- A validator of parcels with one rule, and a limit to its depth. -/
def weighed (rule : Builder) (limit : String) : Store :=
  afterAll {}
    [.createValidator "parcel" (.map [(.text "weight", .text "rule")]) none,
      .register (.validator "parcel") [(.text "rule", some rule)],
      .setEnvironment [("RULEFORGE_MAX_SCHEMA_DEPTH", limit)]]

/-- The error of an overweight parcel. -/
def overweightError (grams : Int) : Value :=
  .map [(.text "weight", .map [(.text "grams", .int grams)])]

theorem flatten_overweightError {grams : Int} (h : Numeral.textless ≤ grams.natAbs) :
    Errors.flatten (overweightError grams) = .error .numberTooLong := by
  have hdisplay : (Value.int grams).display = .error .numberTooLong := by
    unfold Value.display
    rw [show (Value.int grams).display? = none from (Numeral.wholeText?_eq_none_iff grams).mpr h]
  show (List.mapM (m := Except Fault) (fun (x : Errors.Place × Value) => do
      return (([] : Errors.Place) ++ x.1, ← x.2.display))
    [([.text "weight", .text "grams"], .int grams)] >>= _) = _
  rw [List.mapM_cons, hdisplay]
  rfl

/-- An error that cannot be reported is remembered. -/
theorem leaves_overweight {grams : Int} (h : Numeral.textless ≤ grams.natAbs) :
    ∃ v, (weighed (overweight grams) "1").validator? "parcel" = some v ∧ v.errors = .null ∧
      ∃ t w, Leaves (validate "parcel" (.map [(.text "weight", .int 1)]))
        (weighed (overweight grams) "1") (.error (.fault .numberTooLong)) t ∧
        t.validator? "parcel" = some w ∧ w.errors = overweightError grams := by
  refine ⟨_, rfl, rfl, ?_⟩
  obtain ⟨v, hv, compiled, hc⟩ : ∃ v,
      (weighed (overweight grams) "1").validator? "parcel" = some v ∧ ∃ compiled,
        (weighed (overweight grams) "1").compiledOf v = .ok compiled ∧
        Validator.resultOf compiled (.map [(.text "weight", .int 1)]) =
          .ok (.err (overweightError grams)) := ⟨_, rfl, _, rfl, rfl⟩
  have hleaves := leaves_validate hv hc.1 hc.2
  have hevent : resultEvent? (.map [(.text "weight", .int 1)]) (.err (overweightError grams)) =
      .error .numberTooLong := by
    show (Errors.flatten (overweightError grams) >>= _) = _
    rw [flatten_overweightError h]
    rfl
  rw [hevent] at hleaves
  exact ⟨_, _, hleaves, rfl, rfl⟩

/-- The error of a validation may be remembered without having been returned, and what a validator
is compiled to may depend on more than its schema, its auto-trim and its registry. -/
theorem remembered_and_limited :
    let validation : Operation := .validate "parcel" (.map [(.text "weight", .int 1)])
    let heavy := weighed (overweight Numeral.textless) "1"
    (heavy.validator? "parcel").map (·.errors) = some .null ∧
      (perform validation heavy).1 = .error (.fault .numberTooLong) ∧
      ((after heavy validation).validator? "parcel").map (·.errors) =
        some (overweightError Numeral.textless) ∧
      (weighed roomy "1").validator? "parcel" = (weighed roomy "2").validator? "parcel" ∧
      (perform validation (weighed roomy "1")).1 =
        .ok (.result (.err (.map [(.text "weight", .text "NO_ROOM")]))) ∧
      (perform validation (weighed roomy "2")).1 =
        .ok (.result (.ok (.map [(.text "weight", .int 1)]))) := by
  intro validation heavy
  obtain ⟨v, hv, hnull, t, w, hleaves, hw, herrors⟩ :=
    leaves_overweight (Nat.le_of_eq (Int.natAbs_natCast Numeral.textless).symm)
  have hvalidation := hleaves.map (Answer.ofOption Answer.result)
  have hafter : (after heavy validation).validator? "parcel" = some w :=
    validator?_after_of hvalidation hw
  refine ⟨?_, hvalidation.1, ?_, rfl, rfl, rfl⟩
  · rw [hv, Option.map_some, hnull]
  · rw [hafter, Option.map_some, herrors]

end FieldRules.Session
