import FieldRules.Proofs.Run.Chain

/-!
# Fields are run one by one

A schema is run by running the chain of each field on that field's value in one snapshot. What comes
of it is said here without the order in which it happens: a report has the error `e` under a name
just when a field of that name has a chain that fails with `e` (`mem_errors_iff`), and a value just
when one passes and either wrote or had a value to begin with (`mem_output_iff`). Running the fields
of two lists is running the one and then the other, and putting the reports together
(`runFields_append`).
-/

set_option autoImplicit false

namespace FieldRules

/-- What the fields of a schema see of an input. -/
def CompiledSchema.snapshot (schema : CompiledSchema) (data : Entries) : Entries :=
  if schema.autoTrim then data.trimmed else data

theorem CompiledSchema.execute_eq (schema : CompiledSchema) (data : Entries) :
    schema.execute data = runFields schema.fields (schema.snapshot data) := by
  cases schema
  rw [CompiledSchema.execute]
  rfl

/-- Whether a field is present does not depend on trimming. -/
theorem CompiledSchema.get?_snapshot (schema : CompiledSchema) (data : Entries) (name : String) :
    (schema.snapshot data).get? name =
      if schema.autoTrim then (data.get? name).map Value.trimmed else data.get? name := by
  unfold CompiledSchema.snapshot
  cases schema.autoTrim with
  | true => exact Entries.get?_trimmed data name
  | false => rfl

/-- Runs the chain of a field on its value in a snapshot. -/
def runField (chain : List Step) (name : String) (snapshot : Entries) : Except Fault Outcome :=
  runChain chain ((snapshot.get? name).getD .null) snapshot false

theorem runFields_nil (snapshot : Entries) : runFields [] snapshot = .ok {} := by
  rw [runFields]

theorem runFields_cons (name : String) (chain : List Step) (rest : List (String × List Step))
    (snapshot : Entries) :
    runFields ((name, chain) :: rest) snapshot = runField chain name snapshot >>= fun outcome =>
      (runFields rest snapshot).map fun report =>
        report.withField name (snapshot.get? name).isSome outcome := by
  rw [runFields]
  rfl

/-- How a run of fields that begins with a field ends. -/
theorem runFields_cons_eq_ok {name : String} {chain : List Step}
    {rest : List (String × List Step)} {snapshot : Entries} {report : Report}
    (h : runFields ((name, chain) :: rest) snapshot = .ok report) :
    ∃ o r, runField chain name snapshot = .ok o ∧ runFields rest snapshot = .ok r ∧
      report = r.withField name (snapshot.get? name).isSome o := by
  rw [runFields_cons] at h
  obtain ⟨o, ho, h⟩ := Except.bind_eq_ok.mp h
  obtain ⟨r, hr, rfl⟩ := Except.map_eq_ok.mp h
  exact ⟨o, r, ho, hr, rfl⟩

/-! ## Reports -/

namespace Report

/-- Two reports as one. -/
def append (a b : Report) : Report :=
  { output := a.output ++ b.output, errors := a.errors ++ b.errors }

/-- Reports in order as one. -/
def concat (reports : List Report) : Report :=
  { output := reports.flatMap (·.output), errors := reports.flatMap (·.errors) }

theorem withField_append (a b : Report) (name : String) (present : Bool) (o : Outcome) :
    (a.append b).withField name present o = (a.withField name present o).append b := by
  unfold withField append
  cases o.error with
  | some e => rfl
  | none => cases o.written || present <;> rfl

theorem mem_errors_withField {r : Report} {name : String} {present : Bool} {o : Outcome}
    {e : String × Value} :
    e ∈ (r.withField name present o).errors ↔
      e ∈ r.errors ∨ (e.1 = name ∧ o.error = some e.2) := by
  obtain ⟨k, w⟩ := e
  unfold withField
  cases ho : o.error with
  | some error =>
    rw [List.mem_cons, Prod.mk.injEq, Option.some.injEq, or_comm, eq_comm (a := error)]
  | none => cases hp : o.written || present <;> simp

theorem mem_output_withField {r : Report} {name : String} {present : Bool} {o : Outcome}
    {e : String × Value} :
    e ∈ (r.withField name present o).output ↔
      e ∈ r.output ∨
        (e.1 = name ∧ o.error = none ∧ (o.written = true ∨ present = true) ∧ o.value = e.2) := by
  obtain ⟨k, w⟩ := e
  unfold withField
  cases ho : o.error with
  | some error => simp
  | none =>
    cases hp : o.written || present with
    | true =>
      rw [Bool.or_eq_true] at hp
      simp [hp, or_comm, eq_comm (a := w)]
    | false =>
      rw [Bool.or_eq_false_iff] at hp
      simp [hp.1, hp.2]

theorem lookup_errors_withField (r : Report) (name : String) (present : Bool) (o : Outcome)
    (other : String) :
    (r.withField name present o).errors.lookup other =
      (if other = name then o.error else none).or (r.errors.lookup other) := by
  unfold withField
  cases ho : o.error with
  | some error =>
    by_cases h : other = name
    · simp [h]
    · have hne : (other == name) = false := beq_eq_false_iff_ne.mpr h
      simp [List.lookup_cons, h, hne]
  | none => cases o.written || present <;> simp

theorem lookup_output_withField (r : Report) (name : String) (present : Bool) (o : Outcome)
    (other : String) :
    (r.withField name present o).output.lookup other =
      (if other = name ∧ o.error = none ∧ (o.written || present) then some o.value else none).or
        (r.output.lookup other) := by
  unfold withField
  cases ho : o.error with
  | some error => simp
  | none =>
    cases hp : o.written || present with
    | false => simp
    | true =>
      by_cases h : other = name
      · simp [h]
      · have hne : (other == name) = false := beq_eq_false_iff_ne.mpr h
        simp [List.lookup_cons, h, hne]

end Report

/-! ## What a report says -/

variable {fields : List (String × List Step)} {snapshot : Entries} {report : Report}

/-- All chains of a schema that has a report have an outcome. -/
theorem runField_of_mem (h : runFields fields snapshot = .ok report) {f : String × List Step}
    (hf : f ∈ fields) : ∃ o, runField f.2 f.1 snapshot = .ok o := by
  induction fields generalizing report with
  | nil => exact absurd hf (by simp)
  | cons g rest ih =>
    obtain ⟨name, chain⟩ := g
    obtain ⟨o, r, ho, hr, -⟩ := runFields_cons_eq_ok h
    rcases List.mem_cons.mp hf with rfl | hf
    · exact ⟨o, ho⟩
    · exact ih hr hf

/-- **A name has an error just when a field of that name fails with it.** -/
theorem mem_errors_iff (h : runFields fields snapshot = .ok report) {e : String × Value} :
    e ∈ report.errors ↔ ∃ chain o, (e.1, chain) ∈ fields ∧
      runField chain e.1 snapshot = .ok o ∧ o.error = some e.2 := by
  induction fields generalizing report with
  | nil =>
    rw [runFields_nil, Except.ok.injEq] at h
    simp [← h]
  | cons g rest ih =>
    obtain ⟨name, chain⟩ := g
    obtain ⟨o, r, ho, hr, rfl⟩ := runFields_cons_eq_ok h
    rw [Report.mem_errors_withField, ih hr]
    constructor
    · rintro (⟨chain', o', hm, hrun, he⟩ | ⟨hname, he⟩)
      · exact ⟨chain', o', List.mem_cons_of_mem _ hm, hrun, he⟩
      · exact ⟨chain, o, by rw [hname]; exact List.mem_cons_self, by rw [hname]; exact ho, he⟩
    · rintro ⟨chain', o', hm, hrun, he⟩
      rcases List.mem_cons.mp hm with heq | hm
      · rw [Prod.mk.injEq] at heq
        obtain ⟨hname, rfl⟩ := heq
        rw [hname, ho, Except.ok.injEq] at hrun
        exact Or.inr ⟨hname, by rw [hrun]; exact he⟩
      · exact Or.inl ⟨chain', o', hm, hrun, he⟩

/-- **A name has a value just when a field of that name passes, and wrote or was there.** -/
theorem mem_output_iff (h : runFields fields snapshot = .ok report) {e : String × Value} :
    e ∈ report.output ↔ ∃ chain o, (e.1, chain) ∈ fields ∧
      runField chain e.1 snapshot = .ok o ∧ o.error = none ∧
      (o.written = true ∨ (snapshot.get? e.1).isSome = true) ∧ o.value = e.2 := by
  induction fields generalizing report with
  | nil =>
    rw [runFields_nil, Except.ok.injEq] at h
    simp [← h]
  | cons g rest ih =>
    obtain ⟨name, chain⟩ := g
    obtain ⟨o, r, ho, hr, rfl⟩ := runFields_cons_eq_ok h
    rw [Report.mem_output_withField, ih hr]
    constructor
    · rintro (⟨chain', o', hm, hrun, he⟩ | ⟨hname, he, hp, hv⟩)
      · exact ⟨chain', o', List.mem_cons_of_mem _ hm, hrun, he⟩
      · refine ⟨chain, o, by rw [hname]; exact List.mem_cons_self, by rw [hname]; exact ho, he, ?_,
          hv⟩
        rw [hname]
        exact hp
    · rintro ⟨chain', o', hm, hrun, he, hp, hv⟩
      rcases List.mem_cons.mp hm with heq | hm
      · rw [Prod.mk.injEq] at heq
        obtain ⟨hname, rfl⟩ := heq
        rw [hname, ho, Except.ok.injEq] at hrun
        subst hrun
        rw [hname] at hp
        exact Or.inr ⟨hname, he, hp, hv⟩
      · exact Or.inl ⟨chain', o', hm, hrun, he, hp, hv⟩

/-! ## Two lists of fields -/

/-- **Fields run one after the other, and nothing passes between them.** -/
theorem runFields_append (fields others : List (String × List Step)) (snapshot : Entries) :
    runFields (fields ++ others) snapshot = runFields fields snapshot >>= fun a =>
      (runFields others snapshot).map a.append := by
  induction fields with
  | nil =>
    rw [List.nil_append, runFields_nil, Except.ok_bind]
    cases runFields others snapshot with
    | error fault => rfl
    | ok b => rfl
  | cons g rest ih =>
    obtain ⟨name, chain⟩ := g
    rw [List.cons_append, runFields_cons, runFields_cons, ih]
    cases runField chain name snapshot with
    | error fault => rfl
    | ok o =>
      cases runFields rest snapshot with
      | error fault => rfl
      | ok a =>
        cases runFields others snapshot with
        | error fault => rfl
        | ok b => simp [Except.map, Report.withField_append]

end FieldRules
