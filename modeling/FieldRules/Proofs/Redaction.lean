import FieldRules.Proofs.Log.Alike

/-!
# Logs say nothing about inputs

Whatever is logged, and in whatever context, what is written does not depend on what was passed
under the names of inputs (`outcomes_redacted`). Two runs are compared that differ in nothing else.
One step of either writes the same, and leaves contexts that differ in nothing else
(`Action.Alike.step`), so by induction the whole runs write the same. It makes no difference whether
inputs belong to an entry or to the context, how long ago they were bound, or whether something
fails in between.
-/

set_option autoImplicit false

namespace FieldRules.Log

/-! ## Entries that differ in inputs only -/

/-- The requests differ in the values of inputs among their details only. -/
inductive Request.Alike : Request → Request → Prop
  | mk (q : Request) {details : Entries} (h : DetailsAlike q.details details) :
      Alike q { q with details }

/-- The entries differ in the values of inputs among their details only. -/
inductive Entry.Alike : Entry → Entry → Prop
  | mk (e : Entry) {details : Record} (h : e.details.Alike details) : Alike e { e with details }

/-- The same is done, with details that differ in the values of inputs only. -/
inductive Action.Alike : Action → Action → Prop
  | bind {details others : Entries} (h : DetailsAlike details others) :
      Alike (.bind details) (.bind others)
  | clear : Alike .clear .clear
  | log {q q' : Request} (h : q.Alike q') : Alike (.log q) (.log q')

namespace Request

theorem leveledEntry_alike (q : Request) (logger : String) {details others : Record}
    (h : details.Alike others) :
    Except.Alike Entry.Alike (q.leveledEntry logger details) (q.leveledEntry logger others) := by
  unfold leveledEntry
  refine (Parameters.bind_alike _ _ h).bind fun b c hbc => ?_
  rw [hbc.get?_eq (show "msg" ∉ Record.inputNames by decide),
    hbc.get?_eq (show "event" ∉ Record.inputNames by decide)]
  dsimp only
  split
  · refine .bind_same _ fun ⟨severity, level⟩ => ?_
    exact .ok (.mk _ hbc.others)
  · refine .bind_same _ fun level => ?_
    exact .ok (.mk _ hbc.others)

/-- What is asked for depends on inputs in nothing but the details. -/
theorem Alike.entry {q q' : Request} (h : q.Alike q') :
    Except.Alike Entry.Alike q.entry q'.entry := by
  obtain ⟨h⟩ := h
  unfold Request.entry
  refine .bind_same q.loggerName fun logger => ?_
  dsimp only
  split
  · refine h.ofEntries.bind fun details others hdetails => ?_
    exact q.leveledEntry_alike logger hdetails
  · split
    · refine h.ofEntries.bind fun details others hdetails => ?_
      refine (Parameters.bind_alike _ _ hdetails).bind fun _ _ _ => ?_
      exact .ok (.mk _ hdetails)
    · exact .error _

end Request

namespace Entry

variable {e f : Entry} {context context' : Record} {config : Config}

theorem Alike.checkDetails_eq (h : e.Alike f) : e.checkDetails = f.checkDetails := by
  obtain ⟨h⟩ := h
  exact (Parameters.bind_alike _ _ h).bind_eq fun _ _ _ => rfl

theorem Alike.ownRecord (h : e.Alike f) : e.ownRecord.Alike f.ownRecord := by
  obtain ⟨h⟩ := h
  unfold Entry.ownRecord
  dsimp only
  split
  · exact h.ite (h.put fun _ => rfl)
  · exact (h.ite (h.put fun _ => rfl)).put fun _ => rfl

/-- **Entries that are logged here have the same record.** -/
theorem Alike.record_eq (h : e.Alike f) (hcontext : context.Alike context') :
    e.record context = f.record context' := by
  have hrecord := h.ownRecord.underlay hcontext
  have hwritten := hrecord.written_eq e.level e.logger fun r => .ok (r.without ["exc_info"])
  unfold Entry.record
  dsimp only
  rw [h.checkDetails_eq, hrecord.lookup_eq (show "_record" ∉ Record.inputNames by decide)]
  obtain ⟨h⟩ := h
  refine congrArg _ (funext fun _ => ?_)
  split
  · exact hwritten
  · exact hwritten
  · rfl

/-- What a foreign entry records beside its message comes from none of its inputs. -/
theorem Alike.foreignParts_eq (h : e.Alike f) : e.foreignParts = f.foreignParts := by
  obtain ⟨h⟩ := h
  unfold Entry.foreignParts
  refine (Parameters.bind_alike _ _ ((h.putDefault fun _ => rfl).ite h)).bind_eq fun b c hbc => ?_
  rw [hbc.get?_eq (show "stacklevel" ∉ Record.inputNames by decide),
    hbc.get?_eq (show "extra" ∉ Record.inputNames by decide),
    hbc.get?_eq (show "exc_info" ∉ Record.inputNames by decide)]

/-- **Foreign entries have the same record.** -/
theorem Alike.foreignRecord_eq (h : e.Alike f) (hcontext : context.Alike context')
    (parts : Record) : e.foreignRecord context parts = f.foreignRecord context' parts := by
  obtain ⟨h⟩ := h
  unfold Entry.foreignRecord
  refine congrArg _ (funext fun message => ?_)
  exact ((Record.Alike.refl _).underlay hcontext).written_eq _ _ _

/-- What is written for entries is the same. -/
theorem Alike.write_eq (h : e.Alike f) (hcontext : context.Alike context') :
    e.write config context = f.write config context' := by
  have hparts := h.foreignParts_eq
  have hforeign := h.foreignRecord_eq hcontext
  have hrecord := h.record_eq hcontext
  obtain ⟨h⟩ := h
  unfold Entry.write Entry.writeForeign
  rw [hparts, hrecord]
  simp only [hforeign]
  rfl

end Entry

/-! ## What is written -/

namespace Record

/-- What the record has under the names of inputs is blanked out. -/
def HidesInputs (r : Record) : Prop := ∀ e ∈ r, e.1 ∈ inputNames → e.2 = redacted

theorem hidesInputs_redact (r : Record) : r.redact.HidesInputs := by
  intro e he hname
  obtain ⟨⟨name, v⟩, -, rfl⟩ := List.mem_map.mp he
  dsimp only at hname
  simp [hname]

theorem HidesInputs.without {r : Record} (h : r.HidesInputs) (names : List String) :
    (r.without names).HidesInputs :=
  fun e he hname => h e (List.mem_of_mem_filter he) hname

/-- What stands for an input is a text, and in JSON it is the same text. -/
theorem HidesInputs.json? {r form : Record} (h : r.HidesInputs) (hform : r.json? = some form) :
    form.HidesInputs := by
  unfold Record.json? at hform
  induction r generalizing form with
  | nil =>
    rw [← Option.some.inj hform]
    exact fun e he => absurd he (by simp)
  | cons first rest ih =>
    obtain ⟨name, v⟩ := first
    rw [List.mapM_cons] at hform
    obtain ⟨e, he, hform⟩ := Option.bind_eq_some_iff.mp hform
    obtain ⟨w, hw, he⟩ := Option.bind_eq_some_iff.mp he
    obtain ⟨others, hothers, hform⟩ := Option.bind_eq_some_iff.mp hform
    obtain rfl := Option.some.inj he
    obtain rfl := Option.some.inj hform
    intro e he hname
    rcases List.mem_cons.mp he with rfl | he
    · have hv : v = redacted := h (name, v) List.mem_cons_self hname
      rw [hv] at hw
      exact (Option.some.inj hw).symm
    · exact ih (fun e he => h e (List.mem_cons_of_mem _ he)) hothers e he hname

end Record

/-- The line is a record in which inputs are blanked out. -/
def Line.IsRedacted (line : Line) : Prop := ∃ r : Record, line = .record r ∧ r.HidesInputs

theorem Record.HidesInputs.lines {r : Record} (h : r.HidesInputs) {line : Line}
    (hline : line ∈ r.lines true) : line.IsRedacted := by
  unfold Record.lines at hline
  rw [if_pos rfl] at hline
  split at hline
  case h_1 form hform => exact ⟨form, List.mem_singleton.mp hline, h.json? hform⟩
  case h_2 => exact absurd hline (by simp)

namespace Entry

variable {e : Entry} {context r parts : Record} {config : Config}

theorem hidesInputs_of_record (h : e.record context = .ok r) : r.HidesInputs := by
  obtain ⟨_, -, h⟩ := Except.bind_eq_ok.mp h
  dsimp only at h
  have hwritten : ∀ {level logger : String} {own : Record},
      ((own.identified level logger).filled >>= fun filled =>
        .ok (filled.finished.without ["exc_info"])) = .ok r → r.HidesInputs := by
    intro level logger own h
    obtain ⟨filled, -, h⟩ := Except.bind_eq_ok.mp h
    rw [← Except.ok.inj h]
    exact (Record.hidesInputs_redact _).without _
  split at h
  · exact hwritten h
  · exact hwritten h
  · cases h

theorem hidesInputs_of_foreignRecord (h : e.foreignRecord context parts = .ok r) :
    r.HidesInputs := by
  obtain ⟨message, -, h⟩ := Except.bind_eq_ok.mp h
  obtain ⟨filled, -, h⟩ := Except.bind_eq_ok.mp h
  rw [← Except.ok.inj h]
  exact Record.hidesInputs_redact _

/-- **What is written for an entry hides its inputs**, and those of the context. -/
theorem isRedacted_of_write (hjson : config.json = true) {written : List Line}
    (h : e.write config context = .ok written) {line : Line} (hline : line ∈ written) :
    line.IsRedacted := by
  unfold write writeForeign at h
  rw [hjson] at h
  split at h
  · split at h
    · obtain ⟨parts, -, h⟩ := Except.bind_eq_ok.mp h
      split at h
      case h_1 r hr =>
        rw [← Except.ok.inj h] at hline
        exact (hidesInputs_of_foreignRecord hr).lines hline
      case h_2 =>
        rw [← Except.ok.inj h] at hline
        cases hline
    · rw [← Except.ok.inj h] at hline
      cases hline
  · obtain ⟨r, hr, h⟩ := Except.bind_eq_ok.mp h
    rw [← Except.ok.inj h] at hline
    split at hline
    · exact (hidesInputs_of_record hr).lines hline
    · cases hline

end Entry

/-! ## Steps and runs -/

/-- **A step writes the same**, and leaves contexts that are still alike. -/
theorem Action.Alike.step {a b : Action} (h : a.Alike b) {context context' : Record}
    (hcontext : context.Alike context') (config : Config) :
    Except.Alike (fun p q => p.1 = q.1 ∧ p.2.Alike q.2) (step config context a)
      (step config context' b) := by
  cases h with
  | bind h =>
    refine h.ofEntries.bind fun r s hrs => ?_
    exact .ok ⟨rfl, hcontext.overlay hrs⟩
  | clear => exact .ok ⟨rfl, .nil⟩
  | log h =>
    refine h.entry.bind fun e f hef => ?_
    rw [hef.write_eq hcontext]
    refine .bind_same _ fun written => ?_
    exact .ok ⟨rfl, hcontext⟩

theorem isRedacted_of_step {config : Config} (hjson : config.json = true) {context after : Record}
    {action : Action} {written : List Line} (h : step config context action = .ok (written, after))
    {line : Line} (hline : line ∈ written) : line.IsRedacted := by
  cases action with
  | bind details =>
    obtain ⟨r, -, h⟩ := Except.bind_eq_ok.mp h
    obtain ⟨rfl, -⟩ := Prod.mk.inj (Except.ok.inj h)
    cases hline
  | clear =>
    obtain ⟨rfl, -⟩ := Prod.mk.inj (Except.ok.inj h)
    cases hline
  | log request =>
    obtain ⟨e, -, h⟩ := Except.bind_eq_ok.mp h
    obtain ⟨lines, hlines, h⟩ := Except.bind_eq_ok.mp h
    obtain ⟨rfl, -⟩ := Prod.mk.inj (Except.ok.inj h)
    exact Entry.isRedacted_of_write hjson hlines hline

/-- What comes of doing things to a log in order, each of them whatever became of those before it.
What fails leaves the context as it was. -/
def outcomes (config : Config) : (context : Record) → List Action → List (Except Fault (List Line))
  | _, [] => []
  | context, action :: rest =>
    match step config context action with
    | .ok (written, context) => .ok written :: outcomes config context rest
    | .error fault => .error fault :: outcomes config context rest

/-- A run ends at the first failure, and goes through if there is none. -/
theorem run_eq_mapM (config : Config) (context : Record) (actions : List Action) :
    run config context actions = (outcomes config context actions).mapM id := by
  induction actions generalizing context with
  | nil => rfl
  | cons action rest ih =>
    unfold run outcomes
    cases step config context action with
    | error fault => rfl
    | ok p =>
      simp only [Except.ok_bind, List.mapM_cons, id, ih]

/-- **Runs that differ in inputs only have the same outcomes.** -/
theorem outcomes_eq (config : Config) {context context' : Record}
    (hcontext : context.Alike context') {actions actions' : List Action}
    (h : List.Forall₂ Action.Alike actions actions') :
    outcomes config context actions = outcomes config context' actions' := by
  induction h generalizing context context' with
  | nil => rfl
  | @cons a b _ _ hab _ ih =>
    unfold outcomes
    have hstep := hab.step hcontext config
    generalize step config context a = x at hstep ⊢
    generalize step config context' b = y at hstep ⊢
    cases hstep with
    | @ok p q hpq =>
      obtain ⟨hwritten, hafter⟩ := hpq
      exact congrArg₂ List.cons (congrArg Except.ok hwritten) (ih hafter)
    | error fault => exact congrArg _ (ih hcontext)

theorem isRedacted_of_outcomes {config : Config} (hjson : config.json = true) {context : Record}
    {actions : List Action} {written : List Line}
    (h : .ok written ∈ outcomes config context actions) {line : Line} (hline : line ∈ written) :
    line.IsRedacted := by
  induction actions generalizing context with
  | nil => cases h
  | cons action rest ih =>
    unfold outcomes at h
    split at h
    case h_1 lines after hstep =>
      rcases List.mem_cons.mp h with h | h
      · rw [Except.ok.inj h] at hline
        exact isRedacted_of_step hjson hstep hline
      · exact ih h
    case h_2 fault hstep =>
      rcases List.mem_cons.mp h with h | h
      · cases h
      · exact ih h

/-- **Logs in JSON say nothing about inputs.** Whatever is bound, cleared and logged, here or by
others, and whatever the context was before: if two runs differ in nothing but what is passed under
the names of inputs, then all that is done in them has the same outcome, and so has the whole. And
whenever one of these names is that of a value in a record, the value is blanked out. -/
theorem outcomes_redacted (config : Config) (hjson : config.json = true)
    {context context' : Record} (hcontext : context.Alike context') {actions actions' : List Action}
    (h : List.Forall₂ Action.Alike actions actions') :
    outcomes config context actions = outcomes config context' actions' ∧
      run config context actions = run config context' actions' ∧
      ∀ written, .ok written ∈ outcomes config context actions →
        ∀ line ∈ written, ∃ r : Record, line = .record r ∧
          ∀ e ∈ r, e.1 ∈ Record.inputNames → e.2 = Record.redacted := by
  have houtcomes := outcomes_eq config hcontext h
  refine ⟨houtcomes, ?_, ?_⟩
  · rw [run_eq_mapM, run_eq_mapM, houtcomes]
  · intro written hwritten line hline
    exact isRedacted_of_outcomes hjson hwritten hline

/-- Things to do with a secret: it is bound, then an entry has it, and then an entry of someone else
is written in the same context. -/
def actionsWith (secret : Value) : List Action :=
  [.bind [(.text "data", secret), (.text "request", .text "r-1")],
    .log { logger := .text "app", method := "info", message := .text "checked"
           details := [(.text "value", secret), (.text "rule", .text "eq")] },
    .log { logger := .text "other", method := "warning", message := .text "late", foreign := true }]

theorem actionsWith_alike (v w : Value) :
    List.Forall₂ Action.Alike (actionsWith v) (actionsWith w) := by
  have hrest : DetailsAlike [(.text "rule", .text "eq")] [(.text "rule", .text "eq")] :=
    .cons (fun _ => rfl) .nil
  have hrequest : DetailsAlike [(.text "request", .text "r-1")] [(.text "request", .text "r-1")] :=
    .cons (fun _ => rfl) .nil
  refine .cons (.bind (.cons (fun h => ?_) hrequest)) (.cons (.log (.mk _ ?_))
    (.cons (.log (.mk _ .nil)) .nil))
  · exact absurd rfl (h "data" (by decide))
  · exact .cons (fun h => absurd rfl (h "value" (by decide))) hrest

/-- Two secrets leave the same two records. -/
theorem outcomes_redacted_secrets :
    List.Forall₂ Action.Alike (actionsWith (.text "hunter2")) (actionsWith (.int 7)) ∧
      outcomes ⟨20, true⟩ [] (actionsWith (.text "hunter2")) =
        [.ok [],
          .ok [.record [("value", Record.redacted), ("rule", .text "eq"),
            ("event", .text "checked"), ("data", Record.redacted), ("request", .text "r-1"),
            ("level", .text "info"), ("logger", .text "app"), ("library", .text "ruleforge")]],
          .ok [.record [("event", .text "late"), ("data", Record.redacted),
            ("request", .text "r-1"), ("level", .text "warning"), ("logger", .text "other"),
            ("library", .text "ruleforge")]]] ∧
      outcomes ⟨20, true⟩ [] (actionsWith (.text "hunter2")) =
        outcomes ⟨20, true⟩ [] (actionsWith (.int 7)) ∧
      ∀ written, .ok written ∈ outcomes ⟨20, true⟩ [] (actionsWith (.text "hunter2")) →
        ∀ line ∈ written, ∃ r : Record, line = .record r ∧
          ∀ e ∈ r, e.1 ∈ Record.inputNames → e.2 = Record.redacted := by
  have halike := actionsWith_alike (.text "hunter2") (.int 7)
  obtain ⟨hsame, -, hhidden⟩ := outcomes_redacted ⟨20, true⟩ rfl .nil halike
  exact ⟨halike, rfl, hsame, hhidden⟩

end FieldRules.Log
