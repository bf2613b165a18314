import Mathlib.Data.List.Nodup
import Mathlib.Data.List.Perm.Basic
import FieldRules.Proofs.Compile.Top
import FieldRules.Proofs.Run.Fields

/-!
# A schema is its fields

The fields of a schema are compiled in one scope and run on one snapshot, and nothing else connects
them. So a schema can be taken apart into schemas of a single field each: it compiles when all of
them do (`compileSchema_eq_join`), it fails with the failure of the first that does not, and what it
makes of an input is what they make of it, put together in the order of the schema
(`execute_join`). The builders behind the rules do not matter for this; they may be any at all.

The depth limit is the one thing that a schema has before it has fields. Where there is no room for
a single level the empty schema fails, although it has no field that could
(`compileSchema_empty_tooDeep`).
-/

set_option autoImplicit false

namespace FieldRules

open Compiling

variable {env : CompileEnv} {autoTrim : Option Bool} {entries : Entries}
  {compiled : CompiledSchema} {data : Entries} {report : Report}

/-! ## Taking a schema apart -/

/-- The fields of several schemas as those of one. -/
def CompiledSchema.join (autoTrim : Bool) (parts : List CompiledSchema) : CompiledSchema :=
  { fields := parts.flatMap (·.fields), autoTrim }

/-- The entries are those of a mapping: no two of them have the same key. -/
def Entries.IsMapping (entries : Entries) : Prop :=
  entries.Pairwise fun a b => Value.sameKey a.1 b.1 = false

instance (entries : Entries) : Decidable entries.IsMapping :=
  inferInstanceAs (Decidable (List.Pairwise _ _))

section
variable {inner : Compiler} (h : inner.Restores) (scope : Scope) (whole : Entries)
  (s : Option Scope)
include h

/-- The first field is compiled as if it were a schema of its own. -/
theorem answer_fields_cons (e : Value × Value) (rest : Entries) :
    answer (Compiler.fields env inner scope (.map whole) (e :: rest)) s = (do
      let first ← answer (Compiler.fields env inner scope (.map [e]) [e]) s
      let others ← answer (Compiler.fields env inner scope (.map whole) rest) s
      return first ++ others) := by
  obtain ⟨key, spec⟩ := e
  cases key with
  | text name =>
    rw [Compiler.answer_fields_text h, Compiler.answer_fields_text h]
    cases answer (Compiler.chain env inner scope name spec) s with
    | error failure => rfl
    | ok chain => rfl
  -- A key that is no text fails, and the failure does not show the rest of the schema.
  | _ => rfl

theorem answer_fields (entries : Entries) :
    answer (Compiler.fields env inner scope (.map whole) entries) s =
      (entries.mapM fun e =>
        answer (Compiler.fields env inner scope (.map [e]) [e]) s).map List.flatten := by
  induction entries with
  | nil => rfl
  | cons e rest ih =>
    rw [answer_fields_cons h, ih, List.mapM_cons]
    cases answer (Compiler.fields env inner scope (.map [e]) [e]) s with
    | error failure => rfl
    | ok first =>
      rw [Except.ok_bind, Except.ok_bind]
      cases rest.mapM fun e => answer (Compiler.fields env inner scope (.map [e]) [e]) s with
      | error failure => rfl
      | ok others => rfl

end

/-- The join of schemas of one field is the schema of their fields. -/
theorem CompiledSchema.join_map (trim : Bool) (fields : List (List (String × Chain))) :
    CompiledSchema.join trim (fields.map fun fields => { fields, autoTrim := trim }) =
      { fields := fields.flatten, autoTrim := trim } := by
  unfold CompiledSchema.join
  rw [List.flatMap_map]
  congr 1
  exact List.flatMap_id'

/-- **A schema compiles to what its fields compile to.** The failure, if there is one, is that of
the first field that fails. -/
theorem compileSchema_eq_join (h : 1 ≤ env.limit) (entries : Entries) (autoTrim : Option Bool) :
    compileSchema env (.map entries) autoTrim =
      (entries.mapM fun e => compileSchema env (.map [e]) autoTrim).map
        (CompiledSchema.join (topScope autoTrim).autoTrim) := by
  simp only [compileSchema_map h, Except.mapM_map]
  rw [answer_fields (Compiler.belowTop_restores env)]
  cases entries.mapM fun e => answer (Compiler.fields env (.belowTop env) (topScope autoTrim)
      (.map [e]) [e]) (some (topScope autoTrim)) with
  | error failure => rfl
  | ok fields => exact congrArg Except.ok (CompiledSchema.join_map _ fields).symm

/-- Running the parts one by one. -/
theorem execute_join {trim : Bool} {parts : List CompiledSchema}
    (htrim : ∀ part ∈ parts, part.autoTrim = trim) (data : Entries) :
    (CompiledSchema.join trim parts).execute data =
      (parts.mapM (CompiledSchema.execute · data)).map Report.concat := by
  induction parts with
  | nil =>
    rw [CompiledSchema.execute_eq]
    exact runFields_nil _
  | cons part rest ih =>
    have hrest := ih fun p hp => htrim p (List.mem_cons_of_mem _ hp)
    have hsnap : (CompiledSchema.join trim (part :: rest)).snapshot data = part.snapshot data := by
      unfold CompiledSchema.snapshot
      rw [htrim part List.mem_cons_self]
      rfl
    have hsnap' : (CompiledSchema.join trim rest).snapshot data = part.snapshot data := by
      unfold CompiledSchema.snapshot
      rw [htrim part List.mem_cons_self]
      rfl
    rw [CompiledSchema.execute_eq, hsnap'] at hrest
    rw [CompiledSchema.execute_eq, hsnap, List.mapM_cons, CompiledSchema.execute_eq part]
    show runFields (part.fields ++ (CompiledSchema.join trim rest).fields) (part.snapshot data) = _
    rw [runFields_append, hrest]
    cases runFields part.fields (part.snapshot data) with
    | error fault => rfl
    | ok a =>
      cases rest.mapM (CompiledSchema.execute · data) with
      | error fault => rfl
      | ok reports => rfl

/-! ## Where the entries of a report come from -/

/-- The fields of a compiled schema are those of the schema, in its order. -/
theorem names_of_answer_fields {inner : Compiler} (h : inner.Restores) {scope : Scope}
    {schema : Value} {entries : Entries} {s : Option Scope} {fields : List (String × Chain)}
    (hf : answer (Compiler.fields env inner scope schema entries) s = .ok fields) :
    entries.map (·.1) = fields.map fun f => .text f.1 := by
  induction entries generalizing fields with
  | nil =>
    rw [Compiler.fields, answer_pure, Except.ok.injEq] at hf
    rw [← hf]
    rfl
  | cons e rest ih =>
    obtain ⟨key, spec⟩ := e
    cases key with
    | text name =>
      rw [Compiler.answer_fields_text h] at hf
      obtain ⟨chain, -, hf⟩ := Except.bind_eq_ok.mp hf
      obtain ⟨others, hothers, hf⟩ := Except.bind_eq_ok.mp hf
      rw [← Except.ok.inj hf, List.map_cons, List.map_cons, ih hothers]
    | _ => cases hf

theorem names_of_compileSchema (h : compileSchema env (.map entries) autoTrim = .ok compiled) :
    entries.map (·.1) = compiled.fields.map fun f => .text f.1 := by
  by_cases hl : 1 ≤ env.limit
  · rw [compileSchema_map hl] at h
    obtain ⟨fields, hf, rfl⟩ := Except.map_eq_ok.mp h
    exact names_of_answer_fields (Compiler.belowTop_restores env) hf
  · rw [compileSchema_map_of_limit_lt (by omega)] at h
    cases h

/-- A name is described by a schema just when its compiled form has a field of that name. -/
theorem mem_names_iff (h : compileSchema env (.map entries) autoTrim = .ok compiled)
    (name : String) :
    (∃ spec, (.text name, spec) ∈ entries) ↔ ∃ chain, (name, chain) ∈ compiled.fields := by
  have hnames := names_of_compileSchema h
  constructor
  · rintro ⟨spec, hm⟩
    have hmem : Value.text name ∈ compiled.fields.map fun f => .text f.1 := by
      rw [← hnames]
      exact List.mem_map_of_mem hm
    obtain ⟨f, hf, heq⟩ := List.mem_map.mp hmem
    rw [Value.text.injEq] at heq
    exact ⟨f.2, by rw [← heq]; exact hf⟩
  · rintro ⟨chain, hm⟩
    have hmem : Value.text name ∈ entries.map (·.1) := by
      rw [hnames]
      exact List.mem_map.mpr ⟨_, hm, rfl⟩
    obtain ⟨e, he, heq⟩ := List.mem_map.mp hmem
    exact ⟨e.2, by rw [← heq]; exact he⟩

/-- Different keys of a mapping that are texts are different texts. -/
theorem Entries.IsMapping.nodup (hm : entries.IsMapping) {names : List String}
    (h : entries.map (·.1) = names.map .text) : names.Nodup := by
  have hkeys : (entries.map (·.1)).Pairwise fun a b => Value.sameKey a b = false :=
    List.pairwise_map.mpr hm
  rw [h, List.pairwise_map] at hkeys
  refine hkeys.imp fun {a b} hab heq => ?_
  rw [heq] at hab
  simp [Value.sameKey, Value.equal?, Value.equalAtoms?, Value.worth?] at hab

/-- In the schema of a mapping each name has one chain. -/
theorem chain_unique (hm : entries.IsMapping)
    (h : compileSchema env (.map entries) autoTrim = .ok compiled) {name : String}
    {c d : Chain} (hc : (name, c) ∈ compiled.fields) (hd : (name, d) ∈ compiled.fields) :
    c = d := by
  have hdistinct : (compiled.fields.map (·.1)).Nodup :=
    hm.nodup (by rw [names_of_compileSchema h, List.map_map]; rfl)
  exact congrArg Prod.snd (List.inj_on_of_nodup_map hdistinct hc hd rfl)

/-- A report accounts for the fields of a schema: what it has is about them, a field has a value or
an error but not both, one that is present has either, and one that is absent has a value just when
its chain passes and wrote one. -/
structure Report.Accounts (report : Report) (entries : Entries) (compiled : CompiledSchema)
    (data : Entries) : Prop where
  described (name : String) (v : Value) :
    (name, v) ∈ report.output ∨ (name, v) ∈ report.errors → ∃ spec, (.text name, spec) ∈ entries
  disjoint (name : String) (v error : Value) :
    (name, v) ∈ report.output → (name, error) ∉ report.errors
  present (name : String) (spec : Value) :
    (.text name, spec) ∈ entries → data.hasKey name = true →
      (∃ v, (name, v) ∈ report.output) ∨ ∃ error, (name, error) ∈ report.errors
  absent (name : String) (chain : Chain) :
    (name, chain) ∈ compiled.fields → data.hasKey name = false →
      ((∃ v, (name, v) ∈ report.output) ↔
        ∃ o, runChain chain .null (compiled.snapshot data) false = .ok o ∧
          o.error = none ∧ o.written = true)

theorem CompiledSchema.isSome_get?_snapshot (schema : CompiledSchema) (data : Entries)
    (name : String) : ((schema.snapshot data).get? name).isSome = data.hasKey name := by
  rw [CompiledSchema.get?_snapshot]
  unfold Entries.hasKey
  cases schema.autoTrim with
  | true => exact Option.isSome_map ..
  | false => rfl

theorem accounts_of_execute (hm : entries.IsMapping)
    (hc : compileSchema env (.map entries) autoTrim = .ok compiled)
    (he : compiled.execute data = .ok report) : report.Accounts entries compiled data := by
  rw [CompiledSchema.execute_eq] at he
  constructor
  case described =>
    intro name v h
    rw [mem_names_iff hc]
    rcases h with h | h
    · obtain ⟨chain, o, hf, -⟩ := (mem_output_iff he).mp h
      exact ⟨chain, hf⟩
    · obtain ⟨chain, o, hf, -⟩ := (mem_errors_iff he).mp h
      exact ⟨chain, hf⟩
  case disjoint =>
    intro name v error hv herror
    obtain ⟨c, o, hcf, ho, hnone, -⟩ := (mem_output_iff he).mp hv
    obtain ⟨d, o', hdf, ho', hsome⟩ := (mem_errors_iff he).mp herror
    rw [chain_unique hm hc hcf hdf, ho', Except.ok.injEq] at ho
    rw [ho, hnone] at hsome
    cases hsome
  case present =>
    intro name spec hspec hkey
    obtain ⟨chain, hf⟩ := (mem_names_iff hc name).mp ⟨spec, hspec⟩
    obtain ⟨o, ho⟩ := runField_of_mem he hf
    cases hoe : o.error with
    | some error => exact Or.inr ⟨error, (mem_errors_iff he).mpr ⟨chain, o, hf, ho, hoe⟩⟩
    | none =>
      refine Or.inl ⟨o.value, (mem_output_iff he).mpr ⟨chain, o, hf, ho, hoe, Or.inr ?_, rfl⟩⟩
      rw [CompiledSchema.isSome_get?_snapshot, hkey]
  case absent =>
    intro name chain hf hkey
    have hnone : ((compiled.snapshot data).get? name).isSome = false := by
      rw [CompiledSchema.isSome_get?_snapshot, hkey]
    have hrun : runField chain name (compiled.snapshot data) =
        runChain chain .null (compiled.snapshot data) false := by
      unfold runField
      rw [Option.isSome_eq_false_iff, Option.isNone_iff_eq_none] at hnone
      rw [hnone]
      rfl
    constructor
    · rintro ⟨v, hv⟩
      obtain ⟨d, o, hdf, ho, hoe, hor, -⟩ := (mem_output_iff he).mp hv
      rw [← chain_unique hm hc hf hdf, hrun] at ho
      refine ⟨o, ho, hoe, ?_⟩
      rw [hnone] at hor
      exact hor.resolve_right (by simp)
    · rintro ⟨o, ho, hoe, hw⟩
      exact ⟨o.value, (mem_output_iff he).mpr ⟨chain, o, hf, by rw [hrun]; exact ho, hoe,
        Or.inl hw, rfl⟩⟩

/-! ## The parts of a compiled schema -/

theorem limit_of_compileSchema (h : compileSchema env (.map entries) autoTrim = .ok compiled) :
    1 ≤ env.limit := by
  by_contra hl
  rw [compileSchema_map_of_limit_lt (by omega)] at h
  cases h

/-- The single fields of a schema that compiles, and the schema as their join. -/
theorem exists_parts (h : compileSchema env (.map entries) autoTrim = .ok compiled) :
    ∃ parts : List CompiledSchema,
      List.Forall₂ (fun e part => compileSchema env (.map [e]) autoTrim = .ok part) entries parts ∧
      compiled = .join (topScope autoTrim).autoTrim parts := by
  rw [compileSchema_eq_join (limit_of_compileSchema h)] at h
  obtain ⟨parts, hparts, rfl⟩ := Except.map_eq_ok.mp h
  exact ⟨parts, Except.mapM_eq_ok.mp hparts, rfl⟩

theorem compileSchema_of_parts (hl : 1 ≤ env.limit) {parts : List CompiledSchema}
    (h : List.Forall₂ (fun e part => compileSchema env (.map [e]) autoTrim = .ok part)
      entries parts) :
    compileSchema env (.map entries) autoTrim =
      .ok (.join (topScope autoTrim).autoTrim parts) := by
  rw [compileSchema_eq_join hl, Except.mapM_eq_ok.mpr h]
  rfl

theorem autoTrim_of_parts {parts : List CompiledSchema}
    (h : List.Forall₂ (fun e part => compileSchema env (.map [e]) autoTrim = .ok part)
      entries parts) :
    ∀ part ∈ parts, part.autoTrim = (topScope autoTrim).autoTrim := by
  induction h with
  | nil => exact fun part hp => absurd hp (by simp)
  | cons hpart _ ih =>
    intro part hp
    rcases List.mem_cons.mp hp with rfl | hp
    · exact autoTrim_of_compileSchema hpart
    · exact ih part hp

/-- Another order of the fields is another order of the entries. -/
theorem execute_perm {parts parts' : List CompiledSchema} (hp : parts'.Perm parts) {trim : Bool}
    (htrim : ∀ part ∈ parts, part.autoTrim = trim)
    (h : (CompiledSchema.join trim parts).execute data = .ok report) :
    ∃ report', (CompiledSchema.join trim parts').execute data = .ok report' ∧
      report'.output.Perm report.output ∧ report'.errors.Perm report.errors := by
  rw [execute_join htrim] at h
  obtain ⟨reports, hreports, rfl⟩ := Except.map_eq_ok.mp h
  obtain ⟨reports', hreports', hperm⟩ :=
    List.perm_comp_forall₂ hp (Except.mapM_eq_ok.mp hreports)
  refine ⟨.concat reports', ?_, hperm.flatMap_right _, hperm.flatMap_right _⟩
  rw [execute_join fun part hpart => htrim part (hp.mem_iff.mp hpart),
    Except.mapM_eq_ok.mpr hreports']
  rfl

/-! ## The whole -/

/-- **A schema is the schemas of its fields, one after the other**: it compiles when they do, fails
as the first of them that fails, and runs as they run. What its reports hold is accounted for by its
fields, and their order is the order of the entries and nothing else. The empty schema has no field
that could fail, but there has to be room for it. -/
theorem compileSchema_decomposes (env : CompileEnv) (autoTrim : Option Bool) (entries : Entries)
    (hm : entries.IsMapping) :
    ((∃ compiled, compileSchema env (.map entries) autoTrim = .ok compiled) ↔
      (entries = [] → 1 ≤ env.limit) ∧
        ∀ e ∈ entries, ∃ part, compileSchema env (.map [e]) autoTrim = .ok part) ∧
    (entries ≠ [] → ∀ failure, compileSchema env (.map entries) autoTrim = .error failure ↔
      ∃ before e after, entries = before ++ e :: after ∧
        (∀ e' ∈ before, ∃ part, compileSchema env (.map [e']) autoTrim = .ok part) ∧
        compileSchema env (.map [e]) autoTrim = .error failure) ∧
    (∀ compiled, compileSchema env (.map entries) autoTrim = .ok compiled →
      (∃ parts : List CompiledSchema,
        List.Forall₂ (fun e part => compileSchema env (.map [e]) autoTrim = .ok part)
          entries parts ∧
        ∀ data, compiled.execute data =
          (parts.mapM (CompiledSchema.execute · data)).map Report.concat) ∧
      (∀ data report, compiled.execute data = .ok report →
        report.Accounts entries compiled data) ∧
      ∀ entries', entries'.Perm entries →
        ∃ compiled', compileSchema env (.map entries') autoTrim = .ok compiled' ∧
          ∀ data report, compiled.execute data = .ok report →
            ∃ report', compiled'.execute data = .ok report' ∧
              report'.output.Perm report.output ∧ report'.errors.Perm report.errors) := by
  refine ⟨?_, ?_, ?_⟩
  · by_cases hl : 1 ≤ env.limit
    · rw [compileSchema_eq_join hl, ← Except.exists_mapM_eq_ok_iff]
      constructor
      · rintro ⟨compiled, h⟩
        obtain ⟨parts, hparts, -⟩ := Except.map_eq_ok.mp h
        exact ⟨fun _ => hl, parts, hparts⟩
      · rintro ⟨-, parts, hparts⟩
        exact ⟨_, Except.map_eq_ok.mpr ⟨parts, hparts, rfl⟩⟩
    · constructor
      · rintro ⟨compiled, h⟩
        exact absurd (limit_of_compileSchema h) hl
      · rintro ⟨hempty, hall⟩
        cases entries with
        | nil => exact absurd (hempty rfl) hl
        | cons e rest =>
          obtain ⟨part, hpart⟩ := hall e List.mem_cons_self
          exact absurd (limit_of_compileSchema hpart) hl
  · intro hne failure
    -- Below the limit the first field already fails for want of depth, as the whole schema does.
    by_cases hl : 1 ≤ env.limit
    · rw [compileSchema_eq_join hl, Except.map_eq_error, Except.mapM_eq_error]
    · have hlt : env.limit < 1 := by omega
      simp only [compileSchema_map_of_limit_lt hlt]
      constructor
      · intro h
        obtain ⟨e, rest, rfl⟩ := List.exists_cons_of_ne_nil hne
        exact ⟨[], e, rest, rfl, fun _ he => absurd he (by simp), h⟩
      · rintro ⟨before, e, after, -, -, h⟩
        exact h
  · intro compiled hc
    obtain ⟨parts, hparts, rfl⟩ := exists_parts hc
    have htrim := autoTrim_of_parts hparts
    refine ⟨⟨parts, hparts, fun data => execute_join htrim data⟩,
      fun data report he => accounts_of_execute hm hc he, fun entries' hperm => ?_⟩
    obtain ⟨parts', hparts', hperm'⟩ := List.perm_comp_forall₂ hperm hparts
    exact ⟨_, compileSchema_of_parts (limit_of_compileSchema hc) hparts',
      fun data report he => execute_perm hperm' htrim he⟩

/-- The schema of a form in which a password is typed twice. -/
def passwordForm : Entries :=
  [(.text "password", .list [.text "required", .map [(.text "min_length", .int 8)]]),
    (.text "again", .map [(.text "equal_to_field", .text "password")]),
    (.text "hint", .list [.text "to_uc", .map [(.text "default", .text "NONE")]])]

theorem compileSchema_decomposes_passwordForm :
    passwordForm.IsMapping ∧
      ∃ compiled,
        compileSchema { registry := .ofBuiltins, limit := 20 } (.map passwordForm) (some true) =
          .ok compiled ∧
        ∃ parts : List CompiledSchema, parts.length = 3 ∧
          ∀ data, compiled.execute data =
            (parts.mapM (CompiledSchema.execute · data)).map Report.concat := by
  have hm : passwordForm.IsMapping := by decide +kernel
  obtain ⟨compiled, hc⟩ : ∃ compiled, compileSchema { registry := .ofBuiltins, limit := 20 }
      (.map passwordForm) (some true) = .ok compiled := ⟨_, rfl⟩
  obtain ⟨-, -, hruns⟩ := compileSchema_decomposes { registry := .ofBuiltins, limit := 20 }
    (some true) passwordForm hm
  obtain ⟨⟨parts, hparts, hexecute⟩, -⟩ := hruns compiled hc
  exact ⟨hm, compiled, hc, parts, hparts.length_eq.symm, hexecute⟩

/-- The empty schema does not compile where there is no room for it, although all of its fields
do. -/
theorem compileSchema_empty_tooDeep :
    ¬ ((∃ compiled, compileSchema { registry := .ofBuiltins, limit := 0 } (.map []) none =
          .ok compiled) ↔
        ∀ e ∈ ([] : Entries), ∃ part,
          compileSchema { registry := .ofBuiltins, limit := 0 } (.map [e]) none = .ok part) := by
  intro h
  obtain ⟨compiled, hc⟩ := h.mpr fun e he => absurd he (by simp)
  exact absurd (limit_of_compileSchema hc) (by decide)

end FieldRules
