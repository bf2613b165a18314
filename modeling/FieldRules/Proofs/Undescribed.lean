import FieldRules.Proofs.Catalogue
import FieldRules.Proofs.Run.Fields
import FieldRules.Proofs.Run.Items
import FieldRules.Proofs.Value.Equality

/-!
# Keys that a schema does not describe

A schema looks at the keys that it has fields for, and at those that it compares them with. What
else is in a mapping that it validates cannot be seen from outside. This is said here for schemas in
which objects are validated in the plainest way, by themselves or as the items of a list
(`ObjectShaped`), and it holds at every depth: inputs that agree on what is described have the same
report, and nothing that is not described comes through to the output (`execute_described`).

What makes it work is that an object is never handed on as it is. The presence rules in front of it
only ask whether there is something, a comparison with it comes out the same whatever is in it, and
the rule that validates it writes a mapping of its own.
-/

set_option autoImplicit false

namespace FieldRules

/-! ## The schemas -/

/-- A rule that asks only whether there is something of the right kind. -/
def Builtin.isPresence : Builtin → Bool
  | required | notEmpty | anyObject => true
  | _ => false

/-- The invocation of a presence rule. -/
def Invocation.IsPresence (invocation : Invocation) : Prop :=
  ∃ rule : Builtin, rule.isPresence = true ∧ invocation.name = rule.name

/-- The invocation comes last in a spec, after presence rules. -/
def Invocation.Ends (last : Invocation) (spec : Value) : Prop :=
  ∃ presence, Invocation.ofSpec spec = .ok (presence ++ [last]) ∧ ∀ p ∈ presence, p.IsPresence

/-- The rule that validates a value as an object of a schema. -/
def asObject (schema : Value) : Invocation := ⟨Builtin.nestedObject.name, [schema]⟩

/-- The rule that validates the items of a value as objects of a schema. -/
def asObjects (schema : Value) : Invocation := ⟨Builtin.listOfObjects.name, [schema]⟩

theorem asObject_name (schema : Value) : (asObject schema).name = Builtin.nestedObject.name := rfl

theorem asObjects_name (schema : Value) : (asObjects schema).name = Builtin.listOfObjects.name :=
  rfl

mutual

/-- A schema in which every field has presence rules and then one rule, which is not structural or
validates an object, or the items of a list as objects, by a schema of the same shape. -/
inductive ObjectShaped : Value → Prop
  | intro {entries : Entries} : (∀ e ∈ entries, FieldShaped e.2) → ObjectShaped (.map entries)

/-- A spec of a field in such a schema. -/
inductive FieldShaped : Value → Prop
  | plain {spec : Value} {last : Invocation} {rule : Builtin} :
    last.Ends spec → last.name = rule.name → rule.isStructural = false → FieldShaped spec
  | object {spec schema : Value} :
    (asObject schema).Ends spec → ObjectShaped schema → FieldShaped spec
  | objects {spec schema : Value} :
    (asObjects schema).Ends spec → ObjectShaped schema → FieldShaped spec

end

/-! ## Inputs that agree, and outputs that are described -/

/-- A field of a schema is compared with the key. -/
def Compared (entries : Entries) (key : String) : Prop :=
  ∃ name spec, (.text name, spec) ∈ entries ∧
    (⟨Builtin.equalToField.name, [.text key]⟩ : Invocation).IsIn spec

mutual

/-- Two values agree as objects of a schema: they are the same, or mappings that agree on what the
schema describes. Under the name of each field both have a value or neither has, and these agree;
under each other key that fields are compared with there is the same. -/
inductive AgreeAs : Value → Value → Value → Prop
  | refl (schema v : Value) : AgreeAs schema v v
  | map {entries a b : Entries} :
    (∀ name spec, (.text name, spec) ∈ entries → (a.get? name).isSome = (b.get? name).isSome) →
    (∀ name spec, (.text name, spec) ∈ entries →
      AgreeUnder spec ((a.get? name).getD .null) ((b.get? name).getD .null)) →
    (∀ key, Compared entries key → (∀ spec, (.text key, spec) ∉ entries) →
      a.get? key = b.get? key) →
    AgreeAs (.map entries) (.map a) (.map b)

/-- Two values agree under a spec: they are the same, or agree as objects or as lists of objects, if
this is what the spec validates. -/
inductive AgreeUnder : Value → Value → Value → Prop
  | refl (spec v : Value) : AgreeUnder spec v v
  | object {spec schema v w : Value} :
    (asObject schema).IsIn spec → AgreeAs schema v w → AgreeUnder spec v w
  | list {spec schema : Value} {xs ys : List Value} :
    (asObjects schema).IsIn spec → xs.length = ys.length →
    (∀ x y, (x, y) ∈ xs.zip ys → AgreeAs schema x y) → AgreeUnder spec (.list xs) (.list ys)
  | tuple {spec schema : Value} {xs ys : List Value} :
    (asObjects schema).IsIn spec → xs.length = ys.length →
    (∀ x y, (x, y) ∈ xs.zip ys → AgreeAs schema x y) → AgreeUnder spec (.tuple xs) (.tuple ys)

end

mutual

/-- A mapping in which everything is described by a schema. -/
inductive Described : Value → Value → Prop
  | intro {entries output : Entries} :
    (∀ e ∈ output, DescribedEntry entries e) → Described (.map entries) (.map output)

/-- An entry under the name of a field, with a value that the spec of the field describes. -/
inductive DescribedEntry : Entries → Value × Value → Prop
  | intro {entries : Entries} {name : String} {spec v : Value} :
    (.text name, spec) ∈ entries → DescribedUnder spec v → DescribedEntry entries (.text name, v)

/-- A value that a spec describes. Where objects are validated, everything in them is described;
otherwise there are no objects to be described, and any value will do. -/
inductive DescribedUnder : Value → Value → Prop
  | missing {spec v : Value} : v.isMissing = true → DescribedUnder spec v
  | plain {spec v : Value} : (∀ schema, ¬ (asObject schema).IsIn spec) →
    (∀ schema, ¬ (asObjects schema).IsIn spec) → DescribedUnder spec v
  | object {spec schema v : Value} :
    (asObject schema).IsIn spec → Described schema v → DescribedUnder spec v
  | objects {spec schema : Value} {outputs : List Value} :
    (asObjects schema).IsIn spec → (∀ v ∈ outputs, Described schema v) →
    DescribedUnder spec (.list outputs)

end

/-! ## The rule that ends a spec -/

namespace Invocation

variable {last other : Invocation} {spec : Value}

theorem Ends.isIn (h : last.Ends spec) : last.IsIn spec := by
  obtain ⟨presence, hspec, -⟩ := h
  exact ⟨_, hspec, by simp⟩

/-- Before the last rule there are only presence rules. -/
theorem Ends.cases (h : last.Ends spec) (ho : other.IsIn spec) :
    other.IsPresence ∨ other = last := by
  obtain ⟨presence, hspec, hp⟩ := h
  obtain ⟨invocations, hother, hm⟩ := ho
  rw [hspec, Except.ok.injEq] at hother
  rw [← hother, List.mem_append, List.mem_singleton] at hm
  exact hm.imp_left (hp other)

theorem not_isPresence {rule : Builtin} {args : List Value} (h : rule.isPresence = false) :
    ¬ IsPresence ⟨rule.name, args⟩ := by
  rintro ⟨presence, hp, hname⟩
  rw [← Builtin.name_injective hname, h] at hp
  exact nomatch hp

/-- A rule of the spec that is no presence rule is the last one. -/
theorem Ends.eq_of_isIn (h : last.Ends spec) {rule : Builtin} (hrule : rule.isPresence = false)
    {args : List Value} (ho : IsIn ⟨rule.name, args⟩ spec) : last = ⟨rule.name, args⟩ :=
  ((h.cases ho).resolve_left (not_isPresence hrule)).symm

/-- A spec that ends in a rule under one name has no other rule that is no presence rule. -/
theorem Ends.not_isIn (h : last.Ends spec) {other : Builtin} (hname : last.name = other.name)
    {rule : Builtin} (hrule : rule.isPresence = false) (hne : rule ≠ other) (args : List Value) :
    ¬ IsIn ⟨rule.name, args⟩ spec := by
  intro ho
  rw [h.eq_of_isIn hrule ho] at hname
  exact hne (Builtin.name_injective hname)

end Invocation

/-! ## Values that agree -/

section
variable {spec schema v w : Value}

/-- Values that agree are the same or of the same kind. -/
theorem AgreeAs.cases (h : AgreeAs schema v w) : v = w ∨ ∃ a b, v = .map a ∧ w = .map b := by
  cases h with
  | refl => exact Or.inl rfl
  | map _ _ _ => exact Or.inr ⟨_, _, rfl, rfl⟩

theorem AgreeUnder.cases (h : AgreeUnder spec v w) :
    v = w ∨ (∃ a b, v = .map a ∧ w = .map b) ∨ (∃ xs ys, v = .list xs ∧ w = .list ys) ∨
      ∃ xs ys, v = .tuple xs ∧ w = .tuple ys := by
  cases h with
  | refl => exact Or.inl rfl
  | object _ h => exact h.cases.imp_right Or.inl
  | list _ _ _ => exact Or.inr (Or.inr (Or.inl ⟨_, _, rfl, rfl⟩))
  | tuple _ _ _ => exact Or.inr (Or.inr (Or.inr ⟨_, _, rfl, rfl⟩))

theorem AgreeUnder.isMissing (h : AgreeUnder spec v w) : v.isMissing = w.isMissing := by
  rcases h.cases with rfl | ⟨_, _, rfl, rfl⟩ | ⟨_, _, rfl, rfl⟩ | ⟨_, _, rfl, rfl⟩
  all_goals rfl

/-- A value that is missing agrees only with itself. -/
theorem AgreeUnder.eq_of_isMissing (h : AgreeUnder spec v w) (hm : v.isMissing = true) : v = w := by
  rcases h.cases with rfl | ⟨_, _, rfl, rfl⟩ | ⟨_, _, rfl, rfl⟩ | ⟨_, _, rfl, rfl⟩
  · rfl
  all_goals exact nomatch hm

theorem AgreeUnder.trimmed (h : AgreeUnder spec v w) : AgreeUnder spec v.trimmed w.trimmed := by
  have hcases := h.cases
  rcases hcases with rfl | ⟨_, _, rfl, rfl⟩ | ⟨_, _, rfl, rfl⟩ | ⟨_, _, rfl, rfl⟩
  · exact .refl _ _
  -- Only texts are trimmed.
  all_goals exact h

/-- A primitive value is equal to both of two values that agree, or to neither. -/
theorem AgreeUnder.equal (h : AgreeUnder spec v w) {u : Value} (hp : u.isPrimitive = true) :
    u.equal v = u.equal w := by
  have hcases := h.cases
  rcases hcases with rfl | ⟨_, _, rfl, rfl⟩ | ⟨_, _, rfl, rfl⟩ | ⟨_, _, rfl, rfl⟩
  · rfl
  · rw [Value.equal, Value.equal, Value.equal?_of_container hp (Or.inr rfl),
      Value.equal?_of_container hp (Or.inr rfl)]
  all_goals rw [Value.equal, Value.equal, Value.equal?_of_container hp (Or.inl rfl),
    Value.equal?_of_container hp (Or.inl rfl)]

/-- Where no object is validated, values agree only if they are the same. -/
theorem AgreeUnder.eq (h : AgreeUnder spec v w) (ho : ∀ schema, ¬ (asObject schema).IsIn spec)
    (hs : ∀ schema, ¬ (asObjects schema).IsIn spec) : v = w := by
  cases h with
  | refl => rfl
  | object hin _ => exact absurd hin (ho _)
  | list hin _ _ => exact absurd hin (hs _)
  | tuple hin _ _ => exact absurd hin (hs _)

theorem AgreeUnder.agreeAs (h : AgreeUnder spec v w) (he : (asObject schema).Ends spec) :
    AgreeAs schema v w := by
  cases h with
  | refl => exact .refl _ _
  | object hin h =>
    cases he.eq_of_isIn rfl hin
    exact h
  | list hin _ _ => exact absurd hin (he.not_isIn (asObject_name _) rfl (by decide) _)
  | tuple hin _ _ => exact absurd hin (he.not_isIn (asObject_name _) rfl (by decide) _)

/-- Where the items are validated as objects, values that agree have items that agree one by one. -/
theorem AgreeUnder.items (h : AgreeUnder spec v w) (he : (asObjects schema).Ends spec) :
    v = w ∨ ∃ xs ys, v.items? = some xs ∧ w.items? = some ys ∧
      List.Forall₂ (AgreeAs schema) xs ys := by
  cases h with
  | refl => exact Or.inl rfl
  | object hin _ => exact absurd hin (he.not_isIn (asObjects_name _) rfl (by decide) _)
  | list hin hlen h =>
    cases he.eq_of_isIn rfl hin
    exact Or.inr ⟨_, _, rfl, rfl, List.forall₂_iff_zip.mpr ⟨hlen, h _ _⟩⟩
  | tuple hin hlen h =>
    cases he.eq_of_isIn rfl hin
    exact Or.inr ⟨_, _, rfl, rfl, List.forall₂_iff_zip.mpr ⟨hlen, h _ _⟩⟩

end

/-- What the fields of a schema see of two inputs agrees. -/
structure Entries.AgreeOn (entries a b : Entries) : Prop where
  present (name : String) (spec : Value) :
    (.text name, spec) ∈ entries → (a.get? name).isSome = (b.get? name).isSome
  value (name : String) (spec : Value) : (.text name, spec) ∈ entries →
    AgreeUnder spec ((a.get? name).getD .null) ((b.get? name).getD .null)
  compared (key : String) : Compared entries key → (∀ spec, (.text key, spec) ∉ entries) →
    a.get? key = b.get? key

section
variable {entries a b : Entries}

theorem AgreeAs.agreeOn (h : AgreeAs (.map entries) (.map a) (.map b)) : entries.AgreeOn a b := by
  cases h with
  | refl => exact ⟨fun _ _ _ => rfl, fun _ _ _ => .refl _ _, fun _ _ _ => rfl⟩
  | map hpresent hvalue hcompared => exact ⟨hpresent, hvalue, hcompared⟩

theorem Entries.AgreeOn.trimmed (h : entries.AgreeOn a b) :
    entries.AgreeOn a.trimmed b.trimmed where
  present name spec hm := by
    rw [get?_trimmed, get?_trimmed, Option.isSome_map, Option.isSome_map]
    exact h.present name spec hm
  value name spec hm := by
    have hnull : ∀ o : Option Value, (o.map Value.trimmed).getD .null = (o.getD .null).trimmed := by
      intro o
      cases o <;> rfl
    rw [get?_trimmed, get?_trimmed, hnull, hnull]
    exact (h.value name spec hm).trimmed
  compared key hkey hm := by
    rw [get?_trimmed, get?_trimmed, h.compared key hkey hm]

/-- Whatever a field is compared with, the comparison comes out the same. -/
theorem Entries.AgreeOn.equal (h : entries.AgreeOn a b) {key : String}
    (hkey : Compared entries key) {u : Value} (hp : u.isPrimitive = true) :
    u.equal ((a.get? key).getD .null) = u.equal ((b.get? key).getD .null) := by
  by_cases hm : ∃ spec, (.text key, spec) ∈ entries
  · obtain ⟨spec, hm⟩ := hm
    exact (h.value key spec hm).equal hp
  · rw [h.compared key hkey (not_exists.mp hm)]

end

/-! ## What is compiled from such a schema -/

/-- A check that asks only whether there is something of the right kind, or trims. -/
inductive Check.IsPresence : Check → Prop
  | autoTrim : IsPresence .autoTrim
  | required : IsPresence (.leaf .required)
  | notEmpty : IsPresence (.leaf .notEmpty)
  | anyObject : IsPresence (.leaf .anyObject)

theorem Builtin.isPresence_of_yields {c : Compilation} {rule : Builtin} {args : List Value}
    {check : Check} (hrule : rule.isPresence = true) (h : (rule.recipe args).Yields c check) :
    check.IsPresence := by
  cases rule with
  | required =>
    cases args with
    | nil =>
      rw [Recipe.Yields.of_ready h]
      exact .required
    | cons _ _ => exact nomatch h
  | notEmpty =>
    cases args with
    | nil =>
      rw [Recipe.Yields.of_ready h]
      exact .notEmpty
    | cons _ _ => exact nomatch h
  | anyObject =>
    cases args with
    | nil =>
      rw [Recipe.Yields.of_ready h]
      exact .anyObject
    | cons _ _ => exact nomatch h
  | _ => exact nomatch hrule

/-- The schema has the same report for inputs that agree, and puts out only what is described. -/
structure CompiledSchema.Follows (compiled : CompiledSchema) (schema : Value) : Prop where
  execute_eq (a b : Entries) :
    AgreeAs schema (.map a) (.map b) → compiled.execute a = compiled.execute b
  described (a : Entries) (report : Report) :
    compiled.execute a = .ok report → Described schema report.outputValue

/-- The check of the rule that ends a spec. -/
inductive Check.Ends (spec : Value) : Check → Prop
  | leaf {leaf : Leaf} :
    (∀ schema, ¬ (asObject schema).IsIn spec) → (∀ schema, ¬ (asObjects schema).IsIn spec) →
    (∀ key, leaf = .equalTo key →
      (⟨Builtin.equalToField.name, [.text key]⟩ : Invocation).IsIn spec) →
    Ends spec (.leaf leaf)
  | object {schema : Value} {compiled : CompiledSchema} :
    (asObject schema).Ends spec → compiled.Follows schema → Ends spec (.object compiled)
  | objects {schema : Value} {compiled : CompiledSchema} :
    (asObjects schema).Ends spec → compiled.Follows schema → Ends spec (.eachObject compiled)

section
variable {r : Registry} {c : Compilation} {autoTrim : Bool} {spec : Value} {chain : Chain}

/-- The chain of a spec: checks that ask only whether there is something, and the check of the rule
that ends the spec. -/
theorem Registry.Extends.split_of_ends (hr : r.Extends Builder.IsAlias) {last : Invocation}
    (he : last.Ends spec) (hc : c.MakesChain r autoTrim spec chain) :
    ∃ before step, chain = before ++ [step] ∧ (∀ s ∈ before, s.check.IsPresence) ∧
      c.MakesStep r last step := by
  obtain ⟨presence, hspec, hp⟩ := he
  obtain ⟨invocations, steps, hinvocations, hsteps, rfl⟩ := hc
  rw [hspec, Except.ok.injEq] at hinvocations
  rw [← hinvocations] at hsteps
  obtain ⟨before, rest, rfl, hbefore, hrest⟩ := hsteps.split
  obtain ⟨step, nothing, hstep, hnothing, rfl⟩ := List.forall₂_cons_left_iff.mp hrest
  rw [List.forall₂_nil_left_iff.mp hnothing]
  refine ⟨withTrim autoTrim before, step, withTrim_append autoTrim before [step], ?_, hstep⟩
  intro s hs
  rcases mem_withTrim hs with rfl | hs
  · exact .autoTrim
  · obtain ⟨invocation, hi, hmakes⟩ := hbefore.exists_of_mem_right hs
    obtain ⟨rule, hrule, hname⟩ := hp invocation hi
    exact Builtin.isPresence_of_yields hrule (hr.yields_of_name hname hmakes)

/-- **The chain of a field** in such a schema ends with a check of one of three kinds. -/
theorem Registry.Extends.chain_of_fieldShaped (hr : r.Extends Builder.IsAlias)
    (hshape : FieldShaped spec)
    (ih : ∀ schema compiled, c.schema schema compiled → ObjectShaped schema →
      compiled.Follows schema)
    (hc : c.MakesChain r autoTrim spec chain) :
    ∃ before step, chain = before ++ [step] ∧ (∀ s ∈ before, s.check.IsPresence) ∧
      step.check.Ends spec := by
  cases hshape with
  | plain he hname hrule =>
    obtain ⟨before, step, hchain, hbefore, hstep⟩ := hr.split_of_ends he hc
    refine ⟨before, step, hchain, hbefore, ?_⟩
    have hyields := hr.yields_of_name hname hstep
    obtain ⟨leaf, hleaf⟩ := Builtin.leaf_of_yields hrule hyields
    have hmakes := Builtin.makes hyields
    rw [hleaf] at hmakes ⊢
    refine .leaf (fun schema => he.not_isIn hname rfl ?_ _)
      (fun schema => he.not_isIn hname rfl ?_ _) fun key hkey => ?_
    · rintro rfl
      exact nomatch hrule
    · rintro rfl
      exact nomatch hrule
    · -- A comparison with another field is made only by the rule that has that name.
      cases hmakes with
      | leaf hequal =>
        obtain ⟨hb, hargs⟩ := hequal key hkey
        cases hb
        rw [← hname, ← hargs]
        exact he.isIn
  | object he hschema =>
    obtain ⟨before, step, hchain, hbefore, hstep⟩ := hr.split_of_ends he hc
    refine ⟨before, step, hchain, hbefore, ?_⟩
    have hyields := hr.yields_of_name (asObject_name _) hstep
    obtain ⟨compiled, hcompiled, hyields⟩ := Recipe.Yields.of_onSchema hyields
    rw [Recipe.Yields.of_ready hyields]
    exact .object he (ih _ compiled hcompiled hschema)
  | objects he hschema =>
    obtain ⟨before, step, hchain, hbefore, hstep⟩ := hr.split_of_ends he hc
    refine ⟨before, step, hchain, hbefore, ?_⟩
    have hyields := hr.yields_of_name (asObjects_name _) hstep
    obtain ⟨compiled, hcompiled, hyields⟩ := Recipe.Yields.of_onSchema hyields
    rw [Recipe.Yields.of_ready hyields]
    exact .objects he (ih _ compiled hcompiled hschema)

end

/-! ## Runs with values that agree -/

section
variable {spec v w : Value} {a b : Entries} {check : Check}

/-- The comparisons that a spec makes come out the same among both siblings. -/
def ComparesAlike (spec : Value) (a b : Entries) : Prop :=
  ∀ key, (⟨Builtin.equalToField.name, [.text key]⟩ : Invocation).IsIn spec →
    ∀ u : Value, u.isPrimitive = true →
      u.equal ((a.get? key).getD .null) = u.equal ((b.get? key).getD .null)

namespace Check

/-- A presence rule does not look inside of a value. -/
theorem IsPresence.run_eq (h : check.IsPresence) (hvw : AgreeUnder spec v w) :
    check.run v a = check.run w b := by
  have hcases := hvw.cases
  rcases hcases with rfl | ⟨_, _, rfl, rfl⟩ | ⟨_, _, rfl, rfl⟩ | ⟨_, _, rfl, rfl⟩
  all_goals cases h <;> simp only [run] <;> rfl

end Check

variable {schema : Value} {compiled : CompiledSchema}

theorem CompiledSchema.Follows.checkObject_eq (hf : compiled.Follows schema)
    (h : AgreeAs schema v w) :
    checkObject compiled.execute v = checkObject compiled.execute w := by
  rcases h.cases with rfl | ⟨x, y, rfl, rfl⟩
  · rfl
  · show (compiled.execute x >>= _) = compiled.execute y >>= _
    rw [hf.execute_eq x y h]

theorem CompiledSchema.Follows.checkItems_eq (hf : compiled.Follows schema)
    (h : AgreeUnder spec v w) (he : (asObjects schema).Ends spec) :
    checkItems (checkObject compiled.execute) v = checkItems (checkObject compiled.execute) w := by
  rcases h.items he with rfl | ⟨xs, ys, hxs, hys, hitems⟩
  · rfl
  · have hmap :
        xs.mapM (checkObject compiled.execute) = ys.mapM (checkObject compiled.execute) := by
      clear hxs hys
      induction hitems with
      | nil => rfl
      | cons hxy _ ih => rw [List.mapM_cons, List.mapM_cons, ih, hf.checkObject_eq hxy]
    rw [checkItems, checkItems, h.isMissing, hxs, hys]
    simp only [hmap]

namespace Check

/-- **The rule that ends a spec has the same effect on values that agree.** -/
theorem Ends.run_eq (hc : check.Ends spec) (h : AgreeUnder spec v w)
    (hab : ComparesAlike spec a b) : check.run v a = check.run w b := by
  cases hc with
  | leaf ho hs hequal =>
    cases h.eq ho hs
    rw [run, run]
    exact Leaf.run_among (fun key hkey => hab key (hequal key hkey)) v
  | object he hf => rw [run, run, h.isMissing, hf.checkObject_eq (h.agreeAs he)]
  | objects he hf =>
    rw [run, run]
    exact hf.checkItems_eq h he

variable {effect : Effect}

/-- What it passes without writing is the same in both. -/
theorem Ends.eq_of_write_eq_none (hc : check.Ends spec) (h : AgreeUnder spec v w)
    (hrun : check.run v a = .ok effect) (hp : effect.error.truthy = false)
    (hw : effect.write = none) : v = w := by
  cases hc with
  | leaf ho hs _ => exact h.eq ho hs
  | object _ _ =>
    rcases run_object_of_passes hrun hp with ⟨hm, -⟩ | ⟨_, _, -, rfl⟩
    · exact h.eq_of_isMissing hm
    · exact nomatch hw
  | objects _ _ =>
    rcases run_eachObject_of_passes hrun hp with ⟨hm, -⟩ | ⟨_, rfl, -⟩
    · exact h.eq_of_isMissing hm
    · exact nomatch hw

/-- **What it passes is described by the spec.** -/
theorem Ends.described (hc : check.Ends spec) (hrun : check.run v a = .ok effect)
    (hp : effect.error.truthy = false) : DescribedUnder spec (effect.write.getD v) := by
  cases hc with
  | leaf ho hs _ => exact .plain ho hs
  | object he hf =>
    rcases run_object_of_passes hrun hp with ⟨hm, rfl⟩ | ⟨entries, report, hr, rfl⟩
    · exact .missing hm
    · exact .object he.isIn (hf.described entries report hr)
  | objects he hf =>
    rcases run_eachObject_of_passes hrun hp with ⟨hm, rfl⟩ | ⟨outputs, rfl, houtputs⟩
    · exact .missing hm
    · refine .objects he.isIn fun output ho => ?_
      obtain ⟨entries, report, hr, rfl⟩ := houtputs output ho
      exact hf.described entries report hr

end Check

/-! ### Chains -/

/-- A chain before its last rule came to the same in both runs. -/
structure Outcome.AgreeUnder (spec : Value) (o p : Outcome) : Prop where
  error : o.error = p.error
  written : o.written = p.written
  value : FieldRules.AgreeUnder spec o.value p.value

/-- A chain came to the same in both runs: an error, or a value. -/
structure Outcome.Same (o p : Outcome) : Prop where
  error : o.error = p.error
  written : o.written = p.written
  value : o.error = none → o.value = p.value

theorem runChain_agreeUnder {chain : Chain} (h : ∀ step ∈ chain, step.check.IsPresence)
    (hvw : AgreeUnder spec v w) (written : Bool) :
    Except.Alike (Outcome.AgreeUnder spec) (runChain chain v a written)
      (runChain chain w b written) := by
  induction chain generalizing v w written with
  | nil =>
    rw [runChain_nil, runChain_nil]
    exact .ok ⟨rfl, rfl, hvw⟩
  | cons step rest ih =>
    rw [runChain_cons, runChain_cons, (h step List.mem_cons_self).run_eq hvw]
    cases step.check.run w b with
    | error fault => exact .error fault
    | ok effect =>
      rw [Except.ok_bind, Except.ok_bind]
      split
      · exact .ok ⟨rfl, rfl, hvw⟩
      · refine ih (fun s hs => h s (List.mem_cons_of_mem _ hs)) ?_ _
        cases effect.write with
        | none => exact hvw
        | some u => exact .refl _ _

variable {before : Chain} {step : Step}

/-- **The chain of a field comes to the same for values that agree.** -/
theorem runChain_same (hbefore : ∀ s ∈ before, s.check.IsPresence) (hstep : step.check.Ends spec)
    (hvw : AgreeUnder spec v w) (hab : ComparesAlike spec a b) :
    Except.Alike Outcome.Same (runChain (before ++ [step]) v a false)
      (runChain (before ++ [step]) w b false) := by
  rw [runChain_append, runChain_append]
  refine (runChain_agreeUnder hbefore hvw false).bind fun o p hop => ?_
  rw [← hop.error]
  cases herror : o.error with
  | some error =>
    -- A presence rule failed, and the values, which may differ, are not put out.
    refine .ok ⟨hop.error, hop.written, fun hnone => ?_⟩
    rw [herror] at hnone
    exact nomatch hnone
  | none =>
    simp only
    rw [runChain_cons, runChain_cons, ← hstep.run_eq hop.value hab]
    cases hrun : step.check.run o.value a with
    | error fault => exact .error fault
    | ok effect =>
      rw [Except.ok_bind, Except.ok_bind]
      split
      · exact .ok ⟨rfl, hop.written, fun h => nomatch h⟩
      · rename_i hp
        rw [runChain_nil, runChain_nil, hop.written]
        -- The values that come out are what the last rule wrote, or were the same before it.
        refine .ok ⟨rfl, rfl, fun _ => ?_⟩
        cases hw : effect.write with
        | none => exact hstep.eq_of_write_eq_none hop.value hrun (Bool.eq_false_iff.mpr hp) hw
        | some u => rfl

/-- **The chain of a field passes on what its spec describes.** -/
theorem runChain_described (hstep : step.check.Ends spec) {o : Outcome}
    (hrun : runChain (before ++ [step]) v a false = .ok o) (herror : o.error = none) :
    DescribedUnder spec o.value := by
  rw [runChain_append] at hrun
  obtain ⟨p, -, hrun⟩ := Except.bind_eq_ok.mp hrun
  cases hp : p.error with
  | some error =>
    rw [hp, Except.ok.injEq] at hrun
    rw [← hrun, hp] at herror
    exact nomatch herror
  | none =>
    rw [hp] at hrun
    obtain ⟨effect, heffect, ⟨-, rfl⟩ | ⟨ht, hrest⟩⟩ := runChain_cons_eq_ok hrun
    · exact nomatch herror
    · rw [runChain_nil, Except.ok.injEq] at hrest
      rw [← hrest]
      exact hstep.described heffect ht

/-! ### Fields -/

theorem Report.withField_same (report : Report) (name : String) (present : Bool) {o p : Outcome}
    (h : o.Same p) : report.withField name present o = report.withField name present p := by
  unfold withField
  rw [← h.error, ← h.written]
  cases herror : o.error with
  | some error => rfl
  | none => simp only [h.value herror]

theorem runFields_eq {fields : List (String × Chain)}
    (h : ∀ f ∈ fields, (a.get? f.1).isSome = (b.get? f.1).isSome ∧
      Except.Alike Outcome.Same (runField f.2 f.1 a) (runField f.2 f.1 b)) :
    runFields fields a = runFields fields b := by
  induction fields with
  | nil => rw [runFields_nil, runFields_nil]
  | cons f rest ih =>
    obtain ⟨name, chain⟩ := f
    obtain ⟨hpresent, halike⟩ := h (name, chain) List.mem_cons_self
    rw [runFields_cons, runFields_cons, ih fun f hf => h f (List.mem_cons_of_mem _ hf), hpresent]
    generalize runField chain name a = x at halike
    generalize runField chain name b = y at halike
    cases halike with
    | error fault => rfl
    | ok hop =>
      rw [Except.ok_bind, Except.ok_bind]
      simp only [Report.withField_same _ name _ hop]

end

/-! ## Compiled schemas -/

/-- A schema whose fields end in checks of the three kinds follows what it was compiled from. -/
theorem CompiledSchema.follows_of_fields {entries : Entries} {compiled : CompiledSchema}
    (h : ∀ f ∈ compiled.fields, ∃ spec before step, (.text f.1, spec) ∈ entries ∧
      f.2 = before ++ [step] ∧ (∀ s ∈ before, s.check.IsPresence) ∧ step.check.Ends spec) :
    compiled.Follows (.map entries) where
  execute_eq a b hab := by
    have hsnap : entries.AgreeOn (compiled.snapshot a) (compiled.snapshot b) := by
      unfold snapshot
      split
      · exact hab.agreeOn.trimmed
      · exact hab.agreeOn
    rw [CompiledSchema.execute_eq, CompiledSchema.execute_eq]
    refine runFields_eq fun f hf => ?_
    obtain ⟨spec, before, step, hm, hchain, hbefore, hstep⟩ := h f hf
    refine ⟨hsnap.present f.1 spec hm, ?_⟩
    rw [runField, runField, hchain]
    refine runChain_same hbefore hstep (hsnap.value f.1 spec hm) fun key hkey u hp => ?_
    exact hsnap.equal ⟨f.1, spec, hm, hkey⟩ hp
  described a report hr := by
    rw [CompiledSchema.execute_eq] at hr
    refine .intro fun e he => ?_
    obtain ⟨e', he', rfl⟩ := List.mem_map.mp he
    obtain ⟨chain, o, hf, hrun, herror, -, hvalue⟩ := (mem_output_iff hr).mp he'
    obtain ⟨spec, before, step, hm, rfl, -, hstep⟩ := h _ hf
    rw [← hvalue]
    exact .intro hm (runChain_described hstep hrun herror)

/-- What is compiled from an object-shaped schema follows it. The induction is on the levels, since
the schemas of the objects inside are compiled one level below. -/
theorem follows_of_ofLevels {r : Registry} (hr : r.Extends Builder.IsAlias) (autoTrim : Bool)
    (n : Nat) (schema : Value) (compiled : CompiledSchema)
    (hc : (Compilation.ofLevels r autoTrim n).schema schema compiled) (hs : ObjectShaped schema) :
    compiled.Follows schema := by
  induction n generalizing schema compiled with
  | zero => exact hc.elim
  | succ n ih =>
    obtain ⟨entries, rfl, -, hfields⟩ := hc
    cases hs with
    | intro hs =>
      refine CompiledSchema.follows_of_fields fun f hf => ?_
      obtain ⟨⟨key, spec⟩, hm, hkey, hmakes⟩ := hfields.exists_of_mem_right hf
      obtain ⟨before, step, hchain, hbefore, hstep⟩ :=
        hr.chain_of_fieldShaped (hs (key, spec) hm) ih hmakes
      refine ⟨spec, before, step, ?_, hchain, hbefore, hstep⟩
      rw [← hkey]
      exact hm

/-- **What an object-shaped schema does not describe is invisible at every depth**: inputs that
agree on what it describes have the same report, or the same fault, and everything in the output is
described. -/
theorem execute_described {env : CompileEnv} (hr : env.registry.Extends Builder.IsAlias)
    {schema : Value} {autoTrim : Option Bool} {compiled : CompiledSchema}
    (hs : ObjectShaped schema) (hc : compileSchema env schema autoTrim = .ok compiled) :
    (∀ a b, AgreeAs schema (.map a) (.map b) → compiled.execute a = compiled.execute b) ∧
      ∀ a report, compiled.execute a = .ok report → Described schema report.outputValue := by
  rw [compileSchema_eq_ok_iff hr.plain_of_isAlias] at hc
  have hfollows := follows_of_ofLevels hr _ _ schema compiled hc hs
  exact ⟨hfollows.execute_eq, hfollows.described⟩

/-! ## An order with more in it than is asked for -/

/-- The fields of a customer. -/
def customer : Entries := [(.text "name", .text "required")]

/-- The fields of an item of an order. -/
def orderItem : Entries := [(.text "sku", .map [(.text "max_length", .int 8)])]

/-- The fields of an order by a customer, with items and a code that has to be repeated. -/
def order : Entries :=
  [(.text "customer", .list [.text "required", .map [(.text "nested_object", .map customer)]]),
    (.text "items", .map [(.text "list_of_objects", .map orderItem)]),
    (.text "again", .map [(.text "equal_to_field", .text "code")])]

/-- An order with some more entries in it, and in its customer and its item. -/
def orderWith (more customerMore itemMore : Entries) : Entries :=
  [(.text "customer", .map ((.text "name", .text "Ada") :: customerMore)),
    (.text "items", .list [.map ((.text "sku", .text "lamp") :: itemMore)]),
    (.text "again", .text "k"), (.text "code", .text "k")] ++ more

theorem objectShaped_order : ObjectShaped (.map order) := by
  have hrequired : ∀ p ∈ [(⟨"required", []⟩ : Invocation)], p.IsPresence := by
    intro p hp
    rw [List.mem_singleton.mp hp]
    exact ⟨.required, rfl, rfl⟩
  have hnone : ∀ p ∈ ([] : List Invocation), p.IsPresence := fun _ hp => nomatch hp
  refine .intro fun e he => ?_
  simp only [order, List.mem_cons, List.not_mem_nil, or_false] at he
  rcases he with rfl | rfl | rfl
  · refine .object ⟨_, rfl, hrequired⟩ (.intro fun e he => ?_)
    rw [List.mem_singleton.mp he]
    exact @FieldShaped.plain _ _ .required ⟨[], rfl, hnone⟩ rfl rfl
  · refine .objects ⟨[], rfl, hnone⟩ (.intro fun e he => ?_)
    rw [List.mem_singleton.mp he]
    exact @FieldShaped.plain _ _ .maxLength ⟨[], rfl, hnone⟩ rfl rfl
  · exact @FieldShaped.plain _ _ .equalToField ⟨[], rfl, hnone⟩ rfl rfl

/-- The value of a single field agrees with the same value with more behind it. -/
theorem agreeAs_single {name : String} {spec : Value} (v : Value) (more : Entries)
    (h : ∀ key, ¬ (⟨Builtin.equalToField.name, [.text key]⟩ : Invocation).IsIn spec) :
    AgreeAs (.map [(.text name, spec)]) (.map [(.text name, v)])
      (.map ((.text name, v) :: more)) := by
  have hget : ∀ rest, Entries.get? ((.text name, v) :: rest) name = some v := fun _ => if_pos rfl
  refine .map (fun other spec' hm => ?_) (fun other spec' hm => ?_) fun key hkey _ => ?_
  · cases List.mem_singleton.mp hm
    rw [hget, hget]
  · cases List.mem_singleton.mp hm
    rw [hget, hget]
    exact .refl _ _
  · obtain ⟨other, spec', hm, hin⟩ := hkey
    cases List.mem_singleton.mp hm
    exact absurd hin (h key)

/-- An order agrees with the same order with more in it. -/
theorem agreeAs_orderWith (more customerMore itemMore : Entries) :
    AgreeAs (.map order) (.map (orderWith [] [] []))
      (.map (orderWith more customerMore itemMore)) := by
  have hcustomer : AgreeAs (.map customer) (.map [(.text "name", .text "Ada")])
      (.map ((.text "name", .text "Ada") :: customerMore)) := by
    refine agreeAs_single _ _ ?_
    rintro key ⟨_, ⟨⟩, hin⟩
    exact absurd (List.mem_singleton.mp hin) (by simp)
  have hitem : AgreeAs (.map orderItem) (.map [(.text "sku", .text "lamp")])
      (.map ((.text "sku", .text "lamp") :: itemMore)) := by
    refine agreeAs_single _ _ ?_
    rintro key ⟨_, ⟨⟩, hin⟩
    exact absurd (List.mem_singleton.mp hin) (by simp [Builtin.name])
  refine .map (fun name spec hm => ?_) (fun name spec hm => ?_) fun key hkey _ => ?_
  · simp only [order, List.mem_cons, Prod.mk.injEq, List.not_mem_nil, or_false] at hm
    rcases hm with ⟨⟨⟩, -⟩ | ⟨⟨⟩, -⟩ | ⟨⟨⟩, -⟩ <;> rfl
  · simp only [order, List.mem_cons, Prod.mk.injEq, List.not_mem_nil, or_false] at hm
    rcases hm with ⟨⟨⟩, rfl⟩ | ⟨⟨⟩, rfl⟩ | ⟨⟨⟩, rfl⟩
    · exact .object ⟨_, rfl, by simp [asObject, Builtin.name, Value.items?]⟩ hcustomer
    · refine .list ⟨_, rfl, List.mem_singleton.mpr rfl⟩ rfl fun x y hxy => ?_
      cases List.mem_singleton.mp hxy
      exact hitem
    · exact .refl _ _
  · obtain ⟨name, spec, hm, invocations, hspec, hin⟩ := hkey
    simp only [order, List.mem_cons, Prod.mk.injEq, List.not_mem_nil, or_false] at hm
    rcases hm with ⟨⟨⟩, rfl⟩ | ⟨⟨⟩, rfl⟩ | ⟨⟨⟩, rfl⟩
    · cases hspec
      simp [Builtin.name] at hin
    · cases hspec
      simp [Builtin.name] at hin
    · cases hspec
      cases List.mem_singleton.mp hin
      rfl

theorem execute_described_order :
    ∃ compiled,
      Registry.ofBuiltins.Extends Builder.IsAlias ∧ ObjectShaped (.map order) ∧
      compileSchema { registry := .ofBuiltins, limit := 20 } (.map order) = .ok compiled ∧
      (compiled.execute (orderWith [] [] [])).map (·.output) = .ok
        [("customer", .map [(.text "name", .text "Ada")]),
          ("items", .list [.map [(.text "sku", .text "lamp")]]), ("again", .text "k")] ∧
      compiled.execute (orderWith [(.text "role", .text "root")] [(.text "admin", .bool true)]
        [(.text "price", .int 0)]) = compiled.execute (orderWith [] [] []) ∧
      ∀ a report, compiled.execute a = .ok report → Described (.map order) report.outputValue := by
  have hr := Registry.extends_ofBuiltins Builder.IsAlias
  obtain ⟨compiled, hc, houtput⟩ : ∃ compiled,
      compileSchema { registry := .ofBuiltins, limit := 20 } (.map order) = .ok compiled ∧
      (compiled.execute (orderWith [] [] [])).map (·.output) = .ok
        [("customer", .map [(.text "name", .text "Ada")]),
          ("items", .list [.map [(.text "sku", .text "lamp")]]), ("again", .text "k")] :=
    ⟨_, rfl, rfl⟩
  obtain ⟨hsame, hdescribed⟩ := execute_described hr objectShaped_order hc
  exact ⟨compiled, hr, objectShaped_order, hc, houtput,
    (hsame _ _ (agreeAs_orderWith _ _ _)).symm, hdescribed⟩

end FieldRules
