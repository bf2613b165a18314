import FieldRules.Proofs.Compile.Calls
import FieldRules.Proofs.Run.Chain
import FieldRules.Proofs.Run.Items

/-!
# Lists of objects

There are two ways to say that a list has objects of a certain kind in it. The rules for lists of
objects check each item themselves; or `list_of` is given the rule for one such object, which then
runs as a chain on each item. The second way does more (the chain could have other rules in it, and
what it writes is carried to the result by the chain), but with the one rule alone it comes to the
same: the items have the same errors at the same places, and the same values are written
(`listOf_eq_overItems`).

The two differ in one point. A rule for one object lets a missing value pass, and so `list_of` lets
items pass that are null or the empty text, which are no objects for the other rules.
-/

set_option autoImplicit false

namespace FieldRules

/-! ## Checking one object, and each of several -/

/-- The one check validates an object, and the other one the items of a list, both in the way that is
said for single values. An error counts as one. -/
structure Check.Alternates (check : Value → Except Fault ItemOutcome) (one several : Check) :
    Prop where
  one (v : Value) (siblings : Entries) : one.run v siblings =
    if v.isMissing then .ok .pass else check v >>= fun outcome => .ok (.ofItem outcome)
  several (v : Value) (siblings : Entries) : several.run v siblings = checkItems check v
  error (v : Value) (outcome : ItemOutcome) :
    check v = .ok outcome → outcome.2 = .null ∨ outcome.2.truthy = true

section
variable {execute : Entries → Except Fault Report}

theorem checkObject_error (v : Value) (outcome : ItemOutcome)
    (h : checkObject execute v = .ok outcome) : outcome.2 = .null ∨ outcome.2.truthy = true := by
  unfold checkObject at h
  split at h
  · rw [← Except.ok.inj h]
    exact Or.inr (Effect.truthy_fail .formatError)
  · obtain ⟨report, -, h⟩ := Except.bind_eq_ok.mp h
    rw [← Except.ok.inj h]
    show report.errorValue = .null ∨ report.errorValue.truthy = true
    unfold Report.errorValue
    cases report.errors with
    | nil => exact Or.inl rfl
    | cons e rest => exact Or.inr rfl

theorem runVariant_error {variants : List (String × CompiledSchema)} {chosen : Option String}
    (v : Value) (outcome : ItemOutcome) (h : runVariant variants chosen v = .ok outcome) :
    outcome.2 = .null ∨ outcome.2.truthy = true := by
  induction variants with
  | nil =>
    rw [runVariant, Except.ok.injEq] at h
    rw [← h]
    exact Or.inr (Effect.truthy_fail .formatError)
  | cons e rest ih =>
    rw [runVariant] at h
    split at h
    · exact checkObject_error v outcome h
    · exact ih h

end

/-- Objects of one schema. -/
theorem Check.alternates_object (schema : CompiledSchema) :
    Check.Alternates (checkObject schema.execute) (.object schema) (.eachObject schema) where
  one v siblings := by
    rw [run]
    rfl
  several v siblings := by rw [run]
  error := checkObject_error

/-- Checks an object by the variant that it selects. -/
def checkVariant (selector : String) (variants : List (String × CompiledSchema)) (v : Value) :
    Except Fault ItemOutcome :=
  selectorText selector v >>= fun chosen => runVariant variants chosen v

/-- Objects that select their schema. -/
theorem Check.alternates_variant (selector : String) (variants : List (String × CompiledSchema)) :
    Check.Alternates (checkVariant selector variants) (.variant selector variants)
      (.eachVariant selector variants) where
  one v siblings := by
    rw [run]
    unfold checkVariant
    cases selectorText selector v with
    | error fault => rfl
    | ok chosen => rfl
  several v siblings := by
    rw [run]
    rfl
  error v outcome h := by
    obtain ⟨chosen, -, h⟩ := Except.bind_eq_ok.mp h
    exact runVariant_error v outcome h

/-! ## Items with the same effect -/

/-- The outcomes are the same as far as it matters: the same error, or none and the same value. -/
def ItemOutcome.Same (o p : ItemOutcome) : Prop := Effect.ofItem o = Effect.ofItem p

theorem ItemOutcome.Same.error {o p : ItemOutcome} (h : o.Same p) : o.2 = p.2 := by
  rw [← Effect.error_ofItem o, ← Effect.error_ofItem p, h]

theorem ItemOutcome.Same.value {o p : ItemOutcome} (h : o.Same p) (hp : p.2 = .null) :
    o.1 = p.1 := by
  have hwrite : ∀ q : ItemOutcome, q.2 = .null → (Effect.ofItem q).write = some q.1 := by
    rintro ⟨value, error⟩ rfl
    rfl
  apply Option.some.inj
  rw [← hwrite o (h.error.trans hp), ← hwrite p hp, h]

/-- **What is made of the items depends on the effects of the items alone.** -/
theorem Effect.ofItems_congr {os ps : List ItemOutcome}
    (h : List.Forall₂ ItemOutcome.Same os ps) : ofItems os = ofItems ps := by
  have herrors : os.map (·.2) = ps.map (·.2) := by
    induction h with
    | nil => rfl
    | cons hop _ ih => rw [List.map_cons, List.map_cons, hop.error, ih]
  by_cases hps : ∀ p ∈ ps, p.2 = .null
  · have hos := (forall_null_congr herrors).mpr hps
    have hvalues : os.map (·.1) = ps.map (·.1) := by
      clear herrors hos
      induction h with
      | nil => rfl
      | cons hop _ ih =>
        rw [List.forall_mem_cons] at hps
        rw [List.map_cons, List.map_cons, hop.value hps.1, ih hps.2]
    rw [ofItems_of_null hos, ofItems_of_null hps, hvalues]
  · have hos := (forall_null_congr herrors).not.mpr hps
    rw [ofItems_of_error hos, ofItems_of_error hps, herrors]

/-- The value is not a list or a tuple with a missing value among its items. -/
def Value.HasItems (v : Value) : Prop :=
  ∀ items, v.items? = some items → ∀ item ∈ items, item.isMissing = false

namespace Check.Alternates

variable {check : Value → Except Fault ItemOutcome} {one several : Check} {v : Value}

/-- The chain with the check for one object makes the same of an item as the check of the items
does. -/
theorem item_same (h : Alternates check one several) {item : Value}
    (hm : item.isMissing = false) (rule : Invocation) (siblings : Entries) :
    Except.Alike ItemOutcome.Same (check item)
      (runChain [⟨rule, one⟩] item siblings false >>= fun outcome =>
        .ok (outcome.value, outcome.error.getD .null)) := by
  have hrun : one.run item siblings = check item >>= fun outcome => .ok (.ofItem outcome) := by
    rw [h.one, hm]
    rfl
  cases hc : check item with
  | error fault =>
    rw [hc, Except.error_bind] at hrun
    rw [runChain_of_fault hrun]
    exact .error fault
  | ok outcome =>
    obtain ⟨value, error⟩ := outcome
    rw [hc, Except.ok_bind] at hrun
    rcases h.error item _ hc with herror | herror
    · -- The object passes, and its value is written.
      cases herror
      rw [runChain_of_wrote hrun, runChain_nil]
      exact .ok rfl
    · -- It fails, and the chain still has the item, which then does not matter.
      have heffect : Effect.ofItem (value, error) = { error } := by
        cases error <;> first | rfl | exact nomatch herror
      rw [heffect] at hrun
      rw [runChain_cons, hrun, Except.ok_bind, if_pos herror]
      refine .ok ?_
      show Effect.ofItem (value, error) = Effect.ofItem (item, error)
      rw [heffect]
      cases error <;> first | rfl | exact nomatch herror

/-- **The check of the items does what `list_of` does with the check for one object.** -/
theorem run_each (h : Alternates check one several) (hv : v.HasItems) (rule : Invocation)
    (siblings : Entries) :
    several.run v siblings = (Check.each [⟨rule, one⟩]).run v siblings := by
  rw [h.several, Check.run]
  unfold checkItems
  split
  · rfl
  · split
    · rfl
    · rename_i items hitems
      have hsame : List.Forall₂ (fun a b => a = b ∧ b.isMissing = false) items items :=
        List.forall₂_same.mpr fun item hm => ⟨rfl, hv items hitems item hm⟩
      have halike := Except.Alike.mapM hsame fun a b hab => by
        rw [hab.1]
        exact h.item_same hab.2 rule siblings
      exact halike.map_eq fun os ps => Effect.ofItems_congr

end Check.Alternates

/-! ## Compiling the same schemas twice -/

/-- What compiles in both compiles to the same. -/
def Compilation.Agree (c d : Compilation) : Prop :=
  ∀ v compiled found, c.schema v compiled → d.schema v found → compiled = found

theorem Compilation.agree_ofLevels {r : Registry} (hr : r.Plain) (autoTrim : Bool) (m n : Nat) :
    (ofLevels r autoTrim m).Agree (ofLevels r autoTrim n) := by
  intro v compiled found hm hn
  -- With the more levels of the two both compile, and the compiler has only one answer.
  have hiff : ∀ schema, compileSchema ⟨r, (max m n : Nat)⟩ v (some autoTrim) = .ok schema ↔
      (ofLevels r autoTrim (max m n)).schema v schema :=
    compileSchema_eq_ok_iff hr (some autoTrim) v
  have hcompiled := (hiff compiled).mpr
    ((ofLevels_within r autoTrim (Nat.le_max_left m n)).schema _ _ hm)
  have hfound := (hiff found).mpr
    ((ofLevels_within r autoTrim (Nat.le_max_right m n)).schema _ _ hn)
  exact Except.ok.inj (hcompiled.symm.trans hfound)

namespace Builtin

section
variable {c d : Compilation} (hcd : c.Agree d) {first second : Check}
include hcd

/-- Two recipes for the same variants get the same ones, whatever they make of them. -/
theorem exists_of_onVariants {entries : Entries} {done : List (String × CompiledSchema)}
    {next other : List (String × CompiledSchema) → Recipe}
    (h : (onVariants entries done next).Yields c first)
    (h' : (onVariants entries done other).Yields d second) :
    ∃ variants, (next variants).Yields c first ∧ (other variants).Yields d second := by
  induction entries generalizing done with
  | nil => exact ⟨done, h, h'⟩
  | cons e rest ih =>
    obtain ⟨key, schema⟩ := e
    unfold onVariants at h h'
    cases hkey : key.plainText with
    | error fault =>
      rw [hkey] at h
      exact nomatch h
    | ok name =>
      rw [hkey] at h h'
      obtain ⟨compiled, hcompiled, h⟩ := Recipe.Yields.of_onSchema h
      obtain ⟨found, hfound, h'⟩ := Recipe.Yields.of_onSchema h'
      rw [← hcd _ _ _ hcompiled hfound] at h'
      exact ih h h'

theorem exists_of_onSelector {selector schemas : Value}
    {next other : String → List (String × CompiledSchema) → Recipe}
    (h : (onSelector selector schemas next).Yields c first)
    (h' : (onSelector selector schemas other).Yields d second) :
    ∃ name variants, (next name variants).Yields c first ∧
      (other name variants).Yields d second := by
  unfold onSelector at h h'
  cases hname : Arguments.fullText selector .noSelector with
  | error fault =>
    rw [hname] at h
    exact nomatch h
  | ok name =>
    rw [hname] at h h'
    cases schemas with
    | map entries =>
      cases entries with
      | nil => exact nomatch h
      | cons e rest =>
        obtain ⟨variants, h, h'⟩ := exists_of_onVariants hcd h h'
        exact ⟨name, variants, h, h'⟩
    | _ => exact nomatch h

end

/-- The rule that checks the items of a list as the rule does one value. -/
def overItems? : Builtin → Option Builtin
  | nestedObject => some listOfObjects
  | variableObject => some listOfDifferentObjects
  | _ => none

/-- **From the same arguments the two rules make checks that do the same**, one for a value and one
for the items of a list. -/
theorem alternates_of_yields {rule many : Builtin} (hmany : rule.overItems? = some many)
    {c d : Compilation} (hcd : c.Agree d) {args : List Value} {one several : Check}
    (h : (rule.recipe args).Yields c one) (h' : (many.recipe args).Yields d several) :
    ∃ check, Check.Alternates check one several := by
  have hbuilds := builds h
  cases rule with
  | nestedObject =>
    cases hmany
    cases hbuilds with
    | leaf hrule => exact nomatch hrule
    | @object schema compiled hcompiled =>
      obtain ⟨found, hfound, h'⟩ := Recipe.Yields.of_onSchema h'
      cases h'
      rw [← hcd _ _ _ hcompiled hfound]
      exact ⟨_, Check.alternates_object compiled⟩
  | variableObject =>
    cases hmany
    cases hbuilds with
    | leaf hrule => exact nomatch hrule
    | @variant selector entries variants _ =>
      obtain ⟨name, found, h, h'⟩ := exists_of_onSelector hcd h h'
      cases h
      cases h'
      exact ⟨_, Check.alternates_variant selector variants⟩
  | _ => exact nomatch hmany

end Builtin

/-! ## The two specs -/

/-- **A list of objects is a list of values that are each an object.** The rule for the objects of a
list and `list_of` with the rule for one object have the same outcome on every value, unless it has
missing values among its items: the same fault, the same errors, or the same items with a write. -/
theorem listOf_eq_overItems {r : Registry} {limit : Int} (hr : r.Extends Builder.IsAlias)
    {autoTrim : Option Bool} (hoff : autoTrim.getD false = false) {rule many : Builtin}
    (hmany : rule.overItems? = some many) {arg : Value} {c d : Chain}
    (hc : compileField ⟨r, limit⟩ (many.spec arg) autoTrim = .ok c)
    (hd : compileField ⟨r, limit⟩ (Builtin.listOf.spec (rule.spec arg)) autoTrim = .ok d)
    {v : Value} (hv : v.HasItems) (siblings : Entries) :
    runChain c v siblings false = runChain d v siblings false := by
  rw [compileField_eq_ok_iff hr.plain_of_isAlias, hoff] at hc hd
  obtain ⟨m, step, -, rfl, hseveral⟩ := hr.yields_of_call (Invocation.ofSpec_spec many arg) hc
  obtain ⟨n, other, -, rfl, heach⟩ := hr.yields_of_call (Invocation.ofSpec_spec _ _) hd
  obtain ⟨chain, hchain, hother⟩ := Recipe.Yields.of_onField heach
  obtain ⟨k, ⟨call, one⟩, -, rfl, hone⟩ :=
    hr.yields_of_call (Invocation.ofSpec_spec rule arg) hchain
  have hagree := Compilation.agree_ofLevels hr.plain_of_isAlias false k m
  obtain ⟨check, hcheck⟩ := Builtin.alternates_of_yields hmany hagree hone hseveral
  have hmade : other.check = .each [⟨call, one⟩] := Recipe.Yields.of_ready hother
  have hrun : step.check.run v siblings = other.check.run v siblings := by
    rw [hmade]
    exact hcheck.run_each hv call siblings
  show runChain [step] v siblings false = runChain [other] v siblings false
  rw [runChain_cons, runChain_cons, hrun]

/-- The schema of a person, who has a name. -/
def person : Value := .map [(.text "name", .text "required")]

/-- One person, and one who has no name. -/
def persons : Value := .list [.map [(.text "name", .text "Ada")], .map []]

theorem listOf_eq_overItems_persons :
    Registry.ofBuiltins.Extends Builder.IsAlias ∧ (none : Option Bool).getD false = false ∧
      Builtin.nestedObject.overItems? = some .listOfObjects ∧ persons.HasItems ∧
      ∃ c d, compileField ⟨.ofBuiltins, 20⟩ (Builtin.listOfObjects.spec person) none = .ok c ∧
        compileField ⟨.ofBuiltins, 20⟩
          (Builtin.listOf.spec (Builtin.nestedObject.spec person)) none = .ok d ∧
        runChain c persons [] false = .ok { value := persons, error := some (.list
          [.null, .map [(.text "name", .text "REQUIRED")]]) } ∧
        ∀ siblings, runChain c persons siblings false = runChain d persons siblings false := by
  have hr := Registry.extends_ofBuiltins Builder.IsAlias
  have hv : persons.HasItems := by
    intro items hitems item hitem
    cases hitems
    simp at hitem
    rcases hitem with rfl | rfl <;> rfl
  obtain ⟨c, hc, hrun⟩ : ∃ c, compileField ⟨.ofBuiltins, 20⟩
      (Builtin.listOfObjects.spec person) none = .ok c ∧
      runChain c persons [] false = .ok { value := persons, error := some (.list
        [.null, .map [(.text "name", .text "REQUIRED")]]) } := ⟨_, rfl, rfl⟩
  obtain ⟨d, hd⟩ : ∃ d, compileField ⟨.ofBuiltins, 20⟩
      (Builtin.listOf.spec (Builtin.nestedObject.spec person)) none = .ok d := ⟨_, rfl⟩
  exact ⟨hr, rfl, rfl, hv, c, d, hc, hd, hrun, listOf_eq_overItems hr rfl rfl hc hd hv⟩

end FieldRules
