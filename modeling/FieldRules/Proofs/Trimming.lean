import FieldRules.Proofs.Compile.Kept
import FieldRules.Proofs.Run.Fields
import FieldRules.Proofs.Run.Items
import FieldRules.Proofs.Value.Equality

/-!
# What trimming hides

With auto-trim a schema is meant to see no blanks around texts: every chain begins with a trim, and
what the fields see of each other is trimmed too. So two inputs that are the same but for such
blanks have the same errors (`errors_sameButBlanks`), with one exception. The text that selects a
variant is read off the object before anything in it is trimmed, so that it has to be the same to
the letter.

Two relations carry this. Values that are the *same but for blanks* are what a check is handed for
the items of a list and what a chain begins with. After the trim of the chain they are *the same
inside*: blanks can differ only in what they hold. That is kept by every check, and it is the reason
why the errors are equal: no check looks inside of a value except with a chain of its own.
-/

set_option autoImplicit false

theorem Option.rel_refl {α : Type} {R : α → α → Prop} (hR : ∀ x, R x x) (o : Option α) :
    Option.Rel R o o := by
  cases o with
  | none => exact .none
  | some x => exact .some (hR x)

theorem Option.rel_cases {α β : Type} {R : α → β → Prop} {o : Option α} {p : Option β}
    (h : Option.Rel R o p) : o = none ∧ p = none ∨ ∃ x y, o = some x ∧ p = some y ∧ R x y := by
  cases h with
  | none => exact Or.inl ⟨rfl, rfl⟩
  | some h => exact Or.inr ⟨_, _, rfl, rfl, h⟩

namespace FieldRules

/-! ## Values -/

namespace Value

/-- Two values are the same but for the blanks around texts, at any depth. For some keys, those that
are fixed, not even the blanks differ. -/
inductive SameButBlanks (fixed : String → Prop) : Value → Value → Prop
  | refl (v : Value) : SameButBlanks fixed v v
  | text {s t : String} : Text.trim s = Text.trim t → SameButBlanks fixed (text s) (text t)
  | list {xs ys : List Value} :
    List.Forall₂ (SameButBlanks fixed) xs ys → SameButBlanks fixed (list xs) (list ys)
  | tuple {xs ys : List Value} :
    List.Forall₂ (SameButBlanks fixed) xs ys → SameButBlanks fixed (tuple xs) (tuple ys)
  | map {a b : Entries} :
    (∀ name, Option.Rel (SameButBlanks fixed) (a.get? name) (b.get? name)) →
    (∀ name s t, fixed name → a.get? name = some (.text s) → b.get? name = some (.text t) → s = t) →
    SameButBlanks fixed (map a) (map b)

/-- The values are the same but for blanks inside of them. -/
structure SameInside (fixed : String → Prop) (v w : Value) : Prop where
  same : v.SameButBlanks fixed w
  text {s t : String} : v = .text s → w = .text t → s = t

variable {fixed : String → Prop} {v w : Value}

theorem SameInside.refl (v : Value) : v.SameInside fixed v where
  same := .refl v
  text hs ht := text.inj (hs.symm.trans ht)

/-- Values that are the same but for blanks are the same inside, or they are texts. -/
theorem SameButBlanks.cases (h : v.SameButBlanks fixed w) :
    v.SameInside fixed w ∨
      ∃ s t, v = .text s ∧ w = .text t ∧ Text.trim s = Text.trim t := by
  cases h with
  | refl => exact Or.inl (.refl _)
  | text ht => exact Or.inr ⟨_, _, rfl, rfl, ht⟩
  | list h => exact Or.inl ⟨.list h, fun hs => nomatch hs⟩
  | tuple h => exact Or.inl ⟨.tuple h, fun hs => nomatch hs⟩
  | map h hf => exact Or.inl ⟨.map h hf, fun hs => nomatch hs⟩

theorem SameButBlanks.trimmed (h : v.SameButBlanks fixed w) :
    v.trimmed.SameInside fixed w.trimmed := by
  rcases h.cases with h | ⟨s, t, rfl, rfl, ht⟩
  · cases h.same with
    | refl => exact .refl _
    | text _ =>
      rw [h.text rfl rfl]
      exact .refl _
    | _ => exact h
  · rw [Value.trimmed, Value.trimmed, ht]
    exact .refl _

theorem forall₂_refl (vs : List Value) : List.Forall₂ (SameButBlanks fixed) vs vs :=
  List.forall₂_same.mpr fun v _ => .refl v

theorem SameButBlanks.items? (h : v.SameButBlanks fixed w) :
    Option.Rel (List.Forall₂ (SameButBlanks fixed)) v.items? w.items? := by
  cases h with
  | refl =>
    cases v.items? with
    | none => exact .none
    | some items => exact .some (forall₂_refl items)
  | text _ => exact .none
  | list h => exact .some h
  | tuple h => exact .some h
  | map _ _ => exact .none

/-- Values that are the same inside are the same value, or containers. -/
theorem SameInside.cases (h : v.SameInside fixed w) :
    v = w ∨ (v.items?.isSome = true ∨ v.entries?.isSome = true) ∧
      (w.items?.isSome = true ∨ w.entries?.isSome = true) := by
  cases h.same with
  | refl => exact Or.inl rfl
  | text _ => exact Or.inl (by rw [h.text rfl rfl])
  | list _ => exact Or.inr ⟨Or.inl rfl, Or.inl rfl⟩
  | tuple _ => exact Or.inr ⟨Or.inl rfl, Or.inl rfl⟩
  | map _ _ => exact Or.inr ⟨Or.inr rfl, Or.inr rfl⟩

theorem SameInside.isMissing (h : v.SameInside fixed w) : v.isMissing = w.isMissing := by
  cases h.same with
  | text _ => rw [h.text rfl rfl]
  | _ => rfl

/-- A primitive value is equal to both of two values that are the same inside, or to neither. -/
theorem SameInside.equal (h : v.SameInside fixed w) {u : Value} (hp : u.isPrimitive = true) :
    u.equal v = u.equal w := by
  rcases h.cases with rfl | ⟨hv, hw⟩
  · rfl
  · rw [Value.equal, Value.equal, equal?_of_container hp hv, equal?_of_container hp hw]

end Value

/-! ## Mappings -/

/-- Under each key there are values that are the same but for blanks. -/
def Entries.SameButBlanks (fixed : String → Prop) (a b : Entries) : Prop :=
  (Value.map a).SameButBlanks fixed (.map b)

/-- Under each key there are values that are the same inside. -/
def Entries.SameInside (fixed : String → Prop) (a b : Entries) : Prop :=
  ∀ name, Option.Rel (Value.SameInside fixed) (a.get? name) (b.get? name)

variable {fixed : String → Prop} {v w : Value} {a b : Entries}

namespace Entries

theorem SameButBlanks.get? (h : SameButBlanks fixed a b) (name : String) :
    Option.Rel (Value.SameButBlanks fixed) (a.get? name) (b.get? name) := by
  cases h with
  | refl => exact Option.rel_refl Value.SameButBlanks.refl _
  | map h _ => exact h name

theorem SameButBlanks.trimmed (h : SameButBlanks fixed a b) :
    a.trimmed.SameInside fixed b.trimmed := by
  intro name
  rw [get?_trimmed, get?_trimmed]
  rcases Option.rel_cases (h.get? name) with ⟨hv, hw⟩ | ⟨v, w, hv, hw, h⟩
  · rw [hv, hw]
    exact .none
  · rw [hv, hw]
    exact .some h.trimmed

theorem SameInside.getD (h : SameInside fixed a b) (name : String) :
    ((a.get? name).getD .null).SameInside fixed ((b.get? name).getD .null) := by
  rcases Option.rel_cases (h name) with ⟨hv, hw⟩ | ⟨v, w, hv, hw, h⟩
  · rw [hv, hw]
    exact .refl _
  · rw [hv, hw]
    exact h

theorem SameInside.isSome (h : SameInside fixed a b) (name : String) :
    (a.get? name).isSome = (b.get? name).isSome := by
  rcases Option.rel_cases (h name) with ⟨hv, hw⟩ | ⟨v, w, hv, hw, -⟩
  · rw [hv, hw]
  · rw [hv, hw]
    rfl

/-- Named values that are the same inside make mappings that are. -/
theorem sameInside_ofNamed {xs ys : List (String × Value)}
    (h : List.Forall₂ (fun x y => x.1 = y.1 ∧ x.2.SameInside fixed y.2) xs ys) :
    (ofNamed xs).SameInside fixed (ofNamed ys) := by
  intro name
  induction h with
  | nil => exact .none
  | @cons x y xs ys hxy _ ih =>
    obtain ⟨k, v⟩ := x
    obtain ⟨k', w⟩ := y
    obtain ⟨rfl, hvw⟩ := hxy
    show Option.Rel _ (if k = name then some v else (ofNamed xs).get? name)
      (if k = name then some w else (ofNamed ys).get? name)
    split
    · exact .some hvw
    · exact ih

theorem SameInside.map (h : SameInside fixed a b) :
    (Value.map a).SameInside fixed (Value.map b) where
  same := by
    refine .map (fun name => ?_) fun name s t _ hs ht => ?_
    · rcases Option.rel_cases (h name) with ⟨hv, hw⟩ | ⟨v, w, hv, hw, h⟩
      · rw [hv, hw]
        exact .none
      · rw [hv, hw]
        exact .some h.same
    · have hname := h name
      rw [hs, ht] at hname
      cases hname with
      | some h => exact h.text rfl rfl
  text hs := nomatch hs

end Entries

/-! ## Leaves -/

/-- **A check without parts does the same with values that are the same inside**: it does not look
inside of them. -/
theorem Leaf.run_sameInside (leaf : Leaf) (hv : v.SameInside fixed w) (hab : a.SameInside fixed b) :
    leaf.run v a = leaf.run w b := by
  rw [Leaf.run_among fun field _ _ hp => (hab.getD field).equal hp]
  cases hv.same with
  | refl => rfl
  | text _ => rw [hv.text rfl rfl]
  -- Of a list, a tuple or a mapping all that is asked is what it is, and whether it is empty.
  | list h =>
    cases leaf with
    | notEmptyList => cases h <;> rfl
    | _ => rfl
  | tuple h =>
    cases leaf with
    | notEmptyList => cases h <;> rfl
    | _ => rfl
  | map _ _ => cases leaf <;> rfl

/-! ## Checks, chains and schemas -/

/-- The effects have the same error, and write the same or the same inside. -/
structure Effect.SameInside (fixed : String → Prop) (e f : Effect) : Prop where
  error : e.error = f.error
  write : Option.Rel (Value.SameInside fixed) e.write f.write

theorem Effect.SameInside.refl (e : Effect) : e.SameInside fixed e where
  error := rfl
  write := Option.rel_refl Value.SameInside.refl _

/-- The chain came to the same in both runs: an error, or a value that is the same inside. -/
structure Outcome.SameInside (fixed : String → Prop) (o p : Outcome) : Prop where
  error : o.error = p.error
  written : o.written = p.written
  value : o.value.SameInside fixed p.value

/-- The reports have the same errors, and outputs that are the same inside. -/
structure Report.SameInside (fixed : String → Prop) (r q : Report) : Prop where
  errors : r.errors = q.errors
  output : List.Forall₂ (fun x y => x.1 = y.1 ∧ x.2.SameInside fixed y.2) r.output q.output

/-- The check does the same to values that are the same inside. -/
def Check.IgnoresBlanks (fixed : String → Prop) (check : Check) : Prop :=
  ∀ v w a b, v.SameInside fixed w → Entries.SameInside fixed a b →
    Except.Alike (Effect.SameInside fixed) (check.run v a) (check.run w b)

/-- The chain does the same to values that are the same but for blanks. -/
def Chain.IgnoresBlanks (fixed : String → Prop) (chain : Chain) : Prop :=
  ∀ v w a b, v.SameButBlanks fixed w → Entries.SameInside fixed a b →
    Except.Alike (Outcome.SameInside fixed) (runChain chain v a false) (runChain chain w b false)

/-- The schema has the same errors for inputs that are the same but for blanks. -/
def CompiledSchema.IgnoresBlanks (fixed : String → Prop) (schema : CompiledSchema) : Prop :=
  ∀ a b, Entries.SameButBlanks fixed a b →
    Except.Alike (Report.SameInside fixed) (schema.execute a) (schema.execute b)

theorem runChain_sameInside {chain : Chain} (h : ∀ step ∈ chain, step.check.IgnoresBlanks fixed)
    (hv : v.SameInside fixed w) (hab : a.SameInside fixed b) (written : Bool) :
    Except.Alike (Outcome.SameInside fixed) (runChain chain v a written)
      (runChain chain w b written) := by
  induction chain generalizing v w written with
  | nil =>
    rw [runChain_nil, runChain_nil]
    exact .ok ⟨rfl, rfl, hv⟩
  | cons step rest ih =>
    rw [runChain_cons, runChain_cons]
    refine (h step List.mem_cons_self v w a b hv hab).bind fun e f hef => ?_
    rw [hef.error]
    split
    · exact .ok ⟨rfl, rfl, hv⟩
    · have hrest := fun s hs => h s (List.mem_cons_of_mem _ hs)
      rcases Option.rel_cases hef.write with ⟨he, hf⟩ | ⟨x, y, he, hf, hxy⟩
      · rw [he, hf]
        exact ih hrest hv _
      · rw [he, hf]
        exact ih hrest hxy _

/-- **A chain that begins with a trim ignores blanks**, if each of its checks does after it. -/
theorem Chain.ignoresBlanks_of_steps {rest : Chain}
    (h : ∀ step ∈ Compiler.trimStep :: rest, step.check.IgnoresBlanks fixed) :
    Chain.IgnoresBlanks fixed (Compiler.trimStep :: rest) := by
  intro v w a b hvw hab
  rcases hvw.cases with hvw | ⟨s, t, rfl, rfl, ht⟩
  · exact runChain_sameInside h hvw hab false
  · rw [runChain_cons, runChain_cons, Compiler.trimStep, Check.run_autoTrim, Check.run_autoTrim]
    show Except.Alike _ (runChain rest (.text (Text.trim s)) a true)
      (runChain rest (.text (Text.trim t)) b true)
    rw [ht]
    exact runChain_sameInside (fun s hs => h s (List.mem_cons_of_mem _ hs)) (.refl _) hab true

theorem Report.SameInside.withField {r q : Report} (h : r.SameInside fixed q) (name : String)
    (present : Bool) {o p : Outcome} (ho : o.SameInside fixed p) :
    (r.withField name present o).SameInside fixed (q.withField name present p) := by
  unfold Report.withField
  rw [ho.error, ho.written]
  cases p.error with
  | some error => exact ⟨congrArg ((name, error) :: ·) h.errors, h.output⟩
  | none =>
    simp only
    split
    · exact ⟨h.errors, .cons ⟨rfl, ho.value⟩ h.output⟩
    · exact h

theorem CompiledSchema.ignoresBlanks_of_fields {schema : CompiledSchema}
    (htrim : schema.autoTrim = true) (h : ∀ f ∈ schema.fields, Chain.IgnoresBlanks fixed f.2) :
    schema.IgnoresBlanks fixed := by
  intro a b hab
  have hsnap : (schema.snapshot a).SameInside fixed (schema.snapshot b) := by
    rw [snapshot, snapshot, if_pos htrim, if_pos htrim]
    exact hab.trimmed
  rw [CompiledSchema.execute_eq, CompiledSchema.execute_eq]
  generalize schema.snapshot a = a at hsnap
  generalize schema.snapshot b = b at hsnap
  generalize schema.fields = fields at h
  induction fields with
  | nil =>
    rw [runFields_nil, runFields_nil]
    exact .ok ⟨rfl, .nil⟩
  | cons field rest ih =>
    obtain ⟨name, chain⟩ := field
    rw [runFields_cons, runFields_cons, hsnap.isSome name]
    have hfield := h (name, chain) List.mem_cons_self _ _ a b (hsnap.getD name).same hsnap
    refine hfield.bind fun o p ho => ?_
    exact (ih fun f hf => h f (List.mem_cons_of_mem _ hf)).map fun r q hr =>
      hr.withField name _ ho

namespace Check

theorem ignoresBlanks_leaf (leaf : Leaf) : (Check.leaf leaf).IgnoresBlanks fixed := by
  intro v w a b hv hab
  rw [run, run, leaf.run_sameInside hv hab]
  exact .refl Effect.SameInside.refl _

theorem ignoresBlanks_autoTrim : autoTrim.IgnoresBlanks fixed := by
  intro v w a b hv hab
  rw [run_autoTrim, run_autoTrim, Leaf.run_sameInside _ hv hab]
  exact .refl Effect.SameInside.refl _

/-- What a passed chain comes to. -/
theorem sameInside_ofPassed {o p : Outcome} (h : o.SameInside fixed p) :
    (if o.written then Effect.wrote o.value else .pass).SameInside fixed
      (if p.written then Effect.wrote p.value else .pass) := by
  rw [h.written]
  split
  · exact ⟨rfl, .some h.value⟩
  · exact .refl _

theorem ignoresBlanks_aliased {chain : Chain} (h : Chain.IgnoresBlanks fixed chain)
    (code : Option String) : (aliased code chain).IgnoresBlanks fixed := by
  intro v w a b hv hab
  rw [run, run]
  refine (h v w a b hv.same hab).bind fun o p ho => ?_
  rw [ho.error]
  split
  · exact .ok (.refl _)
  · exact .ok (sameInside_ofPassed ho)

theorem ignoresBlanks_firstOf {chains : List Chain}
    (h : ∀ chain ∈ chains, Chain.IgnoresBlanks fixed chain) :
    (firstOf chains).IgnoresBlanks fixed := by
  intro v w a b hv hab
  rw [run, run]
  generalize Value.null = last
  induction chains generalizing last with
  | nil =>
    rw [runFirst, runFirst]
    exact .ok (.refl _)
  | cons chain rest ih =>
    rw [runFirst, runFirst]
    refine (h chain List.mem_cons_self v w a b hv.same hab).bind fun o p ho => ?_
    rw [ho.error]
    split
    · exact ih (fun c hc => h c (List.mem_cons_of_mem _ hc)) _
    · exact .ok (sameInside_ofPassed ho)

/-! ### Objects and lists -/

/-- The items have the same error, or values that are the same inside and no error. -/
structure SameItem (fixed : String → Prop) (o p : ItemOutcome) : Prop where
  error : o.2 = p.2
  value : p.2 = .null → o.1.SameInside fixed p.1

theorem SameItem.ofItem {o p : ItemOutcome} (h : SameItem fixed o p) :
    (Effect.ofItem o).SameInside fixed (Effect.ofItem p) := by
  unfold Effect.ofItem
  rw [h.error]
  split
  case h_1 hnull => exact ⟨rfl, .some (h.value hnull)⟩
  case h_2 => exact .refl _

theorem SameItem.ofItems {os ps : List ItemOutcome} (h : List.Forall₂ (SameItem fixed) os ps) :
    (Effect.ofItems os).SameInside fixed (Effect.ofItems ps) := by
  have herrors : os.map (·.2) = ps.map (·.2) := by
    induction h with
    | nil => rfl
    | cons hop _ ih => rw [List.map_cons, List.map_cons, hop.error, ih]
  by_cases hps : ∀ p ∈ ps, p.2 = .null
  · have hos := (Effect.forall_null_congr herrors).mpr hps
    rw [Effect.ofItems_of_null hos, Effect.ofItems_of_null hps]
    refine ⟨rfl, .some ⟨.list ?_, fun hs => nomatch hs⟩⟩
    clear herrors hos
    induction h with
    | nil => exact .nil
    | cons hop _ ih =>
      rw [List.forall_mem_cons] at hps
      exact .cons (hop.value hps.1).same (ih hps.2)
  · have hos := (Effect.forall_null_congr herrors).not.mpr hps
    rw [Effect.ofItems_of_error hos, Effect.ofItems_of_error hps, herrors]
    exact .refl _

theorem checkItems_sameInside {f g : Value → Except Fault ItemOutcome} (hv : v.SameInside fixed w)
    (h : ∀ x y, x.SameButBlanks fixed y → Except.Alike (SameItem fixed) (f x) (g y)) :
    Except.Alike (Effect.SameInside fixed) (checkItems f v) (checkItems g w) := by
  unfold checkItems
  rw [hv.isMissing]
  split
  · exact .ok (.refl _)
  · rcases Option.rel_cases hv.same.items? with ⟨hx, hy⟩ | ⟨xs, ys, hx, hy, hxy⟩
    · rw [hx, hy]
      exact .ok (.refl _)
    · rw [hx, hy]
      exact (Except.Alike.mapM hxy h).bind fun os ps hop => .ok (SameItem.ofItems hop)

/-- What is no mapping has the wrong format, whatever it is. -/
theorem sameItem_misfit (v w : Value) :
    SameItem fixed (ItemOutcome.misfit v) (ItemOutcome.misfit w) where
  error := rfl
  value h := nomatch h

theorem checkObject_sameItem {schema : CompiledSchema} (h : schema.IgnoresBlanks fixed)
    (hv : v.SameButBlanks fixed w) :
    Except.Alike (SameItem fixed) (checkObject schema.execute v)
      (checkObject schema.execute w) := by
  have hmap : ∀ a b, Entries.SameButBlanks fixed a b →
      Except.Alike (SameItem fixed) (checkObject schema.execute (.map a))
        (checkObject schema.execute (.map b)) := by
    intro a b hab
    refine (h a b hab).bind fun r q hr => .ok ⟨?_, fun _ => ?_⟩
    · show r.errorValue = q.errorValue
      rw [Report.errorValue, Report.errorValue, hr.errors]
    · exact (Entries.sameInside_ofNamed hr.output).map
  cases hv with
  | refl =>
    cases v with
    | map entries => exact hmap entries entries (.refl _)
    | _ => exact .ok (sameItem_misfit _ _)
  | map hab hf => exact hmap _ _ (.map hab hf)
  | _ => exact .ok (sameItem_misfit _ _)

/-- The text that selects a variant is the same if its key is fixed. -/
theorem selectorText_eq {selector : String} (hs : fixed selector) (hv : v.SameButBlanks fixed w) :
    selectorText selector v = selectorText selector w := by
  cases hv with
  | @map a b hab hf =>
    unfold selectorText
    simp only [Value.entries?]
    rcases Option.rel_cases (hab selector) with ⟨hx, hy⟩ | ⟨x, y, hx, hy, hxy⟩
    · rw [hx, hy]
    · rw [hx, hy]
      cases hxy with
      | refl => rfl
      | text _ => rw [hf selector _ _ hs hx hy]
      -- Containers are not primitive and select nothing.
      | _ => rfl
  | _ => rfl

theorem runVariant_sameItem {variants : List (String × CompiledSchema)} (chosen : Option String)
    (h : ∀ e ∈ variants, e.2.IgnoresBlanks fixed) (hv : v.SameButBlanks fixed w) :
    Except.Alike (SameItem fixed) (runVariant variants chosen v)
      (runVariant variants chosen w) := by
  induction variants with
  | nil =>
    rw [runVariant, runVariant]
    exact .ok (sameItem_misfit _ _)
  | cons e rest ih =>
    obtain ⟨name, schema⟩ := e
    rw [runVariant, runVariant]
    split
    · exact checkObject_sameItem (h (name, schema) List.mem_cons_self) hv
    · exact ih fun e he => h e (List.mem_cons_of_mem _ he)

theorem ignoresBlanks_each {chain : Chain} (h : Chain.IgnoresBlanks fixed chain) :
    (each chain).IgnoresBlanks fixed := by
  intro v w a b hv hab
  rw [run, run]
  refine checkItems_sameInside hv fun x y hxy => ?_
  refine (h x y a b hxy hab).bind fun o p ho => .ok ⟨?_, fun _ => ho.value⟩
  rw [ho.error]

theorem ignoresBlanks_eachObject {schema : CompiledSchema} (h : schema.IgnoresBlanks fixed) :
    (eachObject schema).IgnoresBlanks fixed := by
  intro v w a b hv _
  rw [run, run]
  exact checkItems_sameInside hv fun x y hxy => checkObject_sameItem h hxy

theorem ignoresBlanks_eachVariant {variants : List (String × CompiledSchema)} {selector : String}
    (hs : fixed selector) (h : ∀ e ∈ variants, e.2.IgnoresBlanks fixed) :
    (eachVariant selector variants).IgnoresBlanks fixed := by
  intro v w a b hv _
  rw [run, run]
  refine checkItems_sameInside hv fun x y hxy => ?_
  rw [selectorText_eq hs hxy]
  exact (Except.Alike.refl (S := Eq) (fun _ => rfl) _).bind fun chosen _ heq => by
    rw [← heq]
    exact runVariant_sameItem chosen h hxy

theorem ignoresBlanks_object {schema : CompiledSchema} (h : schema.IgnoresBlanks fixed) :
    (object schema).IgnoresBlanks fixed := by
  intro v w a b hv _
  rw [run, run, hv.isMissing]
  split
  · exact .ok (.refl _)
  · exact (checkObject_sameItem h hv.same).bind fun o p ho => .ok ho.ofItem

theorem ignoresBlanks_variant {variants : List (String × CompiledSchema)} {selector : String}
    (hs : fixed selector) (h : ∀ e ∈ variants, e.2.IgnoresBlanks fixed) :
    (variant selector variants).IgnoresBlanks fixed := by
  intro v w a b hv _
  rw [run, run, hv.isMissing]
  split
  · exact .ok (.refl _)
  · rw [selectorText_eq hs hv.same]
    refine (Except.Alike.refl (S := Eq) (fun _ => rfl) _).bind fun chosen _ heq => ?_
    rw [← heq]
    exact (runVariant_sameItem chosen h hv.same).bind fun o p ho => .ok ho.ofItem

end Check

/-- A check that is made of parts that ignore blanks ignores them itself, if its selector is fixed.
-/
theorem Builder.Makes.ignoresBlanks {builder : Builder} {args : List Value} {check : Check}
    (hm : builder.Makes (.knowing (CompiledSchema.IgnoresBlanks fixed)
      (Chain.IgnoresBlanks fixed)) args check)
    (hselector : ∀ name variants,
      check = .variant name variants ∨ check = .eachVariant name variants → fixed name) :
    check.IgnoresBlanks fixed := by
  cases hm with
  | leaf _ => exact Check.ignoresBlanks_leaf _
  | object _ hc => exact Check.ignoresBlanks_object hc
  | variant h =>
    refine Check.ignoresBlanks_variant (hselector _ _ (Or.inl rfl)) fun v hv => ?_
    obtain ⟨_, -, hc⟩ := h v hv
    exact hc
  | each _ hc => exact Check.ignoresBlanks_each hc
  | eachObject _ hc => exact Check.ignoresBlanks_eachObject hc
  | eachVariant h =>
    refine Check.ignoresBlanks_eachVariant (hselector _ _ (Or.inr rfl)) fun v hv => ?_
    obtain ⟨_, -, hc⟩ := h v hv
    exact hc
  | firstOf h =>
    refine Check.ignoresBlanks_firstOf fun chain hchain => ?_
    obtain ⟨_, -, hc⟩ := h chain hchain
    exact hc
  | aliased _ hc => exact Check.ignoresBlanks_aliased hc _

/-! ## Compiled schemas -/

/-- A rule of a schema selects variants by the value under a name. -/
def Registry.Selects (r : Registry) (root : SchemaPart) (name : String) : Prop :=
  ∃ (spec : Value) (invocation : Invocation) (rule : Builtin),
    r.Reaches root (.spec spec) ∧ invocation.IsIn spec ∧
      r.find? invocation.name = some (.builtin rule) ∧
      rule.selector? invocation.args = some name

/-- With auto-trim, what is compiled from a part of a schema ignores blanks other than those of its
selectors. -/
theorem ignoresBlanks_of_ofLevels {r : Registry} {root : SchemaPart}
    (hr : r.Extends Builder.IsAlias) (n : Nat) :
    (∀ schema compiled, (Compilation.ofLevels r true n).schema schema compiled →
      r.Reaches root (.schema schema) → compiled.IgnoresBlanks (r.Selects root)) ∧
    ∀ spec chain, (Compilation.ofLevels r true n).field spec chain →
      r.Reaches root (.spec spec) → Chain.IgnoresBlanks (r.Selects root) chain := by
  -- Auto-trim is on, so a chain begins with the trim.
  have hchain : ∀ steps, (∀ step ∈ withTrim true steps,
      step.check.IgnoresBlanks (r.Selects root)) →
      Chain.IgnoresBlanks (r.Selects root) (withTrim true steps) :=
    fun _ => Chain.ignoresBlanks_of_steps
  refine hr.compiled_induction Check.ignoresBlanks_autoTrim ?_ hchain
    (fun _ htrim => CompiledSchema.ignoresBlanks_of_fields htrim) n
  intro spec invocation builder check hreach hin hb hmakes hkeeps
  refine hmakes.ignoresBlanks fun name variants hcheck => ?_
  obtain ⟨rule, rfl, hname⟩ := hkeeps.selector name variants hcheck
  exact ⟨spec, invocation, rule, hreach, hin, hb, hname⟩

/-- **With auto-trim, inputs that are the same but for blanks have the same errors**, or the same
fault, if the texts that select variants are the same to the letter. -/
theorem errors_sameButBlanks {env : CompileEnv} (hr : env.registry.Extends Builder.IsAlias)
    {schema : Value} {compiled : CompiledSchema}
    (hc : compileSchema env schema (some true) = .ok compiled) {a b : Entries}
    (hab : (Value.map a).SameButBlanks (env.registry.Selects (.schema schema)) (.map b)) :
    (compiled.execute a).map (·.errors) = (compiled.execute b).map (·.errors) := by
  rw [compileSchema_eq_ok_iff hr.plain_of_isAlias] at hc
  have hignores := (ignoresBlanks_of_ofLevels hr env.limit.toNat).1 schema compiled hc .refl
  exact (hignores a b hab).map_eq fun r q hrq => hrq.errors

/-! ## Payments with blanks -/

/-- Entries with the same keys one by one, and values that are the same but for blanks. -/
theorem Entries.rel_of_forall₂
    (h : List.Forall₂ (fun e f => e.1 = f.1 ∧ e.2.SameButBlanks fixed f.2) a b) (name : String) :
    Option.Rel (Value.SameButBlanks fixed) (a.get? name) (b.get? name) := by
  induction h with
  | nil => exact .none
  | @cons e f a b hef _ ih =>
    obtain ⟨key, v⟩ := e
    obtain ⟨key', w⟩ := f
    obtain ⟨hkey, hvw⟩ := hef
    cases hkey
    cases key with
    | text s =>
      rw [get?, get?]
      split
      · exact .some hvw
      · exact ih
    | _ => exact ih

/-- A payment by card, with some tags. -/
def payment : Value :=
  .map [(.text "payment", .map [(.text "variable_object", .list [.text "type",
    .map [(.text "card", .map [(.text "type", .text "required"),
      (.text "tags", .map [(.text "list_of", .map [(.text "max_length", .int 3)])])])]])])]

/-- The input of a payment of a type with some tags. -/
def paymentOf (type : String) (tags : List String) : Entries :=
  [(.text "payment", .map [(.text "type", .text type), (.text "tags", .list (tags.map .text))])]

theorem sameButBlanks_paymentOf {type type' : String} (htype : Text.trim type = Text.trim type')
    (hfixed : ∀ name, fixed name → type = type') {tags tags' : List String}
    (htags : List.Forall₂ (fun s t => Text.trim s = Text.trim t) tags tags') :
    (Value.map (paymentOf type tags)).SameButBlanks fixed (.map (paymentOf type' tags')) := by
  have hlist : (Value.list (tags.map .text)).SameButBlanks fixed (.list (tags'.map .text)) := by
    refine .list ?_
    rw [List.forall₂_map_left_iff, List.forall₂_map_right_iff]
    exact htags.imp fun _ _ => .text
  refine .map (Entries.rel_of_forall₂ (.cons ⟨rfl, .map ?_ ?_⟩ .nil)) ?_
  · exact Entries.rel_of_forall₂ (.cons ⟨rfl, .text htype⟩ (.cons ⟨rfl, hlist⟩ .nil))
  · intro name s t hname hs ht
    rw [← hfixed name hname] at ht
    simp only [Entries.get?] at hs ht
    split at hs
    · rename_i hkey
      rw [if_pos hkey] at ht
      exact Value.text.inj (Option.some.inj (hs.symm.trans ht))
    · split at hs <;> cases hs
  · intro name s t _ hs
    simp only [paymentOf, Entries.get?] at hs
    split at hs <;> cases hs

theorem errors_sameButBlanks_payment :
    ∃ compiled,
      Registry.ofBuiltins.Extends Builder.IsAlias ∧
      compileSchema { registry := .ofBuiltins, limit := 20 } payment (some true) = .ok compiled ∧
      (Value.map (paymentOf "card" [" gift ", "new"])).SameButBlanks
        (Registry.ofBuiltins.Selects (.schema payment))
        (.map (paymentOf "card" ["gift", "new  "])) ∧
      (compiled.execute (paymentOf "card" [" gift ", "new"])).map (·.errors) =
        .ok [("payment", .map [(.text "tags", .list [.text "TOO_LONG", .null])])] ∧
      (compiled.execute (paymentOf "card" ["gift", "new  "])).map (·.errors) =
        .ok [("payment", .map [(.text "tags", .list [.text "TOO_LONG", .null])])] := by
  have hr := Registry.extends_ofBuiltins Builder.IsAlias
  have hsame : (Value.map (paymentOf "card" [" gift ", "new"])).SameButBlanks
      (Registry.ofBuiltins.Selects (.schema payment))
      (.map (paymentOf "card" ["gift", "new  "])) :=
    sameButBlanks_paymentOf rfl (fun _ _ => rfl) (.cons rfl (.cons rfl .nil))
  obtain ⟨compiled, hc, ha⟩ : ∃ compiled,
      compileSchema { registry := .ofBuiltins, limit := 20 } payment (some true) = .ok compiled ∧
      (compiled.execute (paymentOf "card" [" gift ", "new"])).map (·.errors) =
        .ok [("payment", .map [(.text "tags", .list [.text "TOO_LONG", .null])])] :=
    ⟨_, rfl, rfl⟩
  refine ⟨compiled, hr, hc, hsame, ha, ?_⟩
  rw [← ha]
  exact (errors_sameButBlanks hr hc hsame).symm

/-- A blank after the type of a payment is not trimmed before the variant is selected. -/
theorem errors_of_blank_selector :
    ∃ compiled,
      Registry.ofBuiltins.Extends Builder.IsAlias ∧
      compileSchema { registry := .ofBuiltins, limit := 20 } payment (some true) = .ok compiled ∧
      (Value.map (paymentOf "card" [])).SameButBlanks (fun _ => False)
        (.map (paymentOf "card " [])) ∧
      (compiled.execute (paymentOf "card" [])).map (·.errors) = .ok [] ∧
      (compiled.execute (paymentOf "card " [])).map (·.errors) =
        .ok [("payment", .text "FORMAT_ERROR")] := by
  have htrim : Text.trim "card" = Text.trim "card " := by decide +kernel
  have hfixed : ∀ name : String, False → "card" = "card " := fun _ h => h.elim
  exact ⟨_, Registry.extends_ofBuiltins _, rfl, sameButBlanks_paymentOf htrim hfixed .nil, rfl, rfl⟩

end FieldRules
