import FieldRules.Proofs.Grammar
import FieldRules.Value.Entries

/-!
# What values are made of

Lists, tuples and mappings have other values in them, and a spec has the arguments of its rules in
it. A property that passes from a value to its parts therefore passes from a spec to all that its
rules are given (`Invocation.args_of_hereditary`), and a property of single values becomes one of
whole values by asking it of everything inside (`Value.Every`).

Keys are no parts: the engine looks values up by them, but never makes a value of one.
-/

set_option autoImplicit false

namespace FieldRules

namespace Value

/-- The values in a value: the items of a list or a tuple, and the values of a mapping. -/
def parts : Value → List Value
  | list xs => xs
  | tuple xs => xs
  | map entries => entries.map (·.2)
  | _ => []

theorem parts_of_items? {v : Value} {items : List Value} (h : v.items? = some items) :
    v.parts = items := by
  cases v <;> simp_all [items?, parts]

/-- A property holds of a value and of everything in it. -/
inductive Every (P : Value → Prop) : Value → Prop
  | intro {v : Value} : P v → (∀ w ∈ v.parts, Every P w) → Every P v

variable {P : Value → Prop} {v w : Value}

theorem Every.here (h : v.Every P) : P v := by
  cases h with
  | intro hv _ => exact hv

theorem Every.part (h : v.Every P) (hw : w ∈ v.parts) : w.Every P := by
  cases h with
  | intro _ hparts => exact hparts w hw

/-- A value without parts has a property throughout if it has it. -/
theorem Every.of_parts_eq_nil (hv : P v) (h : v.parts = []) : v.Every P := by
  refine .intro hv fun w hw => ?_
  rw [h] at hw
  exact absurd hw (by simp)

theorem sizeOf_part (hw : w ∈ v.parts) : sizeOf w < sizeOf v := by
  cases v with
  | list xs | tuple xs =>
    have hlt : sizeOf w < sizeOf xs := List.sizeOf_lt_of_mem hw
    simp only [list.sizeOf_spec, tuple.sizeOf_spec]
    omega
  | map entries =>
    obtain ⟨e, he, rfl⟩ := List.mem_map.mp hw
    have hlt := List.sizeOf_lt_of_mem he
    obtain ⟨key, value⟩ := e
    simp only [map.sizeOf_spec, Prod.mk.sizeOf_spec] at hlt ⊢
    omega
  | _ => exact absurd hw (by simp [parts])

/-- What holds of a value if it holds of its parts holds of every value. -/
theorem induction_parts {motive : Value → Prop} (h : ∀ v, (∀ w ∈ v.parts, motive w) → motive v)
    (v : Value) : motive v :=
  h v fun w _ => induction_parts h w
termination_by sizeOf v
decreasing_by exact sizeOf_part ‹_›

end Value

theorem Entries.mem_of_get? {entries : Entries} {name : String} {v : Value}
    (h : entries.get? name = some v) : (.text name, v) ∈ entries := by
  induction entries with
  | nil => exact nomatch h
  | cons e rest ih =>
    obtain ⟨key, w⟩ := e
    cases key with
    | text s =>
      rw [get?] at h
      split at h
      case isTrue hs =>
        rw [hs, Option.some.inj h]
        exact List.mem_cons_self
      case isFalse => exact List.mem_cons_of_mem _ (ih h)
    | _ => exact List.mem_cons_of_mem _ (ih h)

theorem Entries.mem_parts {entries : Entries} {key v : Value} (h : (key, v) ∈ entries) :
    v ∈ (Value.map entries).parts := List.mem_map.mpr ⟨_, h, rfl⟩

/-! ## The parts of a spec -/

/-- A property that passes from a value to its parts. -/
def Value.Hereditary (P : Value → Prop) : Prop := ∀ v, P v → ∀ w ∈ v.parts, P w

theorem Value.Hereditary.every (P : Value → Prop) : Hereditary (Value.Every P) :=
  fun _ h _ hw => h.part hw

namespace Invocation

variable {P : Value → Prop} (hP : Value.Hereditary P)
include hP

theorem of_mem_items? {v : Value} (hv : P v) {items : List Value} (h : v.items? = some items) :
    ∀ item ∈ items, P item := by
  intro item hm
  refine hP v hv item ?_
  rw [Value.parts_of_items? h]
  exact hm

theorem of_mem_specItems {spec : Value} (hspec : P spec) : ∀ item ∈ specItems spec, P item := by
  unfold specItems
  cases hitems : spec.items? with
  | none => exact fun item hm => by rwa [List.mem_singleton.mp hm]
  | some items => exact of_mem_items? hP hspec hitems

theorem args_of_means {item : Value} {invocation : Invocation} (h : Means item invocation)
    (hitem : P item) : ∀ arg ∈ invocation.args, P arg := by
  cases h with
  | name _ => exact fun arg harg => absurd harg (by simp)
  | @call name value _ =>
    have hvalue : P value := hP _ hitem value (List.mem_singleton.mpr rfl)
    exact of_mem_specItems hP hvalue

/-- **What passes from a value to its parts passes from a spec to the arguments of its rules.** -/
theorem args_of_hereditary {spec : Value} {invocations : List Invocation}
    (h : ofSpec spec = .ok invocations) (hspec : P spec) :
    ∀ invocation ∈ invocations, ∀ arg ∈ invocation.args, P arg := by
  intro invocation hi
  have hmeans := ofItems_eq_ok_iff.mp (ofItems_specItems h)
  obtain ⟨item, hm, hitem⟩ := hmeans.exists_of_mem_right hi
  exact args_of_means hP hitem (of_mem_specItems hP hspec item hm)

/-- The part of a spec that is wrong is the spec itself or a part of it. -/
theorem part_of_hereditary {spec : Value} {bad : BadSpec} (h : ofSpec spec = .error bad)
    (hspec : P spec) : P bad.part := by
  have hbad := spoiledBy_of_ofSpec h
  generalize bad.part = part at hbad
  cases hbad with
  | whole _ _ => exact hspec
  | element hitems _ _ => exact of_mem_items? hP hspec hitems part (by simp)

end Invocation

end FieldRules
