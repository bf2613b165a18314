import Mathlib.Order.Bounds.Basic
import Mathlib.Order.Lattice.Nat
import FieldRules.Proofs.Compile.Activation

/-!
# How deep a schema is

The limit to the depth of schemas is there to stop aliases that go round in circles. A schema that
compiles under one limit has a depth, the greatest number of compiles that are inside each other,
and the depth alone decides about all other limits: where it is allowed the schema compiles, and to
the same; where it is not, the schema fails for being too deep and for nothing else
(`compileSchema_of_depth`). The limit is neither off by one nor can it be seen in what is compiled.
It is compared with no other bound: a stack for that many levels is taken for granted.
-/

set_option autoImplicit false

namespace FieldRules

/-- **The depth of a schema decides under which limits it compiles.** It has one if it compiles at
all: the greatest number of compiles inside each other. -/
theorem compileSchema_of_depth {env : CompileEnv} (hr : env.registry.Extends Builder.IsAlias)
    {schema : Value} {autoTrim : Option Bool} {compiled : CompiledSchema}
    (h : compileSchema env schema autoTrim = .ok compiled) :
    ∃ depth : Nat, IsGreatest { count | env.Nests (.top schema autoTrim) count } depth ∧
      ∀ limit : Int,
        ((depth : Int) ≤ limit → compileSchema { env with limit } schema autoTrim = .ok compiled) ∧
        (limit < (depth : Int) → compileSchema { env with limit } schema autoTrim =
          .error (.defect (Defect.schemaTooDeep limit))) := by
  have hplain := hr.plain_of_isAlias
  let counts : Set Nat := { count | env.Nests (.top schema autoTrim) count }
  have hone : (1 : Nat) ∈ counts := ⟨[], .singleton _, rfl⟩
  have hbound : BddAbove counts :=
    ⟨env.limit.toNat, fun count hn => hn.le_of_compileSchema hplain (le_refl _) h⟩
  have hdepth : IsGreatest counts (sSup counts) :=
    ⟨Nat.sSup_mem ⟨1, hone⟩ hbound, fun count hn => le_csSup hbound hn⟩
  refine ⟨sSup counts, hdepth, fun limit => ?_⟩
  constructor
  · intro hlimit
    refine CompileEnv.compileSchema_of_nests hplain h { env with limit } (fun _ _ => rfl) ?_
    intro count hn
    have hcount : count ≤ sSup counts := hdepth.2 hn
    show count ≤ limit.toNat
    omega
  · intro hlimit
    have hends := CompileEnv.ends_of_compileSchema hplain h { env with limit } fun _ _ => rfl
    cases hans : compileSchema { env with limit } schema autoTrim with
    | error failure =>
      obtain ⟨hfailure, -⟩ := hends.2 failure hans
      rw [hfailure]
    | ok other =>
      -- Fewer levels would be enough only if there were fewer compiles inside each other.
      have htop : sSup counts ≤ env.limit.toNat :=
        hdepth.1.le_of_compileSchema hplain (le_refl _) h
      have hpos : 1 ≤ sSup counts := hdepth.2 hone
      have hle : sSup counts ≤ limit.toNat :=
        hdepth.1.le_of_compileSchema hplain (by omega) hans
      omega

/-! ## A schema with all ways of going deeper -/

/-- The rules of an address. -/
def address : AliasDefinition where
  name := "address"
  rules := .list [.text "required", .map [(.text "nested_object",
    .map [(.text "zip", .text "required")])]]
  error := none

/-- The catalogue with the alias. -/
def addressRules : Registry := Registry.ofBuiltins.put "address" (.aliased address)

theorem addressRules_extends : addressRules.Extends Builder.IsAlias :=
  (Registry.extends_ofBuiltins _).put (by decide +kernel) ⟨address, rfl, by decide, by decide⟩

/-- A contact is five deep: the contact itself, the items of the list in it, one of the alternatives
for these, the rules of the alias that it is, and the object in them. -/
theorem compileSchema_of_depth_contact :
    let contact : Value := .map [(.text "name", .text "string"),
      (.text "places", .map [(.text "list_of",
        .map [(.text "or", .list [.text "email", .text "address"])])])]
    addressRules.Extends Builder.IsAlias ∧ ∃ compiled,
      compileSchema ⟨addressRules, 20⟩ contact = .ok compiled ∧
      IsGreatest { count | CompileEnv.Nests ⟨addressRules, 20⟩ (.top contact none) count } 5 ∧
      compileSchema ⟨addressRules, 5⟩ contact = .ok compiled ∧
      compileSchema ⟨addressRules, 4⟩ contact = .error (.defect (Defect.schemaTooDeep 4)) := by
  intro contact
  obtain ⟨compiled, h⟩ : ∃ compiled,
      compileSchema ⟨addressRules, 20⟩ contact = .ok compiled :=
    Except.exists_eq_ok (by decide +kernel)
  obtain ⟨depth, hgreatest, hlimits⟩ := compileSchema_of_depth addressRules_extends h
  have hfive : depth ≤ 5 := by
    by_contra hlt
    have hok : (compileSchema ⟨addressRules, 5⟩ contact).isOk = true := by decide +kernel
    rw [(hlimits 5).2 (by omega)] at hok
    exact nomatch hok
  have hfour : 4 < depth := by
    by_contra hle
    have hfails : (compileSchema ⟨addressRules, 4⟩ contact).isOk = false := by decide +kernel
    rw [(hlimits 4).1 (by omega)] at hfails
    exact nomatch hfails
  have hdepth : depth = 5 := by omega
  rw [hdepth] at hgreatest hlimits
  exact ⟨addressRules_extends, compiled, h, hgreatest, (hlimits 5).1 (by decide),
    (hlimits 4).2 (by decide)⟩

end FieldRules
