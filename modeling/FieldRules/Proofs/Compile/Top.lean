import FieldRules.Proofs.Compile.Scope

/-!
# Compiling at the top

Where no scope is active, a compile has all the levels that the limit allows, and its first scope is
at depth one. A schema is then compiled field by field in that scope, and a spec is compiled in it;
below a limit of one there is no room for either, not even for a schema without fields.
-/

set_option autoImplicit false

namespace FieldRules

open Compiling

variable {env : CompileEnv}

/-- The scope of a compile at the top. -/
def topScope (autoTrim : Option Bool) : Scope := entered none autoTrim

/-- The compiler for what is compiled inside of a compile at the top. -/
def Compiler.belowTop (env : CompileEnv) : Compiler := Compiler.ofLevels env (env.limit.toNat - 1)

theorem Compiler.belowTop_restores (env : CompileEnv) : (Compiler.belowTop env).Restores :=
  Compiler.ofLevels_restores env _

theorem compileSchema_eq (env : CompileEnv) (schema : Value) (autoTrim : Option Bool) :
    compileSchema env schema autoTrim =
      answer ((Compiler.ofLevels env env.limit.toNat).schema schema autoTrim) none := by
  show answer ((Compiler.ofLevels env (env.limit - ((0 : Nat) : Int)).toNat).schema schema autoTrim)
    none = _
  rw [Int.natCast_zero, Int.sub_zero]

theorem compileField_eq (env : CompileEnv) (spec : Value) (autoTrim : Option Bool) :
    compileField env spec autoTrim =
      answer ((Compiler.ofLevels env env.limit.toNat).field spec autoTrim) none := by
  show answer ((Compiler.ofLevels env (env.limit - ((0 : Nat) : Int)).toNat).field spec autoTrim)
    none = _
  rw [Int.natCast_zero, Int.sub_zero]

/-- With room for one level, a schema is compiled field by field. -/
theorem compileSchema_map (h : 1 ≤ env.limit) (entries : Entries) (autoTrim : Option Bool) :
    compileSchema env (.map entries) autoTrim =
      (answer (Compiler.fields env (.belowTop env) (topScope autoTrim) (.map entries) entries)
        (some (topScope autoTrim))).map fun fields =>
          { fields, autoTrim := (topScope autoTrim).autoTrim } := by
  obtain ⟨n, hn⟩ : ∃ n, env.limit.toNat = n + 1 := ⟨env.limit.toNat - 1, by omega⟩
  have hroom : ¬ env.limit < (((topScope autoTrim).depth : Nat) : Int) := by
    show ¬ env.limit < ((0 + 1 : Nat) : Int)
    omega
  have hbelow : Compiler.belowTop env = Compiler.ofLevels env n := by
    rw [Compiler.belowTop, hn, Nat.add_sub_cancel]
  rw [compileSchema_eq, hn, hbelow]
  show answer (within env.limit autoTrim fun scope => do
    let compiled ← Compiler.fields env (Compiler.ofLevels env n) scope (.map entries) entries
    return ({ fields := compiled, autoTrim := scope.autoTrim } : CompiledSchema)) none = _
  rw [answer_within]
  show (if env.limit < (((topScope autoTrim).depth : Nat) : Int) then _ else _) = _
  rw [if_neg hroom,
    answer_bind (Compiler.fields_restores (Compiler.ofLevels_restores env n) _ _ entries)]
  show (answer (Compiler.fields env (Compiler.ofLevels env n) (topScope autoTrim) (.map entries)
    entries) (some (topScope autoTrim)) >>= _) = _
  cases answer (Compiler.fields env (Compiler.ofLevels env n) (topScope autoTrim) (.map entries)
    entries) (some (topScope autoTrim)) <;> rfl

/-- Without room for one, nothing is compiled. -/
theorem compileSchema_map_of_limit_lt (h : env.limit < 1) (entries : Entries)
    (autoTrim : Option Bool) :
    compileSchema env (.map entries) autoTrim =
      .error (.defect (Defect.schemaTooDeep env.limit)) := by
  have hn : env.limit.toNat = 0 := by omega
  rw [compileSchema_eq, hn]
  rfl

/-- A compiled schema records the auto-trim that was asked for. -/
theorem autoTrim_of_compileSchema {entries : Entries} {autoTrim : Option Bool}
    {compiled : CompiledSchema} (h : compileSchema env (.map entries) autoTrim = .ok compiled) :
    compiled.autoTrim = (topScope autoTrim).autoTrim := by
  by_cases hl : 1 ≤ env.limit
  · rw [compileSchema_map hl] at h
    obtain ⟨fields, -, rfl⟩ := Except.map_eq_ok.mp h
    rfl
  · rw [compileSchema_map_of_limit_lt (by omega)] at h
    cases h

end FieldRules
