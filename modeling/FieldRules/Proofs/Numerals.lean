import FieldRules.Proofs.Compile.Calls
import FieldRules.Proofs.Run.Trim
import FieldRules.Proofs.Number.Literal

/-!
# Numeric rules on numerals

A rule for numbers takes a text that is a decimal literal for the number that it is read as, and what
it does is the same as for that number: it accepts the text if the number is an integer, or positive,
or within the bounds, as the rational number that it is, and it writes that number
(`numbers_of_literals`).

A literal with a fraction or an exponent is read as a float, which need not be the number that it
denotes. So a text can be accepted by the rule for integers and another integer be written
(`integer_rounds`).
-/

set_option autoImplicit false

namespace FieldRules

/-! ## Conditions on numbers -/

/-- The condition on a number as one on a rational number. -/
def NumberTest.Accepts : NumberTest → ℚ → Prop
  | any, _ => True
  | positive _, q => 0 < q
  | atMost limit, q => q ≤ limit.toRat
  | atLeast limit, q => limit.toRat ≤ q
  | between low high, q => low.toRat ≤ q ∧ q ≤ high.toRat

theorem Number.compare_ne_gt_iff (m n : Number) : m.compare n ≠ .gt ↔ m.toRat ≤ n.toRat := by
  rw [Number.compare_eq, ne_eq, cmp_eq_gt_iff, not_lt]

theorem Number.compare_ne_lt_iff (m n : Number) : m.compare n ≠ .lt ↔ n.toRat ≤ m.toRat := by
  rw [Number.compare_eq, ne_eq, cmp_eq_lt_iff, not_lt]

/-- **A test is passed by the numbers whose rational numbers satisfy its condition.** -/
theorem NumberTest.violation?_eq_none_iff (test : NumberTest) (n : Number) :
    test.violation? n = none ↔ test.Accepts n.toRat := by
  cases test with
  | any => exact ⟨fun _ => trivial, fun _ => rfl⟩
  | positive violated =>
    have hpositive : n.compare (.whole 0) = .gt ↔ 0 < n.toRat := by
      rw [Number.compare_eq, cmp_eq_gt_iff, Number.toRat_whole, Int.cast_zero]
    simp [violation?, Accepts, hpositive]
  | atMost limit => simp [violation?, Accepts, ← Number.compare_ne_gt_iff]
  | atLeast limit => simp [violation?, Accepts, ← Number.compare_ne_lt_iff]
  | between low high =>
    rw [Accepts, ← Number.compare_ne_lt_iff, ← Number.compare_ne_gt_iff]
    by_cases hlow : n.compare low = .lt <;> by_cases hhigh : n.compare high = .gt <;>
      simp [violation?, hlow, hhigh]

/-! ## The rules -/

/-- A rule for integers or for numbers within bounds. -/
inductive NumberRule where
  | integer
  | positiveInteger
  | atMost (limit : Number)
  | atLeast (limit : Number)
  | between (low high : Number)

namespace NumberRule

/-- The rule in a spec. -/
def spec : NumberRule → Value
  | integer => .text Builtin.integer.name
  | positiveInteger => .text Builtin.positiveInteger.name
  | atMost limit => Builtin.maxNumber.spec (.ofNumber limit)
  | atLeast limit => Builtin.minNumber.spec (.ofNumber limit)
  | between low high => Builtin.numberBetween.spec (.list [.ofNumber low, .ofNumber high])

/-- Whether the rule is for integers. -/
def isIntegral : NumberRule → Bool
  | integer | positiveInteger => true
  | _ => false

/-- The code of what is not a number of the right kind. -/
def code : NumberRule → Code
  | integer => .notInteger
  | positiveInteger => .notPositiveInteger
  | _ => .notNumber

/-- The condition on the number. -/
def test : NumberRule → NumberTest
  | integer => .any
  | positiveInteger => .positive .notPositiveInteger
  | atMost limit => .atMost limit
  | atLeast limit => .atLeast limit
  | between low high => .between low high

/-- The check that the rule makes. -/
def check (rule : NumberRule) : Check := .leaf (.number rule.code rule.isIntegral rule.test)

/-- **The rational numbers that the rule admits.** -/
def Admits : NumberRule → ℚ → Prop
  | integer, q => ∃ z : Int, q = z
  | positiveInteger, q => (∃ z : Int, q = z) ∧ 0 < q
  | atMost limit, q => q ≤ limit.toRat
  | atLeast limit, q => limit.toRat ≤ q
  | between low high, q => low.toRat ≤ q ∧ q ≤ high.toRat

theorem admits_iff (rule : NumberRule) (q : ℚ) :
    rule.Admits q ↔ (rule.isIntegral = true → ∃ z : Int, q = z) ∧ rule.test.Accepts q := by
  cases rule <;> simp [Admits, isIntegral, test, NumberTest.Accepts]

/-- What the spec of the rule compiles to. -/
theorem check_of_field {r : Registry} (hr : r.Extends Builder.IsAlias) {autoTrim : Bool} {n : Nat}
    {rule : NumberRule} {chain : Chain} (h : (Compilation.ofLevels r autoTrim n).field rule.spec chain) :
    ∃ step, chain = withTrim autoTrim [step] ∧ step.check = rule.check := by
  cases rule with
  | integer =>
    obtain ⟨_, step, -, hchain, hyields⟩ := hr.yields_of_call (Invocation.ofSpec_name _) h
    exact ⟨step, hchain, Recipe.Yields.of_ready hyields⟩
  | positiveInteger =>
    obtain ⟨_, step, -, hchain, hyields⟩ := hr.yields_of_call (Invocation.ofSpec_name _) h
    exact ⟨step, hchain, Recipe.Yields.of_ready hyields⟩
  | atMost limit =>
    obtain ⟨_, step, -, hchain, hyields⟩ := hr.yields_of_call (Invocation.ofSpec_spec _ _) h
    rw [Value.arguments_of_number? (Value.number?_ofNumber limit)] at hyields
    obtain ⟨read, hread, hcheck⟩ := Builtin.eq_leaf_of_leafOf hyields
    rw [Arguments.number_eq_ok, Value.number?_ofNumber, Option.some.injEq] at hread
    rw [← hread] at hcheck
    exact ⟨step, hchain, hcheck⟩
  | atLeast limit =>
    obtain ⟨_, step, -, hchain, hyields⟩ := hr.yields_of_call (Invocation.ofSpec_spec _ _) h
    rw [Value.arguments_of_number? (Value.number?_ofNumber limit)] at hyields
    obtain ⟨read, hread, hcheck⟩ := Builtin.eq_leaf_of_leafOf hyields
    rw [Arguments.number_eq_ok, Value.number?_ofNumber, Option.some.injEq] at hread
    rw [← hread] at hcheck
    exact ⟨step, hchain, hcheck⟩
  | between low high =>
    obtain ⟨_, step, -, hchain, hyields⟩ := hr.yields_of_call (Invocation.ofSpec_spec _ _) h
    obtain ⟨⟨l, u⟩, hread, hcheck⟩ := Builtin.eq_leaf_of_leafOf hyields
    obtain ⟨hl, hu⟩ := Arguments.numberBounds_eq_ok hread
    obtain rfl : low = l := Option.some.inj ((Value.number?_ofNumber low).symm.trans hl)
    obtain rfl : high = u := Option.some.inj ((Value.number?_ofNumber high).symm.trans hu)
    exact ⟨step, hchain, hcheck⟩

/-- **A rule accepts the numbers that it admits, and writes them**, as an integer if it is for
integers. -/
theorem checkNumber_cases (rule : NumberRule) (v : Value) {n : Number} (h : v.number? = some n) :
    (rule.Admits n.toRat ∧ ∃ m : Number, m.toRat = n.toRat ∧
      (rule.isIntegral = true → ∃ z, m = .whole z) ∧
      Leaf.checkNumber rule.code rule.isIntegral rule.test v = .wrote (.ofNumber m)) ∨
    ¬ rule.Admits n.toRat ∧ ∃ code : Code,
      Leaf.checkNumber rule.code rule.isIntegral rule.test v = .fail code := by
  rw [admits_iff]
  unfold Leaf.checkNumber
  rw [h]
  dsimp only
  by_cases hkind : (rule.isIntegral && !n.isWhole) = true
  · -- A rule for integers, and a number that is none.
    rw [if_pos hkind]
    rw [Bool.and_eq_true, Bool.not_eq_true'] at hkind
    refine Or.inr ⟨fun hadmits => ?_, _, rfl⟩
    rw [(Number.isWhole_iff n).mpr (hadmits.1 hkind.1)] at hkind
    exact nomatch hkind.2
  · rw [if_neg hkind]
    have hwhole : rule.isIntegral = true → n.isWhole = true := by
      intro hintegral
      rw [hintegral] at hkind
      simpa using hkind
    -- What is tested and written is `m`, which is the same rational number.
    obtain ⟨m, hm⟩ : ∃ m, m = if rule.isIntegral then Number.whole n.truncate else n := ⟨_, rfl⟩
    have hsame : m.toRat = n.toRat := by
      rw [hm]
      split
      case isTrue hintegral =>
        rw [Number.toRat_whole, Number.truncate_of_isWhole (hwhole hintegral)]
      case isFalse => rfl
    rw [← hm, ← hsame]
    cases hviolation : rule.test.violation? m with
    | none =>
      refine Or.inl ⟨⟨fun hintegral => ?_, ?_⟩, m, rfl, fun hintegral => ?_, rfl⟩
      · rw [hsame]
        exact (Number.isWhole_iff n).mp (hwhole hintegral)
      · exact (NumberTest.violation?_eq_none_iff _ _).mp hviolation
      · exact ⟨n.truncate, by rw [hm, if_pos hintegral]⟩
    | some code =>
      refine Or.inr ⟨fun hadmits => ?_, code, rfl⟩
      rw [(NumberTest.violation?_eq_none_iff _ _).mpr hadmits.2] at hviolation
      exact nomatch hviolation

/-! ## Runs -/

/-- What becomes of a text that is read as a number, or as none: it passes if the rule admits the
number, and then the number has been written, as an integer if the rule is for integers. -/
structure Decides (rule : NumberRule) (q : Option ℚ) (o : Outcome) : Prop where
  passes : o.error = none ↔ ∃ p, q = some p ∧ rule.Admits p
  writes : o.error = none → o.written = true ∧ ∃ n : Number, o.value = .ofNumber n ∧
    q = some n.toRat ∧ (rule.isIntegral = true → ∃ z, n = .whole z)

theorem runChain_decides {rule : NumberRule} {step : Step} (h : step.check = rule.check) {s : String}
    (hs : s.isEmpty = false) (siblings : Entries) (written : Bool) :
    ∃ o, runChain [step] (.text s) siblings written = .ok o ∧
      rule.Decides ((Number.ofText? s).map Number.toRat) o := by
  have hrun : step.check.run (.text s) siblings =
      .ok (Leaf.checkNumber rule.code rule.isIntegral rule.test (.text s)) := by
    rw [h, check, Check.run]
    exact Leaf.run_number_of_isPrimitive hs rfl
  have hfails : ∀ (q : Option ℚ) (code : Code), (¬ ∃ p, q = some p ∧ rule.Admits p) →
      Leaf.checkNumber rule.code rule.isIntegral rule.test (.text s) = .fail code →
      ∃ o, runChain [step] (.text s) siblings written = .ok o ∧ rule.Decides q o := by
    intro q code hnone hcode
    rw [hcode] at hrun
    refine ⟨_, runChain_of_fail hrun, ⟨fun hpass => ?_, fun hq => absurd hq hnone⟩, fun hpass => ?_⟩
    · exact absurd hpass (Option.some_ne_none _)
    · exact absurd hpass (Option.some_ne_none _)
  cases hn : Number.ofText? s with
  | none =>
    have hnumber : (Value.text s).number? = none := hn
    exact hfails _ rule.code (by simp) (by rw [Leaf.checkNumber, hnumber])
  | some n =>
    rcases rule.checkNumber_cases (.text s) hn with
      ⟨hadmits, m, hm, hkind, hcheck⟩ | ⟨hnot, code, hcheck⟩
    · rw [hcheck] at hrun
      refine ⟨{ value := .ofNumber m, written := true }, ?_, ?_, ?_⟩
      · rw [runChain_of_wrote hrun, runChain_nil]
      · exact ⟨fun _ => ⟨n.toRat, rfl, hadmits⟩, fun _ => rfl⟩
      · exact fun _ => ⟨rfl, m, rfl, congrArg some hm.symm, hkind⟩
    · refine hfails _ code ?_ hcheck
      rintro ⟨p, hp, hadmits⟩
      rw [← Option.some.inj hp] at hadmits
      exact hnot hadmits

end NumberRule

/-! ## Literals -/

theorem Text.trimList_trim (s : String) : trimList (trim s).toList = trimList s.toList := by
  rw [← toList_trim, trim_trim, toList_trim]

theorem Number.ofText?_trim (s : String) : ofText? (Text.trim s) = ofText? s := by
  rw [ofText?, Text.trimList_trim, ofText?]

/-- A text with a literal in it is not empty. -/
theorem Literal.isEmpty_of_chars {ℓ : Literal} {s : String}
    (hs : Text.trimList s.toList = ℓ.chars) : s.isEmpty = false := by
  have hbody : ℓ.bodyWith Digit.char ≠ [] := by
    intro hnil
    rcases head?_bodyWith Digit.char ℓ with h | ⟨d, h⟩ <;>
    · rw [hnil] at h
      exact nomatch h
  rw [Bool.eq_false_iff, ne_eq, String.isEmpty_iff]
  rintro rfl
  exact hbody (List.append_eq_nil_iff.mp hs.symm).2

/-- **A rule for numbers takes a literal for the number that it is read as.** A literal of at most
4300 characters, which may have blanks around it, is read as exactly one number or as none
(`Literal.ReadAs`). If there is a number and the rule admits it, the text passes and that number is
written, and else it fails. -/
theorem numbers_of_literals {r : Registry} {limit : Int} (hr : r.Extends Builder.IsAlias)
    {autoTrim : Option Bool} {ℓ : Literal} {s : String} (hs : Text.trimList s.toList = ℓ.chars)
    (hlength : ℓ.chars.length ≤ 4300) :
    ∃ q, (∀ p, ℓ.ReadAs p ↔ p = q) ∧ ∀ (rule : NumberRule) (chain : Chain),
      compileField ⟨r, limit⟩ rule.spec autoTrim = .ok chain → ∀ siblings,
      ∃ o, runChain chain (.text s) siblings false = .ok o ∧ rule.Decides q o := by
  have hread := Literal.readAs_ofText? hs hlength
  refine ⟨_, fun p => ⟨fun hp => hp.unique hread, fun hp => hp ▸ hread⟩, ?_⟩
  intro rule chain hchain siblings
  rw [compileField_eq_ok_iff hr.plain_of_isAlias] at hchain
  obtain ⟨step, rfl, hcheck⟩ := NumberRule.check_of_field hr hchain
  have hempty := Literal.isEmpty_of_chars hs
  cases autoTrim.getD false with
  | false => exact NumberRule.runChain_decides hcheck hempty siblings false
  | true =>
    -- The pass in front writes the text without the blanks, which is read in the same way.
    have htrimmed : (Text.trim s).isEmpty = false :=
      Literal.isEmpty_of_chars ((Text.trimList_trim s).trans hs)
    have hdecides := NumberRule.runChain_decides hcheck htrimmed siblings true
    rw [Number.ofText?_trim] at hdecides
    rw [runChain_withTrim]
    exact hdecides

/-- The ASCII digit of a value. -/
def Digit.ofFin (n : Fin 10) : Digit := ⟨Nat.digitChar n, by revert n; decide +kernel⟩

/-- The literal `1.5e1`. -/
def fifteen : Literal where
  sign := none
  whole := [.ofFin 1]
  fraction := some [.ofFin 5]
  exponent := some { upper := false, sign := none, digits := [.ofFin 1], digits_ne_nil := by simp }
  digits_ne_nil := by simp

theorem numbers_of_literals_fifteen :
    Registry.ofBuiltins.Extends Builder.IsAlias ∧
      Text.trimList " 1.5e1 ".toList = fifteen.chars ∧ fifteen.chars.length ≤ 4300 ∧
      ∃ chain, compileField ⟨.ofBuiltins, 20⟩ NumberRule.integer.spec none = .ok chain ∧
        runChain chain (.text " 1.5e1 ") [] false = .ok { value := .int 15, written := true } ∧
        ∃ q, (∀ p, fifteen.ReadAs p ↔ p = q) ∧ ∀ siblings,
          ∃ o, runChain chain (.text " 1.5e1 ") siblings false = .ok o ∧
            NumberRule.integer.Decides q o := by
  have hr := Registry.extends_ofBuiltins Builder.IsAlias
  have hs : Text.trimList " 1.5e1 ".toList = fifteen.chars := by decide +kernel
  have hlength : fifteen.chars.length ≤ 4300 := by decide +kernel
  obtain ⟨chain, hc, hrun⟩ : ∃ chain, compileField ⟨.ofBuiltins, 20⟩ NumberRule.integer.spec none =
      .ok chain ∧ runChain chain (.text " 1.5e1 ") [] false =
        .ok { value := .int 15, written := true } := ⟨_, rfl, rfl⟩
  obtain ⟨q, hq, hdecides⟩ := numbers_of_literals hr hs hlength
  exact ⟨hr, hs, hlength, chain, hc, hrun, q, hq, hdecides .integer chain hc⟩

/-- The literal `9007199254740993.0`. -/
def unrepresentable : Literal where
  sign := none
  whole := [9, 0, 0, 7, 1, 9, 9, 2, 5, 4, 7, 4, 0, 9, 9, 3].map Digit.ofFin
  fraction := some [.ofFin 0]
  exponent := none
  digits_ne_nil := by simp

/-- **An integer can be accepted and another one be written.** The literal denotes an integer that is
no float, and it is read as the float next to it. -/
theorem integer_rounds :
    unrepresentable.chars = "9007199254740993.0".toList ∧ unrepresentable.chars.length ≤ 4300 ∧
      unrepresentable.value = (9007199254740993 : Int) ∧
      ∃ chain, compileField ⟨.ofBuiltins, 20⟩ NumberRule.integer.spec none = .ok chain ∧
        runChain chain (.text "9007199254740993.0") [] false =
          .ok { value := .int 9007199254740992, written := true } := by
  have hcoefficient : unrepresentable.coefficient = 90071992547409930 := by decide +kernel
  have hscale : unrepresentable.scale = -1 := by decide +kernel
  have hvalue : unrepresentable.value = (9007199254740993 : Int) := by
    rw [Literal.value, Literal.magnitude, hcoefficient, hscale]
    norm_num [Literal.negative, unrepresentable, Binary64.sign]
  exact ⟨by decide +kernel, by decide +kernel, hvalue, _, rfl, rfl⟩

end FieldRules
