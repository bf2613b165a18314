import FieldRules.Proofs.Compile.Arguments
import FieldRules.Proofs.Compile.Calls
import FieldRules.Proofs.Run.Chain

/-!
# A range is its two bounds

A rule with two bounds could be written as two rules, the one for the lower bound and then the one
for the upper bound. The second rule does not see the value that the first one saw, though, but what
it wrote, which is the number or the text of the value. That makes no difference, because numbers are
read as what they are and so are texts (`Check.Factors.number`, `Check.Factors.text`), and so the two
rules come to the same as the one, except that with an error the value may already be written
(`between_factors`). A length that is given exactly is a range of one length.
-/

set_option autoImplicit false

namespace FieldRules

/-- A rule with two bounds, the rule for the lower one and the rule for the upper one. -/
inductive Builtin.Bounds : (both lower upper : Builtin) → Prop
  | number : Bounds .numberBetween .minNumber .maxNumber
  | length : Bounds .lengthBetween .minLength .maxLength

/-- The same error, and without an error the same altogether. -/
def Outcome.Agrees (o p : Outcome) : Prop := o.error = p.error ∧ (o.error = none → o = p)

theorem Outcome.Agrees.refl (o : Outcome) : o.Agrees o := ⟨rfl, fun _ => rfl⟩

/-- What a check does that writes a value unless a condition is violated. -/
def Effect.unless (violation : Option Code) (w : Value) : Effect :=
  match violation with
  | some code => .fail code
  | none => .wrote w

/-! ## One check and two -/

/-- What one check does to a value, two others do one after the other, the second one to what the
first one wrote. -/
inductive Check.Factors (both lower upper : Check) (siblings : Entries) (v : Value) : Prop
  | fault (fault : Fault) : both.run v siblings = .error fault → lower.run v siblings = .error fault →
    Factors both lower upper siblings v
  | pass : both.run v siblings = .ok .pass → lower.run v siblings = .ok .pass →
    upper.run v siblings = .ok .pass → Factors both lower upper siblings v
  | first (code : Code) : both.run v siblings = .ok (.fail code) →
    lower.run v siblings = .ok (.fail code) → Factors both lower upper siblings v
  | second (code : Code) (w : Value) : both.run v siblings = .ok (.fail code) →
    lower.run v siblings = .ok (.wrote w) → upper.run w siblings = .ok (.fail code) →
    Factors both lower upper siblings v
  | wrote (w : Value) : both.run v siblings = .ok (.wrote w) →
    lower.run v siblings = .ok (.wrote w) →
    upper.run w siblings = .ok .pass ∨ upper.run w siblings = .ok (.wrote w) →
    Factors both lower upper siblings v

namespace Check.Factors

variable {v : Value} {siblings : Entries}

/-- As chains, the one check and the two agree. -/
theorem agrees {both lower upper : Step}
    (h : Factors both.check lower.check upper.check siblings v) :
    Except.Alike Outcome.Agrees (runChain [both] v siblings false)
      (runChain [lower, upper] v siblings false) := by
  cases h with
  | fault fault hb hl =>
    rw [runChain_of_fault hb, runChain_of_fault hl]
    exact .error fault
  | pass hb hl hu =>
    rw [runChain_of_pass hb, runChain_of_pass hl, runChain_of_pass hu]
    exact .refl .refl _
  | first code hb hl =>
    rw [runChain_of_fail hb, runChain_of_fail hl]
    exact .ok (.refl _)
  | second code w hb hl hu =>
    -- The first of the two rules has written, and the error of the second does not undo that.
    rw [runChain_of_fail hb, runChain_of_wrote hl, runChain_of_fail hu]
    exact .ok ⟨rfl, fun hpass => nomatch hpass⟩
  | wrote w hb hl hu =>
    rw [runChain_of_wrote hb, runChain_of_wrote hl]
    rcases hu with hu | hu
    · rw [runChain_of_pass hu]
      exact .refl .refl _
    · rw [runChain_of_wrote hu]
      exact .refl .refl _

/-- **Two conditions on what is written are checked one after the other**, if the first check writes
what the second one reads, and a check that reads nothing there has nothing to object to. -/
theorem of_violations {both lower upper : Check} (w : Value) (low high : Option Code)
    (hb : both.run v siblings = .ok (.unless (low.or high) w))
    (hl : lower.run v siblings = .ok (.unless low w))
    (hu : upper.run w siblings = .ok (.unless high w) ∨
      high = none ∧ upper.run w siblings = .ok .pass) : Factors both lower upper siblings v := by
  cases low with
  | some code => exact .first code hb hl
  | none =>
    rcases hu with hu | ⟨rfl, hu⟩
    · cases high with
      | some code => exact .second code w hb hl hu
      | none => exact .wrote w hb hl (Or.inr hu)
    · exact .wrote w hb hl (Or.inl hu)

end Check.Factors

/-! ## Numbers -/

section
variable {v : Value} {siblings : Entries}

/-- What a rule for numbers does to a value that is or denotes a number is up to the number. -/
theorem Check.run_number_of_number? (hm : v.isMissing = false) (hp : v.isPrimitive = true)
    {n : Number} (hn : v.number? = some n) (test : NumberTest) :
    (Check.leaf (.number .notNumber false test)).run v siblings =
      .ok (.unless (test.violation? n) (.ofNumber n)) := by
  rw [Check.run, Leaf.run_number_of_isPrimitive hm hp, Leaf.checkNumber, hn]
  rfl

theorem NumberTest.violation?_between (low high n : Number) :
    (between low high).violation? n =
      ((atLeast low).violation? n).or ((atMost high).violation? n) := by
  simp only [violation?]
  split <;> rfl

/-- **Two bounds of a number are checked one after the other.** -/
theorem Check.Factors.number (low high : Number) (siblings : Entries) (v : Value) :
    Check.Factors (.leaf (.number .notNumber false (.between low high)))
      (.leaf (.number .notNumber false (.atLeast low)))
      (.leaf (.number .notNumber false (.atMost high))) siblings v := by
  by_cases hm : v.isMissing = true
  · apply pass <;> simp [Check.run, Leaf.run, hm]
  rw [Bool.not_eq_true] at hm
  by_cases hp : v.isPrimitive = true
  · cases hn : v.number? with
    | none => apply first .notNumber <;> simp [Check.run, Leaf.run, hm, hp, Leaf.checkNumber, hn]
    | some n =>
      apply of_violations (.ofNumber n)
      · rw [Check.run_number_of_number? hm hp hn, NumberTest.violation?_between]
      · exact Check.run_number_of_number? hm hp hn _
      · -- The second rule sees the number, which is read as what it is.
        exact Or.inl (Check.run_number_of_number? (Value.isMissing_ofNumber n)
          (Value.isPrimitive_ofNumber n) (Value.number?_ofNumber n) _)
  · rw [Bool.not_eq_true] at hp
    apply first .formatError <;> simp [Check.run, Leaf.run, hm, hp]

/-! ## Lengths -/

/-- What a rule for texts does to a text, whatever the value is that has it. -/
theorem Leaf.checkText_eq {test : TextTest} {s : String} {violation : Option Code}
    (h : test.violation? s = .ok violation) :
    checkText test s = .ok (.unless violation (.text s)) := by
  rw [checkText, h]
  cases violation <;> rfl

theorem Check.run_text (test : TextTest) (v : Value) (siblings : Entries) :
    (Check.leaf (.text test)).run v siblings = Leaf.onText v (Leaf.checkText test) := by
  rw [run, Leaf.run]

/-- The code of a length that is too small, and the code of one that is too great. -/
def lengthViolations (low high length : Nat) : Option Code × Option Code :=
  (if length < low then some .tooShort else none, if high < length then some .tooLong else none)

/-- **Two bounds of a length are checked one after the other.** -/
theorem Check.Factors.length (low high : Nat) (siblings : Entries) (v : Value) :
    Check.Factors (.leaf (.text (.between low high))) (.leaf (.text (.atLeast low)))
      (.leaf (.text (.atMost high))) siblings v := by
  by_cases hm : v.isMissing = true
  · apply pass <;> rw [Check.run_text, Leaf.onText_of_isMissing hm]
  rw [Bool.not_eq_true] at hm
  by_cases hp : v.isPrimitive = true
  · cases hs : v.plainText with
    | error f =>
      apply fault f <;> rw [Check.run_text, Leaf.onText_of_isPrimitive hm hp, hs] <;> rfl
    | ok s =>
      have hrun : ∀ test : TextTest,
          (Check.leaf (.text test)).run v siblings = Leaf.checkText test s := by
        intro test
        rw [Check.run_text, Leaf.onText_of_isPrimitive hm hp, hs]
        rfl
      apply of_violations (.text s) (lengthViolations low high s.length).1
        (lengthViolations low high s.length).2
      · rw [hrun]
        apply Leaf.checkText_eq
        simp only [TextTest.violation?, lengthViolations]
        split <;> rfl
      · rw [hrun]
        exact Leaf.checkText_eq rfl
      · -- The second rule sees the text, which reads as itself unless it is empty, and then it is
        -- not too long.
        by_cases hempty : (Value.text s).isMissing = true
        · have hzero : s.length = 0 := by simpa [Value.isMissing] using hempty
          refine Or.inr ⟨by simp [lengthViolations, hzero], ?_⟩
          rw [Check.run_text, Leaf.onText_of_isMissing hempty]
        · rw [Bool.not_eq_true] at hempty
          refine Or.inl ?_
          rw [Check.run_text, Leaf.onText_of_isPrimitive hempty rfl,
            Value.plainText_eq_ok.mpr (Value.plainText?_text s), Except.ok_bind]
          exact Leaf.checkText_eq rfl
  · rw [Bool.not_eq_true] at hp
    apply first .formatError <;> rw [Check.run_text, Leaf.onText_of_not_isPrimitive hm hp]

end

/-! ## The specs -/

namespace Builtin

variable {c d : Compilation} {a b : Value}

/-- **The rule with two bounds makes a check that the rules for the bounds make two of.** -/
theorem Bounds.factors {both lower upper : Builtin} (hbounds : Bounds both lower upper)
    {first second third : Check} (hboth : (both.recipe [a, b]).Yields c first)
    (hlower : (lower.recipe a.arguments).Yields d second)
    (hupper : (upper.recipe b.arguments).Yields d third) (siblings : Entries) (v : Value) :
    Check.Factors first second third siblings v := by
  cases hbounds with
  | number =>
    obtain ⟨⟨low, high⟩, hread, rfl⟩ := eq_leaf_of_leafOf hboth
    obtain ⟨ha, hb⟩ := Arguments.numberBounds_eq_ok hread
    rw [Value.arguments_of_number? ha] at hlower
    rw [Value.arguments_of_number? hb] at hupper
    obtain ⟨l, hl, rfl⟩ := eq_leaf_of_leafOf hlower
    obtain ⟨u, hu, rfl⟩ := eq_leaf_of_leafOf hupper
    rw [Arguments.number_eq_ok, ha, Option.some.injEq] at hl
    rw [Arguments.number_eq_ok, hb, Option.some.injEq] at hu
    rw [← hl, ← hu]
    exact .number low high siblings v
  | length =>
    obtain ⟨⟨low, high⟩, hread, rfl⟩ := eq_leaf_of_leafOf hboth
    obtain ⟨ha, hb⟩ := Arguments.lengthBounds_eq_ok hread
    obtain ⟨_, hanumber⟩ := Arguments.number?_of_length? ha
    obtain ⟨_, hbnumber⟩ := Arguments.number?_of_length? hb
    rw [Value.arguments_of_number? hanumber] at hlower
    rw [Value.arguments_of_number? hbnumber] at hupper
    obtain ⟨l, hl, rfl⟩ := eq_leaf_of_leafOf hlower
    obtain ⟨u, hu, rfl⟩ := eq_leaf_of_leafOf hupper
    rw [Arguments.length_eq_ok, ha, Option.some.injEq] at hl
    rw [Arguments.length_eq_ok, hb, Option.some.injEq] at hu
    rw [← hl, ← hu]
    exact .length low high siblings v

/-- A length that is given exactly makes the check of a range of that length. -/
theorem run_lengthEqual {first second : Check}
    (hequal : (lengthEqual.recipe a.arguments).Yields c first)
    (hbetween : (lengthBetween.recipe [a, a]).Yields d second) (v : Value) (siblings : Entries) :
    first.run v siblings = second.run v siblings := by
  obtain ⟨⟨low, high⟩, hread, rfl⟩ := eq_leaf_of_leafOf hbetween
  obtain ⟨hlow, hhigh⟩ := Arguments.lengthBounds_eq_ok hread
  obtain ⟨_, hnumber⟩ := Arguments.number?_of_length? hlow
  rw [Value.arguments_of_number? hnumber] at hequal
  obtain ⟨n, hn, rfl⟩ := eq_leaf_of_leafOf hequal
  rw [Arguments.length_eq_ok] at hn
  obtain rfl : low = n := Option.some.inj (hlow.symm.trans hn)
  obtain rfl : high = low := Option.some.inj (hhigh.symm.trans hn)
  -- The two tests are the same condition on the text.
  show (Check.leaf (.text (.exactly high))).run v siblings =
    (Check.leaf (.text (.between high high))).run v siblings
  rw [Check.run_text, Check.run_text]
  rfl

end Builtin

/-- **A range comes to the same as its two bounds, one after the other.** The rule with two bounds
and the rules for the bounds have the same fault or the same error on every value, and without one
the same value, with or without a write. The rule for an exact length is the one for a range from
that length to that length. -/
theorem between_factors {r : Registry} {limit : Int} (hr : r.Extends Builder.IsAlias)
    {autoTrim : Option Bool} (hoff : autoTrim.getD false = false) :
    (∀ {both lower upper : Builtin}, Builtin.Bounds both lower upper → ∀ {a b : Value} {c d : Chain},
      compileField ⟨r, limit⟩ (both.spec (.list [a, b])) autoTrim = .ok c →
      compileField ⟨r, limit⟩ (.list [lower.spec a, upper.spec b]) autoTrim = .ok d →
      ∀ v siblings, Except.Alike Outcome.Agrees (runChain c v siblings false)
        (runChain d v siblings false)) ∧
    ∀ {n : Value} {c d : Chain},
      compileField ⟨r, limit⟩ (Builtin.lengthEqual.spec n) autoTrim = .ok c →
      compileField ⟨r, limit⟩ (Builtin.lengthBetween.spec (.list [n, n])) autoTrim = .ok d →
      ∀ v siblings, runChain c v siblings false = runChain d v siblings false := by
  constructor
  · intro both lower upper hbounds a b c d hc hd v siblings
    rw [compileField_eq_ok_iff hr.plain_of_isAlias, hoff] at hc hd
    obtain ⟨m, step, -, rfl, hboth⟩ := hr.yields_of_call (Invocation.ofSpec_spec _ _) hc
    obtain ⟨n, steps, -, rfl, hsteps⟩ := hr.yields_of_field
      [(lower, a.arguments), (upper, b.arguments)] (Invocation.ofSpec_pair _ _ _ _) hd
    obtain ⟨first, rest, hlower, hrest, rfl⟩ := List.forall₂_cons_left_iff.mp hsteps
    obtain ⟨second, rest, hupper, hnil, rfl⟩ := List.forall₂_cons_left_iff.mp hrest
    cases hnil
    exact (hbounds.factors hboth hlower hupper siblings v).agrees
  · intro n c d hc hd v siblings
    rw [compileField_eq_ok_iff hr.plain_of_isAlias, hoff] at hc hd
    obtain ⟨_, first, -, rfl, hequal⟩ := hr.yields_of_call (Invocation.ofSpec_spec _ _) hc
    obtain ⟨_, second, -, rfl, hbetween⟩ := hr.yields_of_call (Invocation.ofSpec_spec _ _) hd
    show runChain [first] v siblings false = runChain [second] v siblings false
    rw [runChain_cons, runChain_cons, Builtin.run_lengthEqual hequal hbetween]

/-- A numeral as the lower bound, and a decimal as the upper one. -/
theorem between_factors_mixed :
    Registry.ofBuiltins.Extends Builder.IsAlias ∧ (none : Option Bool).getD false = false ∧
      Builtin.Bounds .numberBetween .minNumber .maxNumber ∧
      ∃ c d e f : Chain,
        compileField ⟨.ofBuiltins, 20⟩ (Builtin.numberBetween.spec
          (.list [.text "1", .decimal (.finite false 25 (-1))])) none = .ok c ∧
        compileField ⟨.ofBuiltins, 20⟩ (.list [Builtin.minNumber.spec (.text "1"),
          Builtin.maxNumber.spec (.decimal (.finite false 25 (-1)))]) none = .ok d ∧
        compileField ⟨.ofBuiltins, 20⟩ (Builtin.lengthEqual.spec (.text "2")) none = .ok e ∧
        compileField ⟨.ofBuiltins, 20⟩
          (Builtin.lengthBetween.spec (.list [.text "2", .text "2"])) none = .ok f ∧
        runChain c (.text "3") [] false =
          .ok { value := .text "3", error := some (.text "TOO_HIGH") } ∧
        (∀ v siblings, Except.Alike Outcome.Agrees (runChain c v siblings false)
          (runChain d v siblings false)) ∧
        ∀ v siblings, runChain e v siblings false = runChain f v siblings false := by
  have hr := Registry.extends_ofBuiltins Builder.IsAlias
  obtain ⟨c, hc, hrun⟩ : ∃ c, compileField ⟨.ofBuiltins, 20⟩ (Builtin.numberBetween.spec
      (.list [.text "1", .decimal (.finite false 25 (-1))])) none = .ok c ∧
      runChain c (.text "3") [] false =
        .ok { value := .text "3", error := some (.text "TOO_HIGH") } := ⟨_, rfl, rfl⟩
  obtain ⟨d, hd⟩ : ∃ d, compileField ⟨.ofBuiltins, 20⟩ (.list [Builtin.minNumber.spec (.text "1"),
      Builtin.maxNumber.spec (.decimal (.finite false 25 (-1)))]) none = .ok d := ⟨_, rfl⟩
  obtain ⟨e, he⟩ : ∃ e, compileField ⟨.ofBuiltins, 20⟩ (Builtin.lengthEqual.spec (.text "2")) none =
      .ok e := ⟨_, rfl⟩
  obtain ⟨f, hf⟩ : ∃ f, compileField ⟨.ofBuiltins, 20⟩
      (Builtin.lengthBetween.spec (.list [.text "2", .text "2"])) none = .ok f := ⟨_, rfl⟩
  exact ⟨hr, rfl, .number, c, d, e, f, hc, hd, he, hf, hrun,
    (between_factors hr rfl).1 .number hc hd, (between_factors hr rfl).2 he hf⟩

end FieldRules
