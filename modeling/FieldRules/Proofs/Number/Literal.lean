import FieldRules.Proofs.Number.Rounding

/-!
# Decimal literals

A decimal literal is made of digits, with a sign, a fraction and an exponent if it has them, and it
denotes a rational number (`Literal.value`). This is what the texts are read as that have such a form,
up to blanks around it: without a fraction and an exponent the number itself, and with one of them
the float that is nearest to it, if there is one (`Literal.readAs`).

The digits may be of any script. Where a float is read they are first replaced by ASCII digits, which
is why the characters of a literal are those for a way of writing digits (`Literal.charsWith`).
-/

set_option autoImplicit false

namespace FieldRules

open Text (isDigit isAsciiDigit digitValue?)
open Numeral (ofDigits)

/-! ## Digits -/

/-- A decimal digit of some script. -/
abbrev Digit := {c : Char // isDigit c = true}

namespace Digit

/-- The character that a digit is. -/
def char (d : Digit) : Char := d.1

/-- The value of a digit. -/
def value (d : Digit) : Nat := (digitValue? d.1).get d.2

/-- The ASCII digit of the same value. -/
def ascii (d : Digit) : Char := Nat.digitChar d.value

theorem digitValue?_char (d : Digit) : digitValue? d.char = some d.value := (Option.some_get d.2).symm

theorem value_lt (d : Digit) : d.value < 10 := Text.digitValue?_lt d.digitValue?_char

theorem char_ne {d : Digit} {c : Char} (h : digitValue? c = none) : d.char ≠ c := by
  intro heq
  have hvalue := d.digitValue?_char
  rw [heq, h] at hvalue
  exact nomatch hvalue

theorem char_ne_sign (d : Digit) : d.char ≠ '-' ∧ d.char ≠ '+' :=
  ⟨char_ne (by decide +kernel), char_ne (by decide +kernel)⟩

/-- What holds of the ten ASCII digits holds of the digit that stands for one. -/
theorem ascii_of_forall (p : Char → Prop) (h : ∀ n < 10, p (Nat.digitChar n)) (d : Digit) :
    p d.ascii := h d.value d.value_lt

theorem isAsciiDigit_ascii (d : Digit) : isAsciiDigit d.ascii = true :=
  ascii_of_forall (isAsciiDigit · = true) (by decide) d

theorem toNat_ascii (d : Digit) : d.ascii.toNat - '0'.toNat = d.value := by
  have hall : ∀ n < 10, (Nat.digitChar n).toNat - '0'.toNat = n := by decide
  exact hall d.value d.value_lt

end Digit

/-! ## Literals -/

/-- The exponent of a literal: a mark of either case, a sign if there is one, and digits. -/
structure Literal.Exponent where
  upper : Bool
  sign : Option Bool
  digits : List Digit
  digits_ne_nil : digits ≠ []

/-- A decimal literal. A sign tells whether it is the negative one. There are digits before the point
or after it. -/
structure Literal where
  sign : Option Bool
  whole : List Digit
  fraction : Option (List Digit)
  exponent : Option Literal.Exponent
  digits_ne_nil : whole ++ fraction.getD [] ≠ []

namespace Literal

/-- The characters of a sign. -/
def signChars : Option Bool → List Char
  | none => []
  | some negative => [if negative then '-' else '+']

/-- The characters of a fraction, with the point in front. -/
def fractionChars (write : Digit → Char) : Option (List Digit) → List Char
  | none => []
  | some digits => '.' :: digits.map write

/-- The characters of an exponent. -/
def exponentChars (write : Digit → Char) : Option Exponent → List Char
  | none => []
  | some e => (if e.upper then 'E' else 'e') :: (signChars e.sign ++ e.digits.map write)

/-- The characters after the sign. -/
def bodyWith (write : Digit → Char) (ℓ : Literal) : List Char :=
  ℓ.whole.map write ++ (fractionChars write ℓ.fraction ++ exponentChars write ℓ.exponent)

/-- The characters, with digits written in some way. -/
def charsWith (write : Digit → Char) (ℓ : Literal) : List Char :=
  signChars ℓ.sign ++ ℓ.bodyWith write

/-- The characters of a literal. -/
def chars (ℓ : Literal) : List Char := ℓ.charsWith Digit.char

/-- Whether the literal is negative. -/
def negative (ℓ : Literal) : Bool := ℓ.sign.getD false

/-- The digits of the number, before and after the point. -/
def digits (ℓ : Literal) : List Digit := ℓ.whole ++ ℓ.fraction.getD []

/-- The number that the digits denote without the point. -/
def coefficient (ℓ : Literal) : Nat := ofDigits (ℓ.digits.map Digit.value)

/-- The number that the exponent denotes. -/
def Exponent.value (e : Exponent) : Int :=
  Binary64.signed (e.sign.getD false) (ofDigits (e.digits.map Digit.value))

/-- The power of ten that the digits count. -/
def scale (ℓ : Literal) : Int :=
  (ℓ.exponent.map Exponent.value).getD 0 - ((ℓ.fraction.getD []).length : Int)

/-- The number without its sign. -/
def magnitude (ℓ : Literal) : ℚ := ℓ.coefficient * 10 ^ ℓ.scale

/-- **The number that the literal denotes.** -/
def value (ℓ : Literal) : ℚ := Binary64.sign ℓ.negative * ℓ.magnitude

/-- Whether there is neither a point nor an exponent. -/
def isPlain (ℓ : Literal) : Bool := ℓ.fraction.isNone && ℓ.exponent.isNone

variable {ℓ : Literal}

/-- A plain literal has the integer as its value that its digits denote. -/
theorem value_of_isPlain (h : ℓ.isPlain = true) :
    ℓ.value = (Binary64.signed ℓ.negative ℓ.coefficient : Int) := by
  obtain ⟨hfraction, hexponent⟩ : ℓ.fraction = none ∧ ℓ.exponent = none := by
    simpa [isPlain] using h
  have hscale : ℓ.scale = 0 := by simp [scale, hfraction, hexponent]
  rw [value, magnitude, hscale, Binary64.cast_signed, zpow_zero, mul_one]

/-! ## The sign -/

/-- A sign is split off from what does not begin with one. -/
theorem splitSign_signChars (sign : Option Bool) {body : List Char}
    (h : ∀ c ∈ body.head?, c ≠ '-' ∧ c ≠ '+') :
    Numeral.splitSign (signChars sign ++ body) = (sign.getD false, body) := by
  cases sign with
  | some negative => cases negative <;> rfl
  | none =>
    cases body with
    | nil => rfl
    | cons c rest =>
      obtain ⟨hminus, hplus⟩ := h c rfl
      show Numeral.splitSign (c :: rest) = (false, c :: rest)
      unfold Numeral.splitSign
      split
      case h_1 heq => exact absurd (List.cons.inj heq).1 hminus
      case h_2 heq => exact absurd (List.cons.inj heq).1 hplus
      case h_3 => rfl

/-- What is after the sign begins with a digit or with the point. -/
theorem head?_bodyWith (write : Digit → Char) (ℓ : Literal) :
    (ℓ.bodyWith write).head? = some '.' ∨ ∃ d, (ℓ.bodyWith write).head? = some (write d) := by
  obtain ⟨sign, whole, fraction, exponent, hne⟩ := ℓ
  cases whole with
  | cons d rest => exact Or.inr ⟨d, rfl⟩
  | nil =>
    cases fraction with
    | some digits => exact Or.inl rfl
    | none => exact absurd rfl hne

theorem splitSign_charsWith (ℓ : Literal) (write : Digit → Char)
    (h : ∀ d, write d ≠ '-' ∧ write d ≠ '+') :
    Numeral.splitSign (ℓ.charsWith write) = (ℓ.negative, ℓ.bodyWith write) := by
  apply splitSign_signChars
  intro c hc
  rcases head?_bodyWith write ℓ with hhead | ⟨d, hhead⟩
  · rw [hhead] at hc
    cases hc
    decide
  · rw [hhead] at hc
    cases hc
    exact h d

/-! ## Read as a whole number -/

theorem groupedDigits_map (digits : List Digit) (afterDigit : Bool)
    (h : afterDigit = true ∨ digits ≠ []) :
    Numeral.groupedDigits afterDigit (digits.map Digit.char) = some (digits.map Digit.value) := by
  induction digits generalizing afterDigit with
  | nil =>
    rw [h.resolve_right fun hne => hne rfl]
    rfl
  | cons d rest ih =>
    have hgroup : d.char ≠ '_' := Digit.char_ne (by decide +kernel)
    rw [List.map_cons, Numeral.groupedDigits, if_neg hgroup, d.digitValue?_char]
    simp [ih true (Or.inl rfl)]

/-- A character that is not a digit spoils a whole numeral. -/
theorem groupedDigits_eq_none {c : Char} (hdigit : digitValue? c = none) (hgroup : c ≠ '_')
    (afterDigit : Bool) {cs : List Char} (h : c ∈ cs) :
    Numeral.groupedDigits afterDigit cs = none := by
  induction cs generalizing afterDigit with
  | nil => exact absurd h (by simp)
  | cons first rest ih =>
    rw [Numeral.groupedDigits]
    rcases List.mem_cons.mp h with rfl | h
    · rw [if_neg hgroup, hdigit]
    · split
      · split
        · exact ih false h
        · rfl
      · split
        · rw [ih true h]
          rfl
        · rfl

/-- **A plain literal is read as the integer it denotes**, unless it is too long. -/
theorem readWhole?_of_isPlain (h : ℓ.isPlain = true)
    (hlength : ℓ.chars.length ≤ Numeral.digitLimit) :
    Numeral.readWhole? ℓ.chars = some (Binary64.signed ℓ.negative ℓ.coefficient) := by
  obtain ⟨hfraction, hexponent⟩ : ℓ.fraction = none ∧ ℓ.exponent = none := by
    simpa [isPlain] using h
  have hdigits : ℓ.digits = ℓ.whole := by simp [digits, hfraction]
  have hbody : ℓ.bodyWith Digit.char = ℓ.digits.map Digit.char := by
    simp [bodyWith, hfraction, hexponent, fractionChars, exponentChars, hdigits]
  have hlimit : (ℓ.digits.map Digit.value).length ≤ Numeral.digitLimit := by
    rw [chars, charsWith, hbody, List.length_append, List.length_map] at hlength
    rw [List.length_map]
    omega
  rw [Numeral.readWhole?, chars, ℓ.splitSign_charsWith _ Digit.char_ne_sign, hbody]
  simp only [groupedDigits_map ℓ.digits false (Or.inr ℓ.digits_ne_nil), if_pos hlimit]
  rfl

/-- A literal with a fraction or an exponent is no whole numeral. -/
theorem readWhole?_of_not_isPlain (h : ℓ.isPlain = false) : Numeral.readWhole? ℓ.chars = none := by
  have hspoilt : Numeral.groupedDigits false (ℓ.bodyWith Digit.char) = none := by
    cases hfraction : ℓ.fraction with
    | some digits =>
      apply groupedDigits_eq_none (c := '.') (by decide +kernel) (by decide)
      simp [bodyWith, hfraction, fractionChars]
    | none =>
      cases hexponent : ℓ.exponent with
      | none => simp [isPlain, hfraction, hexponent] at h
      | some e =>
        obtain ⟨upper, sign, digits, hne⟩ := e
        cases upper with
        | true =>
          apply groupedDigits_eq_none (c := 'E') (by decide +kernel) (by decide)
          simp [bodyWith, hfraction, hexponent, fractionChars, exponentChars]
        | false =>
          apply groupedDigits_eq_none (c := 'e') (by decide +kernel) (by decide)
          simp [bodyWith, hfraction, hexponent, fractionChars, exponentChars]
  rw [Numeral.readWhole?, chars, ℓ.splitSign_charsWith _ Digit.char_ne_sign]
  simp only [hspoilt]

/-! ## Read as a float -/

theorem asciiDigits_append (cs ds : List Char) :
    Numeral.asciiDigits (cs ++ ds) = Numeral.asciiDigits cs ++ Numeral.asciiDigits ds :=
  List.map_append

theorem asciiDigits_map (digits : List Digit) :
    Numeral.asciiDigits (digits.map Digit.char) = digits.map Digit.ascii := by
  induction digits with
  | nil => rfl
  | cons d rest ih =>
    rw [Numeral.asciiDigits] at ih ⊢
    rw [List.map_cons, List.map_cons, ih, d.digitValue?_char]
    rfl

theorem asciiDigits_signChars (sign : Option Bool) :
    Numeral.asciiDigits (signChars sign) = signChars sign := by
  rcases sign with _ | _ | _ <;> decide +kernel

/-- **Where a float is read, the digits become ASCII digits, and nothing else changes.** -/
theorem asciiDigits_chars (ℓ : Literal) : Numeral.asciiDigits ℓ.chars = ℓ.charsWith Digit.ascii := by
  have hpoint : Numeral.asciiDigits ['.'] = ['.'] := by decide +kernel
  have hmark : ∀ upper : Bool, Numeral.asciiDigits [if upper then 'E' else 'e'] =
      [if upper then 'E' else 'e'] := by decide +kernel
  have hfraction : Numeral.asciiDigits (fractionChars Digit.char ℓ.fraction) =
      fractionChars Digit.ascii ℓ.fraction := by
    cases ℓ.fraction with
    | none => rfl
    | some digits =>
      show Numeral.asciiDigits (['.'] ++ digits.map Digit.char) = _
      rw [asciiDigits_append, hpoint, asciiDigits_map]
      rfl
  have hexponent : Numeral.asciiDigits (exponentChars Digit.char ℓ.exponent) =
      exponentChars Digit.ascii ℓ.exponent := by
    cases ℓ.exponent with
    | none => rfl
    | some e =>
      show Numeral.asciiDigits ([if e.upper then 'E' else 'e'] ++ (signChars e.sign ++ _)) = _
      rw [asciiDigits_append, hmark, asciiDigits_append, asciiDigits_signChars, asciiDigits_map]
      rfl
  simp only [chars, charsWith, bodyWith, asciiDigits_append, asciiDigits_signChars, asciiDigits_map,
    hfraction, hexponent]

/-- Without underscores there is nothing to drop. -/
theorem dropGrouping_of_forall (afterDigit : Bool) {cs : List Char} (h : ∀ c ∈ cs, c ≠ '_') :
    Numeral.dropGrouping afterDigit cs = some cs := by
  induction cs generalizing afterDigit with
  | nil => rfl
  | cons c rest ih =>
    rw [List.forall_mem_cons] at h
    rw [Numeral.dropGrouping]
    · rw [ih _ h.2]
      rfl
    · exact h.1

/-- No character of a literal is an underscore. -/
theorem ne_underscore_of_mem (ℓ : Literal) (c : Char) (h : c ∈ ℓ.charsWith Digit.ascii) :
    c ≠ '_' := by
  have hdigits : ∀ digits : List Digit, ∀ c ∈ digits.map Digit.ascii, c ≠ '_' := by
    intro digits c hc
    obtain ⟨d, -, rfl⟩ := List.mem_map.mp hc
    exact Digit.ascii_of_forall (· ≠ '_') (by decide) d
  have hsign : ∀ sign : Option Bool, ∀ c ∈ signChars sign, c ≠ '_' := by
    intro sign c hc
    cases sign with
    | none => exact absurd hc List.not_mem_nil
    | some negative =>
      rw [List.mem_singleton.mp hc]
      cases negative <;> decide
  simp only [charsWith, bodyWith, List.mem_append] at h
  rcases h with h | h | h | h
  · exact hsign _ c h
  · exact hdigits _ c h
  · cases hfraction : ℓ.fraction with
    | none => simp [hfraction, fractionChars] at h
    | some digits =>
      rw [hfraction] at h
      rcases List.mem_cons.mp h with rfl | h
      · decide
      · exact hdigits _ c h
  · cases hexponent : ℓ.exponent with
    | none => simp [hexponent, exponentChars] at h
    | some e =>
      rw [hexponent] at h
      rcases List.mem_cons.mp h with rfl | h
      · cases e.upper <;> decide
      · rcases List.mem_append.mp h with h | h
        · exact hsign _ c h
        · exact hdigits _ c h

/-- What begins with a digit or with the point is no word. -/
theorem readWord?_bodyWith (negative : Bool) (ℓ : Literal) :
    Numeral.readWord? negative (ℓ.bodyWith Digit.ascii) = none := by
  have hhead : ∀ c, ((ℓ.bodyWith Digit.ascii).map Char.toLower).head? = some c →
      c ≠ 'i' ∧ c ≠ 'n' := by
    intro c hc
    rw [List.head?_map] at hc
    rcases head?_bodyWith Digit.ascii ℓ with hbody | ⟨d, hbody⟩
    · rw [hbody] at hc
      cases hc
      decide
    · rw [hbody] at hc
      cases hc
      exact Digit.ascii_of_forall (fun c => c.toLower ≠ 'i' ∧ c.toLower ≠ 'n') (by decide) d
  have hword : ∀ word : String,
      String.ofList ((ℓ.bodyWith Digit.ascii).map Char.toLower) = word →
      word.toList.head? ≠ some 'i' ∧ word.toList.head? ≠ some 'n' := by
    rintro word rfl
    rw [String.toList_ofList]
    exact ⟨fun h => (hhead _ h).1 rfl, fun h => (hhead _ h).2 rfl⟩
  unfold Numeral.readWord?
  split
  case h_1 h => exact absurd rfl (hword _ h).1
  case h_2 h => exact absurd rfl (hword _ h).1
  case h_3 h => exact absurd rfl (hword _ h).2
  case h_4 => rfl

/-! ### The magnitude -/

theorem asciiValue_map (digits : List Digit) :
    Numeral.asciiValue (digits.map Digit.ascii) = ofDigits (digits.map Digit.value) := by
  unfold Numeral.asciiValue
  rw [List.map_map]
  congr 1
  apply List.map_congr_left
  intro d _
  exact d.toNat_ascii

theorem all_isAsciiDigit_map (digits : List Digit) :
    ∀ c ∈ digits.map Digit.ascii, isAsciiDigit c = true := by
  intro c hc
  obtain ⟨d, -, rfl⟩ := List.mem_map.mp hc
  exact d.isAsciiDigit_ascii

/-- The digits are taken up to the first character that is none. -/
theorem takeWhile_map_append (digits : List Digit) {rest : List Char}
    (h : rest.takeWhile isAsciiDigit = []) :
    (digits.map Digit.ascii ++ rest).takeWhile isAsciiDigit = digits.map Digit.ascii := by
  rw [List.takeWhile_append_of_pos (all_isAsciiDigit_map digits), h, List.append_nil]

theorem dropWhile_map_append (digits : List Digit) {rest : List Char}
    (h : rest.dropWhile isAsciiDigit = rest) :
    (digits.map Digit.ascii ++ rest).dropWhile isAsciiDigit = rest := by
  rw [List.dropWhile_append_of_pos (all_isAsciiDigit_map digits), h]

/-- What is after the digits of an exponent or of a fraction does not begin with a digit. -/
theorem takeWhile_exponentChars (exponent : Option Exponent) :
    (exponentChars Digit.ascii exponent).takeWhile isAsciiDigit = [] ∧
      (exponentChars Digit.ascii exponent).dropWhile isAsciiDigit =
        exponentChars Digit.ascii exponent := by
  cases exponent with
  | none => exact ⟨rfl, rfl⟩
  | some e =>
    obtain ⟨upper, sign, digits, hne⟩ := e
    cases upper <;> exact ⟨rfl, rfl⟩

theorem takeWhile_fractionChars (fraction : Option (List Digit)) (exponent : Option Exponent) :
    (fractionChars Digit.ascii fraction ++ exponentChars Digit.ascii exponent).takeWhile
        isAsciiDigit = [] ∧
      (fractionChars Digit.ascii fraction ++ exponentChars Digit.ascii exponent).dropWhile
        isAsciiDigit = fractionChars Digit.ascii fraction ++ exponentChars Digit.ascii exponent := by
  cases fraction with
  | none => exact takeWhile_exponentChars exponent
  | some digits => exact ⟨rfl, rfl⟩

/-- The digits after a point, if there is one, and what is left. -/
def splitFraction : List Char → List Char × List Char
  | '.' :: after => (after.takeWhile isAsciiDigit, after.dropWhile isAsciiDigit)
  | rest => ([], rest)

theorem readMagnitude?_eq (cs : List Char) :
    Numeral.readMagnitude? cs =
      if (cs.takeWhile isAsciiDigit).isEmpty &&
        (splitFraction (cs.dropWhile isAsciiDigit)).1.isEmpty then none
      else (Numeral.readExponent? (splitFraction (cs.dropWhile isAsciiDigit)).2).map fun e =>
        (Numeral.asciiValue
          (cs.takeWhile isAsciiDigit ++ (splitFraction (cs.dropWhile isAsciiDigit)).1),
          e - ((splitFraction (cs.dropWhile isAsciiDigit)).1.length : Int)) := by
  unfold Numeral.readMagnitude? splitFraction
  generalize cs.dropWhile isAsciiDigit = rest
  split
  case h_1 => rfl
  case h_2 hpoint =>
    dsimp only
    split
    case h_1 after => exact (hpoint after rfl).elim
    case h_2 => rfl

theorem splitFraction_fractionChars (fraction : Option (List Digit)) (exponent : Option Exponent) :
    splitFraction (fractionChars Digit.ascii fraction ++ exponentChars Digit.ascii exponent) =
      ((fraction.getD []).map Digit.ascii, exponentChars Digit.ascii exponent) := by
  cases fraction with
  | some digits =>
    obtain ⟨htake, hdrop⟩ := takeWhile_exponentChars exponent
    show ((digits.map Digit.ascii ++ exponentChars Digit.ascii exponent).takeWhile isAsciiDigit,
      (digits.map Digit.ascii ++ exponentChars Digit.ascii exponent).dropWhile isAsciiDigit) = _
    rw [takeWhile_map_append digits htake, dropWhile_map_append digits hdrop]
    rfl
  | none =>
    cases exponent with
    | none => rfl
    | some e =>
      obtain ⟨upper, sign, digits, hne⟩ := e
      cases upper <;> rfl

theorem readExponent?_exponentChars (exponent : Option Exponent) :
    Numeral.readExponent? (exponentChars Digit.ascii exponent) =
      some ((exponent.map Exponent.value).getD 0) := by
  cases exponent with
  | none => rfl
  | some e =>
    have hsplit : Numeral.splitSign (signChars e.sign ++ e.digits.map Digit.ascii) =
        (e.sign.getD false, e.digits.map Digit.ascii) := by
      apply splitSign_signChars
      intro c hc
      obtain ⟨d, -, rfl⟩ := List.mem_map.mp (List.mem_of_mem_head? hc)
      exact Digit.ascii_of_forall (fun c => c ≠ '-' ∧ c ≠ '+') (by decide) d
    have hmark : ((if e.upper then 'E' else 'e') = 'e' || (if e.upper then 'E' else 'e') = 'E') = true := by
      cases e.upper <;> rfl
    have hdigits : (!(e.digits.map Digit.ascii).isEmpty &&
        (e.digits.map Digit.ascii).all isAsciiDigit) = true := by
      rw [List.all_eq_true.mpr (all_isAsciiDigit_map e.digits)]
      simp [e.digits_ne_nil]
    rw [exponentChars, Numeral.readExponent?, if_pos hmark, hsplit]
    simp only [hdigits, asciiValue_map]
    rfl

theorem readMagnitude?_bodyWith (ℓ : Literal) :
    Numeral.readMagnitude? (ℓ.bodyWith Digit.ascii) = some (ℓ.coefficient, ℓ.scale) := by
  obtain ⟨htake, hdrop⟩ := takeWhile_fractionChars ℓ.fraction ℓ.exponent
  have hdigits : ¬ ((ℓ.whole.map Digit.ascii).isEmpty &&
      ((ℓ.fraction.getD []).map Digit.ascii).isEmpty) = true := by
    have hne := ℓ.digits_ne_nil
    simpa using hne
  rw [readMagnitude?_eq, bodyWith, takeWhile_map_append _ htake, dropWhile_map_append _ hdrop,
    splitFraction_fractionChars, if_neg hdigits, readExponent?_exponentChars, ← List.map_append,
    asciiValue_map, List.length_map]
  rfl

/-- **As a real numeral, a literal is read as the float of the decimal that it denotes.** -/
theorem readReal?_chars (ℓ : Literal) :
    Numeral.readReal? ℓ.chars = some (Binary64.ofDecimal ℓ.negative ℓ.coefficient ℓ.scale) := by
  have hdrop := dropGrouping_of_forall false fun c => ℓ.ne_underscore_of_mem c
  have hsign := ℓ.splitSign_charsWith Digit.ascii
    (Digit.ascii_of_forall (fun c => c ≠ '-' ∧ c ≠ '+') (by decide))
  rw [Numeral.readReal?, asciiDigits_chars, hdrop]
  simp only [hsign, readWord?_bodyWith, readMagnitude?_bodyWith]
  rfl

/-! ## Read as a number -/

/-- The number that a literal is read as. A plain literal is read as what it denotes. Any other one is
read as a float, which is the nearest one to what it denotes, or if that is too great as nothing. -/
inductive ReadAs (ℓ : Literal) : Option ℚ → Prop
  | exact : ℓ.isPlain = true → ReadAs ℓ (some ℓ.value)
  | nearest {rank : Nat} : ℓ.isPlain = false → ℓ.magnitude < Binary64.overflow →
    IsNearest Binary64.magnitude ℓ.magnitude rank →
    ReadAs ℓ (some (Binary64.sign ℓ.negative * Binary64.magnitude rank))
  | tooGreat : ℓ.isPlain = false → Binary64.overflow ≤ ℓ.magnitude → ReadAs ℓ none

/-- There is only one such number. -/
theorem ReadAs.unique {p q : Option ℚ} (hp : ℓ.ReadAs p) (hq : ℓ.ReadAs q) : p = q := by
  cases hp with
  | exact hplain =>
    cases hq with
    | exact _ => rfl
    | nearest h _ _ => exact absurd (hplain.symm.trans h) (by decide)
    | tooGreat h _ => exact absurd (hplain.symm.trans h) (by decide)
  | nearest hplain hlt hnearest =>
    cases hq with
    | exact h => exact absurd (hplain.symm.trans h) (by decide)
    | nearest _ _ h => rw [hnearest.unique Binary64.magnitude_strictMono h]
    | tooGreat _ hge => exact absurd hlt (not_lt.mpr hge)
  | tooGreat hplain hge =>
    cases hq with
    | exact h => exact absurd (hplain.symm.trans h) (by decide)
    | nearest _ hlt _ => exact absurd hlt (not_lt.mpr hge)
    | tooGreat _ _ => rfl

/-- **A text that is a literal but for blanks around it is read as the literal is.** -/
theorem readAs_ofText? {s : String} (hs : Text.trimList s.toList = ℓ.chars)
    (hlength : ℓ.chars.length ≤ Numeral.digitLimit) :
    ℓ.ReadAs ((Number.ofText? s).map Number.toRat) := by
  unfold Number.ofText?
  dsimp only
  rw [hs]
  cases hplain : ℓ.isPlain with
  | true =>
    rw [readWhole?_of_isPlain hplain hlength]
    show ℓ.ReadAs (some (Number.toRat _))
    rw [Number.toRat_whole, ← value_of_isPlain hplain]
    exact .exact hplain
  | false =>
    rw [readWhole?_of_not_isPlain hplain, readReal?_chars]
    rcases Binary64.ofDecimal_cases ℓ.negative ℓ.coefficient ℓ.scale rfl with
      ⟨hlt, rank, hnearest, hfinite⟩ | ⟨hge, hinfinite⟩
    · rw [hfinite]
      show ℓ.ReadAs (some (Number.toRat _))
      rw [Number.toRat_binary]
      exact .nearest hplain hlt hnearest
    · rw [hinfinite]
      exact .tooGreat hplain hge

end Literal

end FieldRules
