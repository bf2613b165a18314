import Mathlib.Data.List.Induction
import FieldRules.Proofs.Run.Format

/-!
# The texts of calendar dates

Two conditions make a text a date, and neither of them implies the other: it has a form that digits
of any script can have, and it is read as a date, which is possible in several forms and with ASCII
digits only. What satisfies both is the year in four ASCII digits, the month in two and the day in
two, with hyphens between (`isIsoDate_iff`), and the rule for dates accepts just that
(`isoDate_accepts`).

Numbers are written here with a given number of digits (`padded`), which reading undoes
(`readNumber?_append`). The calendar is that of `Std.Time.PlainDate`.
-/

set_option autoImplicit false

namespace FieldRules.Format

open Text (isDigit isAsciiDigit valueIn hexValue)

/-! ## Numbers of a given width -/

/-- A number in so many digits, the last ones if there are more. -/
def padded : (width n : Nat) → List Char
  | 0, _ => []
  | width + 1, n => padded width (n / 10) ++ [Nat.digitChar (n % 10)]

@[simp] theorem length_padded (width n : Nat) : (padded width n).length = width := by
  induction width generalizing n with
  | zero => rfl
  | succ width ih => simp [padded, ih]

theorem isAsciiDigit_iff (c : Char) : isAsciiDigit c = true ↔ 48 ≤ c.toNat ∧ c.toNat ≤ 57 := by
  simp [isAsciiDigit, Char.le_def, UInt32.le_iff_toNat_le]

theorem isAsciiDigit_padded {width n : Nat} {c : Char} (h : c ∈ padded width n) :
    isAsciiDigit c = true := by
  induction width generalizing n with
  | zero => simp [padded] at h
  | succ width ih =>
    rw [padded, List.mem_append, List.mem_singleton] at h
    rcases h with h | rfl
    · exact ih h
    · have hall : ∀ d < 10, isAsciiDigit (Nat.digitChar d) = true := by decide
      exact hall _ (Nat.mod_lt n (by decide))

theorem hexValue_digitChar {d : Nat} (h : d < 10) : hexValue (Nat.digitChar d) = d := by
  have hall : ∀ d < 10, hexValue (Nat.digitChar d) = d := by decide
  exact hall d h

theorem hexValue_of_isAsciiDigit {c : Char} (h : isAsciiDigit c = true) :
    hexValue c < 10 ∧ Nat.digitChar (hexValue c) = c := by
  rw [hexValue, if_pos h]
  rw [isAsciiDigit_iff] at h
  have hlt : c.toNat - '0'.toNat < 10 := by
    show c.toNat - 48 < 10
    omega
  refine ⟨hlt, Char.toNat_inj.mp ?_⟩
  rw [Nat.toNat_digitChar_of_lt_ten hlt]
  show 48 + (c.toNat - 48) = c.toNat
  omega

theorem valueIn_concat (cs : List Char) (c : Char) :
    valueIn 10 (cs ++ [c]) = valueIn 10 cs * 10 + hexValue c := by
  simp [valueIn]

/-- Digits denote the number that they write. -/
theorem valueIn_padded {width n : Nat} (h : n < tenTo width) :
    valueIn 10 (padded width n) = n := by
  induction width generalizing n with
  | zero => exact (Nat.lt_one_iff.mp h).symm
  | succ width ih =>
    have hlt : n / 10 < tenTo width := Nat.div_lt_of_lt_mul (Nat.mul_comm _ _ ▸ h)
    rw [padded, valueIn_concat, ih hlt, hexValue_digitChar (Nat.mod_lt n (by decide))]
    omega

/-- Digits are how the number that they denote is written in that width. -/
theorem padded_valueIn {cs : List Char} (h : ∀ c ∈ cs, isAsciiDigit c = true) :
    valueIn 10 cs < tenTo cs.length ∧ padded cs.length (valueIn 10 cs) = cs := by
  induction cs using List.reverseRecOn with
  | nil => exact ⟨Nat.one_pos, rfl⟩
  | append_singleton cs c ih =>
    obtain ⟨hlt, hpadded⟩ := ih fun d hd => h d (List.mem_append_left _ hd)
    obtain ⟨hdigit, hchar⟩ := hexValue_of_isAsciiDigit (h c (by simp))
    have hdiv : (valueIn 10 cs * 10 + hexValue c) / 10 = valueIn 10 cs := by omega
    have hmod : (valueIn 10 cs * 10 + hexValue c) % 10 = hexValue c := by omega
    rw [valueIn_concat, List.length_append, List.length_singleton]
    constructor
    · have hpower : tenTo (cs.length + 1) = tenTo cs.length * 10 := rfl
      omega
    · rw [padded, hdiv, hmod, hpadded, hchar]

/-! ## Reading what is written -/

namespace Date

/-- **A number is read from its digits only**, and what follows them is left. -/
theorem readNumber?_append {width n : Nat} {digits rest others : List Char}
    (hlength : digits.length = width) :
    readNumber? width (digits ++ rest) = some (n, others) ↔
      n < tenTo width ∧ digits = padded width n ∧ others = rest := by
  subst hlength
  simp only [readNumber?, List.take_left, List.drop_left]
  constructor
  · intro h
    split at h
    case isTrue hdigits =>
      simp only [decide_true, Bool.true_and, List.all_eq_true] at hdigits
      obtain ⟨hlt, hpadded⟩ := padded_valueIn hdigits
      obtain ⟨rfl, rfl⟩ := Prod.mk.inj (Option.some.inj h)
      exact ⟨hlt, hpadded.symm, rfl⟩
    case isFalse => cases h
  · rintro ⟨hlt, hdigits, rfl⟩
    have hall : digits.all isAsciiDigit = true := by
      rw [List.all_eq_true, hdigits]
      exact fun c hc => isAsciiDigit_padded hc
    have hvalue : valueIn 10 digits = n := by
      rw [hdigits]
      exact valueIn_padded hlt
    simp [hall, hvalue]

theorem of?_eq_some {year month day : Nat} {d : Date} :
    of? year month day = some d ↔ d.year = year ∧ d.month = month ∧ d.day = day := by
  unfold of?
  constructor
  · intro h
    split at h
    case isTrue =>
      rw [← Option.some.inj h]
      exact ⟨rfl, rfl, rfl⟩
    case isFalse => cases h
  · rintro ⟨rfl, rfl, rfl⟩
    rw [dif_pos ⟨⟨d.one_le_year, d.year_le⟩, d.one_le_day, d.day_le⟩]

theorem daysInMonth_of_lt {month : Nat} (h : 12 < month) (year : Nat) :
    daysInMonth year month = 0 := by
  unfold daysInMonth
  rw [if_neg (by omega), if_neg (by simp; omega), if_neg (by simp; omega)]

theorem daysInMonth_le (year month : Nat) : daysInMonth year month ≤ 31 := by
  unfold daysInMonth
  repeat' split
  all_goals omega

theorem year_lt (d : Date) : d.year < tenTo 4 := Nat.lt_succ_of_le d.year_le

theorem month_lt (d : Date) : d.month < tenTo 2 := by
  have hone := d.one_le_day
  have hle := d.day_le
  have hpower : tenTo 2 = 100 := rfl
  by_cases hlt : 12 < d.month
  · rw [daysInMonth_of_lt hlt] at hle
    omega
  · omega

theorem day_lt (d : Date) : d.day < tenTo 2 := by
  have hle := d.day_le
  have h31 := daysInMonth_le d.year d.month
  have hpower : tenTo 2 = 100 := rfl
  omega

/-- The date in digits: four, two and two of them, with hyphens between. -/
def chars (d : Date) : List Char :=
  padded 4 d.year ++ '-' :: (padded 2 d.month ++ '-' :: padded 2 d.day)

/-- Parts of the right lengths are those of a date that is written so. -/
theorem eq_chars_iff {y m d : List Char} (hy : y.length = 4) (hm : m.length = 2) {date : Date} :
    y ++ '-' :: (m ++ '-' :: d) = date.chars ↔
      y = padded 4 date.year ∧ m = padded 2 date.month ∧ d = padded 2 date.day := by
  constructor
  · intro h
    obtain ⟨hyear, h⟩ := List.append_inj h (by simp [hy])
    obtain ⟨hmonth, h⟩ := List.append_inj (List.tail_eq_of_cons_eq h) (by simp [hm])
    exact ⟨hyear, hmonth, List.tail_eq_of_cons_eq h⟩
  · rintro ⟨rfl, rfl, rfl⟩
    rfl

/-- **What has the form of a date is read as the date that is written so.** -/
theorem read?_eq_some {y m d : List Char} (hy : y.length = 4) (hm : m.length = 2)
    (hd : d.length = 2) (hdigit : ∀ c ∈ m, isDigit c = true) {date : Date} :
    read? (y ++ '-' :: (m ++ '-' :: d)) = some date ↔
      y ++ '-' :: (m ++ '-' :: d) = date.chars := by
  rw [eq_chars_iff hy hm]
  -- It is no week, because there is a digit after the hyphen.
  have hweek : (m ++ '-' :: d).head? ≠ some 'W' := by
    obtain ⟨a, b, rfl⟩ := List.length_eq_two.mp hm
    intro h
    have ha := hdigit a (by simp)
    rw [Option.some.inj h] at ha
    revert ha
    decide +kernel
  constructor
  · intro h
    obtain ⟨⟨year, rest⟩, hread, h⟩ := Option.bind_eq_some_iff.mp h
    obtain ⟨-, hyear, rfl⟩ := (readNumber?_append hy).mp hread
    simp only [List.head?_cons, decide_true, if_true, List.tail_cons, if_neg hweek] at h
    obtain ⟨⟨month, rest⟩, hread, h⟩ := Option.bind_eq_some_iff.mp h
    obtain ⟨-, hmonth, rfl⟩ := (readNumber?_append hm).mp hread
    obtain ⟨rest, hrest, h⟩ := Option.bind_eq_some_iff.mp h
    obtain rfl : d = rest := Option.some.inj hrest
    obtain ⟨⟨day, rest⟩, hread, h⟩ := Option.bind_eq_some_iff.mp h
    rw [← List.append_nil d] at hread
    obtain ⟨-, hday, -⟩ := (readNumber?_append hd).mp hread
    obtain ⟨rfl, rfl, rfl⟩ := of?_eq_some.mp h
    exact ⟨hyear, hmonth, hday⟩
  · rintro ⟨hyear, hmonth, hday⟩
    have hreadYear : readNumber? 4 (y ++ '-' :: (m ++ '-' :: d)) =
        some (date.year, '-' :: (m ++ '-' :: d)) :=
      (readNumber?_append hy).mpr ⟨date.year_lt, hyear, rfl⟩
    have hreadMonth : readNumber? 2 (m ++ '-' :: d) = some (date.month, '-' :: d) :=
      (readNumber?_append hm).mpr ⟨date.month_lt, hmonth, rfl⟩
    have hreadDay : readNumber? 2 (d ++ []) = some (date.day, []) :=
      (readNumber?_append hd).mpr ⟨date.day_lt, hday, rfl⟩
    rw [List.append_nil] at hreadDay
    have hdate : readDay? date.year true (m ++ '-' :: d) = some date := by
      simp [readDay?, skipHyphen?, hreadMonth, hreadDay, of?_eq_some]
    rw [read?, hreadYear]
    simp only [Option.bind_eq_bind, Option.bind_some, List.head?_cons, decide_true, if_true,
      List.tail_cons, if_neg hweek, hdate]

end Date

/-! ## The form and the reader -/

theorem isDigit_of_isAsciiDigit {c : Char} (h : isAsciiDigit c = true) : isDigit c = true := by
  obtain ⟨hlt, hchar⟩ := hexValue_of_isAsciiDigit h
  have hall : ∀ d < 10, isDigit (Nat.digitChar d) = true := by decide +kernel
  rw [← hchar]
  exact hall _ hlt

theorem isDigit_padded {width n : Nat} {c : Char} (h : c ∈ padded width n) : isDigit c = true :=
  isDigit_of_isAsciiDigit (isAsciiDigit_padded h)

theorem hasDateForm_iff (cs : List Char) :
    hasDateForm cs = true ↔ ∃ y m d : List Char, cs = y ++ '-' :: (m ++ '-' :: d) ∧
      y.length = 4 ∧ m.length = 2 ∧ d.length = 2 ∧ ∀ c ∈ y ++ m ++ d, isDigit c = true := by
  constructor
  · intro h
    unfold hasDateForm at h
    split at h
    case h_1 y₁ y₂ y₃ y₄ m₁ m₂ d₁ d₂ =>
      exact ⟨[y₁, y₂, y₃, y₄], [m₁, m₂], [d₁, d₂], rfl, rfl, rfl, rfl, List.all_eq_true.mp h⟩
    case h_2 => cases h
  · rintro ⟨y, m, d, rfl, hy, hm, hd, hdigits⟩
    obtain ⟨y₁, y₂, y₃, y₄, rfl⟩ : ∃ a b c e, y = [a, b, c, e] := by
      match y, hy with
      | [a, b, c, e], _ => exact ⟨a, b, c, e, rfl⟩
    obtain ⟨m₁, m₂, rfl⟩ := List.length_eq_two.mp hm
    obtain ⟨d₁, d₂, rfl⟩ := List.length_eq_two.mp hd
    exact List.all_eq_true.mpr hdigits

/-- ASCII characters take one byte each. -/
theorem utf8ByteSize_of_ascii {cs : List Char} (h : ∀ c ∈ cs, c.toNat < 128) :
    (String.ofList cs).utf8ByteSize = cs.length := by
  induction cs with
  | nil => rfl
  | cons c rest ih =>
    have hc : c.utf8Size = 1 := by
      rw [Char.utf8Size_eq_one_iff, UInt32.le_iff_toNat_le]
      exact Nat.le_of_lt_succ (h c List.mem_cons_self)
    rw [String.ofList_cons, String.utf8ByteSize_append, String.utf8ByteSize_singleton, hc,
      ih fun d hd => h d (List.mem_cons_of_mem _ hd), List.length_cons, Nat.add_comm]

namespace Date

theorem mem_chars {d : Date} {c : Char} (h : c ∈ d.chars) : isAsciiDigit c = true ∨ c = '-' := by
  simp only [chars, List.mem_append, List.mem_cons] at h
  rcases h with h | rfl | h | rfl | h
  · exact Or.inl (isAsciiDigit_padded h)
  · exact Or.inr rfl
  · exact Or.inl (isAsciiDigit_padded h)
  · exact Or.inr rfl
  · exact Or.inl (isAsciiDigit_padded h)

theorem hasDateForm_chars (d : Date) : hasDateForm d.chars = true := by
  rw [hasDateForm_iff]
  refine ⟨_, _, _, rfl, by simp, by simp, by simp, ?_⟩
  intro c hc
  simp only [List.mem_append] at hc
  rcases hc with (hc | hc) | hc <;> exact isDigit_padded hc

theorem utf8ByteSize_chars (d : Date) : (String.ofList d.chars).utf8ByteSize = 10 := by
  rw [utf8ByteSize_of_ascii]
  · simp [chars]
  · intro c hc
    rcases mem_chars hc with hc | rfl
    · rw [isAsciiDigit_iff] at hc
      omega
    · decide

end Date

/-- **The texts that are taken for dates are those of dates**, in ASCII digits. -/
theorem isIsoDate_iff (s : String) : isIsoDate s = true ↔ ∃ d : Date, s.toList = d.chars := by
  rw [isIsoDate, Bool.and_eq_true]
  constructor
  · rintro ⟨hform, hread⟩
    obtain ⟨y, m, d, hs, hy, hm, hd, hdigits⟩ := (hasDateForm_iff _).mp hform
    obtain ⟨date, hdate⟩ := Option.isSome_iff_exists.mp hread
    unfold Date.ofText? at hdate
    split at hdate
    case isTrue =>
      rw [hs] at hdate ⊢
      refine ⟨date, (Date.read?_eq_some hy hm hd ?_).mp hdate⟩
      exact fun c hc => hdigits c (by simp [hc])
    case isFalse => cases hdate
  · rintro ⟨d, hs⟩
    have hsize : s.utf8ByteSize = 10 := by
      rw [← String.ofList_toList (s := s), hs]
      exact d.utf8ByteSize_chars
    have hread : Date.read? s.toList = some d := by
      rw [hs]
      exact (Date.read?_eq_some (by simp) (by simp) (by simp) fun c hc => isDigit_padded hc).mpr rfl
    rw [Date.ofText?, hsize, hread, hs]
    exact ⟨d.hasDateForm_chars, rfl⟩

/-! ## The calendar -/

open Std.Time

theorem isLeap_eq (year : Nat) : Year.Offset.isLeap (year : Int) = isLeapYear year := by
  have htmod : ∀ n : Int, (year : Int).tmod n = year % n :=
    fun n => Int.tmod_eq_emod_of_nonneg (Int.natCast_nonneg year)
  rw [Bool.eq_iff_iff]
  simp only [Year.Offset.isLeap, Year.Offset.toInt, isLeapYear, htmod, decide_eq_true_eq,
    Bool.and_eq_true, Bool.or_eq_true, beq_iff_eq, bne_iff_ne]
  omega

/-- The days of a month are those of the calendar. -/
theorem days_eq (year : Nat) (month : Month.Ordinal) :
    (month.days (isLeapYear year)).val = daysInMonth year month.val.toNat := by
  match month with
  | ⟨2, _⟩ =>
    simp only [Month.Ordinal.days, daysInMonth]
    cases isLeapYear year <;> rfl
  | ⟨1, _⟩ | ⟨3, _⟩ | ⟨4, _⟩ | ⟨5, _⟩ | ⟨6, _⟩ | ⟨7, _⟩ | ⟨8, _⟩ | ⟨9, _⟩ | ⟨10, _⟩ | ⟨11, _⟩
  | ⟨12, _⟩ => rfl

/-- A date of the calendar in digits. -/
def calendarChars (p : PlainDate) : List Char :=
  padded 4 p.year.toInt.toNat ++
    '-' :: (padded 2 p.month.val.toNat ++ '-' :: padded 2 p.day.val.toNat)

namespace Date

theorem month_range (d : Date) : 1 ≤ d.month ∧ d.month ≤ 12 := by
  have hone := d.one_le_day
  have hle := d.day_le
  constructor
  · by_contra hzero
    have hmonth : d.month = 0 := by omega
    have hnone : daysInMonth d.year 0 = 0 := rfl
    rw [hmonth, hnone] at hle
    omega
  · by_contra hlt
    rw [daysInMonth_of_lt (by omega)] at hle
    omega

/-- The month in the calendar. -/
def plainMonth (d : Date) : Month.Ordinal :=
  ⟨d.month, by have := d.month_range; omega⟩

theorem days_plainMonth (d : Date) :
    (d.plainMonth.days (Year.Offset.isLeap (d.year : Int))).val = daysInMonth d.year d.month := by
  rw [isLeap_eq, days_eq]
  rfl

/-- The date in the calendar. -/
def plain (d : Date) : PlainDate where
  year := (d.year : Int)
  month := d.plainMonth
  day := ⟨d.day, by
    have hone := d.one_le_day
    have hle := d.day_le
    have h31 := daysInMonth_le d.year d.month
    omega⟩
  valid := by
    show (d.day : Int) ≤ (d.plainMonth.days (Year.Offset.isLeap (d.year : Int))).val
    rw [days_plainMonth]
    exact Int.ofNat_le.mpr d.day_le

@[simp] theorem year_plain (d : Date) : d.plain.year.toInt = d.year := rfl

/-- The date that a date of the calendar is. -/
def ofPlain (p : PlainDate) (hlow : 1 ≤ p.year.toInt) (hhigh : p.year.toInt ≤ 9999) : Date where
  year := p.year.toInt.toNat
  month := p.month.val.toNat
  day := p.day.val.toNat
  one_le_year := by omega
  year_le := by omega
  one_le_day := by have := p.day.property; omega
  day_le := by
    have hvalid : p.day.val ≤ (p.month.days p.year.isLeap).val := p.valid
    have hyear : p.year.isLeap = isLeapYear p.year.toInt.toNat := by
      rw [← isLeap_eq, Int.toNat_of_nonneg (by omega)]
      rfl
    rw [hyear, days_eq] at hvalid
    omega

end Date

/-- **The dates are those of the calendar** in the years from 1 to 9999. -/
theorem exists_date_iff (cs : List Char) : (∃ d : Date, cs = d.chars) ↔
    ∃ p : PlainDate, 1 ≤ p.year.toInt ∧ p.year.toInt ≤ 9999 ∧ cs = calendarChars p := by
  constructor
  · rintro ⟨d, rfl⟩
    have hlow := d.one_le_year
    have hhigh := d.year_le
    exact ⟨d.plain, by simp; omega, by simp; omega, rfl⟩
  · rintro ⟨p, hlow, hhigh, rfl⟩
    exact ⟨.ofPlain p hlow hhigh, rfl⟩

end FieldRules.Format

namespace FieldRules

/-- **The rule for dates accepts exactly the calendar dates** of the years from 1 to 9999, written
as four, two and two ASCII digits with hyphens between. It makes a check under which a text that is
not empty passes if and only if it is such a date; any other one has the code `WRONG_DATE`. -/
theorem isoDate_accepts : ∃ check, Builtin.isoDate.recipe [] = .ready check ∧
    check.Decides (fun s => ∃ p : Std.Time.PlainDate, 1 ≤ p.year.toInt ∧ p.year.toInt ≤ 9999 ∧
      s.toList = Format.calendarChars p) .wrongDate := by
  refine ⟨_, FormatTest.isoDate.recipe_rule, Check.decides_format fun s => ?_⟩
  rw [← Format.exists_date_iff]
  exact Format.isIsoDate_iff s

end FieldRules
