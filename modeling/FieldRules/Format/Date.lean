import FieldRules.Text.Digit

/-!
# Calendar dates

A date has to exist in the Gregorian calendar, which is taken to go back to the year 1. What is
asked for is the form of four, two and two digits with hyphens between. Digits of any script have
that form, but then the text is read as a date, and only ASCII digits can be.

A date may be read in other forms as well: by the number of the week and, if wanted, of the day in
it, and without hyphens. What comes after a date that is written without hyphens is not looked at,
but the length of the text in bytes has to be that of one of the forms.
-/

set_option autoImplicit false

namespace FieldRules.Format

/-- Whether a year has a 29th of February. -/
def isLeapYear (year : Nat) : Bool := year % 4 == 0 && (year % 100 != 0 || year % 400 == 0)

/-- The number of days of a month; no days if there is no such month. -/
def daysInMonth (year month : Nat) : Nat :=
  if month = 2 then if isLeapYear year then 29 else 28
  else if month = 4 || month = 6 || month = 9 || month = 11 then 30
  else if 1 ≤ month && month ≤ 12 then 31
  else 0

/-- A date that exists, in a year that can be written with four digits. -/
structure Date where
  year : Nat
  month : Nat
  day : Nat
  one_le_year : 1 ≤ year
  year_le : year ≤ 9999
  one_le_day : 1 ≤ day
  day_le : day ≤ daysInMonth year month
deriving DecidableEq, Repr

namespace Date

/-- The date with a year, a month and a day, if it exists. -/
def of? (year month day : Nat) : Option Date :=
  if h : (1 ≤ year ∧ year ≤ 9999) ∧ 1 ≤ day ∧ day ≤ daysInMonth year month then
    some ⟨year, month, day, h.1.1, h.1.2, h.2.1, h.2.2⟩
  else none

/-! ## Weeks -/

/-- The number of days of a year. -/
def daysInYear (year : Nat) : Nat := if isLeapYear year then 366 else 365

/-- The day of the week that a year begins with. Monday is zero, and the year 1 began with it. -/
def firstWeekday (year : Nat) : Nat :=
  let past := year - 1
  (past + past / 4 - past / 100 + past / 400) % 7

/-- The number of weeks of a year. A week belongs to the year that its Thursday is in. -/
def weeksInYear (year : Nat) : Nat :=
  if firstWeekday year = 3 || (firstWeekday year = 2 && isLeapYear year) then 53 else 52

/-- The date so many days after the first of the months that are left of a year. -/
def after? (year : Nat) : (months : List Nat) → (days : Nat) → Option Date
  | [], _ => none
  | month :: rest, days =>
    if days < daysInMonth year month then of? year month (days + 1)
    else after? year rest (days - daysInMonth year month)

/-- The date so many days after the beginning of a year. -/
def afterNewYear? (year days : Nat) : Option Date := after? year (List.range' 1 12) days

/-- The date of the day of a week, if there is such a week and such a day. It may be in the year
before or in the year after. -/
def ofWeek? (year week day : Nat) : Option Date :=
  if 1 ≤ year && 1 ≤ week && week ≤ weeksInYear year && 1 ≤ day && day ≤ 7 then
    let first := firstWeekday year
    -- The days since the Monday of the week that the year begins in.
    let days := (if first ≤ 3 then 0 else 7) + 7 * (week - 1) + (day - 1)
    if days < first then afterNewYear? (year - 1) (daysInYear (year - 1) + days - first)
    else if daysInYear year ≤ days - first then
      afterNewYear? (year + 1) (days - first - daysInYear year)
    else afterNewYear? year (days - first)
  else none

/-! ## Reading -/

/-- Reads a number of so many ASCII digits. The answer is the number and what follows it. -/
def readNumber? (width : Nat) (cs : List Char) : Option (Nat × List Char) :=
  let digits := cs.take width
  if digits.length = width && digits.all Text.isAsciiDigit then
    some (Text.valueIn 10 digits, cs.drop width)
  else none

/-- What follows a hyphen, if one is wanted. -/
def skipHyphen? (wanted : Bool) (cs : List Char) : Option (List Char) :=
  if wanted then if cs.head? = some '-' then some cs.tail else none
  else some cs

/-- Reads a month and a day of it. -/
def readDay? (year : Nat) (hyphens : Bool) (cs : List Char) : Option Date := do
  let (month, cs) ← readNumber? 2 cs
  let cs ← skipHyphen? hyphens cs
  let (day, _) ← readNumber? 2 cs
  of? year month day

/-- Reads a week and a day of it, which is the first one if nothing follows. -/
def readWeek? (year : Nat) (hyphens : Bool) (cs : List Char) : Option Date := do
  let (week, cs) ← readNumber? 2 cs
  if cs.isEmpty then ofWeek? year week 1
  else
    let cs ← skipHyphen? hyphens cs
    let (day, _) ← readNumber? 1 cs
    ofWeek? year week day

/-- Reads a date of any form. There are hyphens if there is one after the year. -/
def read? (cs : List Char) : Option Date := do
  let (year, cs) ← readNumber? 4 cs
  let hyphens := cs.head? = some '-'
  let cs := if hyphens then cs.tail else cs
  if cs.head? = some 'W' then readWeek? year hyphens cs.tail else readDay? year hyphens cs

/-- The numbers of bytes that the forms of a date have. -/
def lengths : List Nat := [7, 8, 10]

/-- The date that a text denotes. -/
def ofText? (text : String) : Option Date :=
  if lengths.contains text.utf8ByteSize then read? text.toList else none

end Date

/-- Whether characters are four, two and two digits, of whatever script, with hyphens between. -/
def hasDateForm : List Char → Bool
  | [y₁, y₂, y₃, y₄, '-', m₁, m₂, '-', d₁, d₂] =>
    [y₁, y₂, y₃, y₄, m₁, m₂, d₁, d₂].all Text.isDigit
  | _ => false

/-- Whether a text is a calendar date. -/
def isIsoDate (text : String) : Bool := hasDateForm text.toList && (Date.ofText? text).isSome

example : isIsoDate "2024-02-29" = true := by decide +kernel
example : isIsoDate "1900-02-29" = false := by decide +kernel
example : isIsoDate "0000-01-01" = false := by decide +kernel
example : isIsoDate "2024-W09-4" = false := by decide +kernel
example : Date.ofText? "2024-W09-4" = Date.of? 2024 2 29 := by decide +kernel

end FieldRules.Format
