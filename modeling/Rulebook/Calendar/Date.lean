/-!
# Calendar dates

Dates of the Gregorian calendar from the year 1 to the year 9999, extended backwards before its
introduction, and their numbering by consecutive days.
-/

namespace Rulebook

/-- Whether a year has a 29 February. -/
def isLeapYear (year : Nat) : Bool :=
  year % 4 == 0 && (year % 100 != 0 || year % 400 == 0)

/-- The number of days in a month. -/
def daysInMonth (year month : Nat) : Nat :=
  if month = 2 then (if isLeapYear year then 29 else 28)
  else if month = 4 ∨ month = 6 ∨ month = 9 ∨ month = 11 then 30
  else 31

/-- A date of the years 1 to 9999. -/
structure Date where
  year : Nat
  month : Nat
  day : Nat
  valid : (1 ≤ year ∧ year ≤ 9999) ∧ (1 ≤ month ∧ month ≤ 12) ∧
    (1 ≤ day ∧ day ≤ daysInMonth year month)
  deriving DecidableEq, Repr

namespace Date

/-- The date with the given parts, when there is one. -/
def ofParts? (year month day : Nat) : Option Date :=
  if valid : (1 ≤ year ∧ year ≤ 9999) ∧ (1 ≤ month ∧ month ≤ 12) ∧
      (1 ≤ day ∧ day ≤ daysInMonth year month) then
    some { year, month, day, valid }
  else
    none

/-- The number of days before a year, counted from the start of the year 1. -/
def daysBeforeYear (year : Nat) : Nat :=
  let past := year - 1
  past * 365 + past / 4 - past / 100 + past / 400

/-- The number of days of a year before a month. -/
def daysBeforeMonth (year : Nat) : (month : Nat) → Nat
  | 0 => 0
  | month + 1 => if month = 0 then 0 else daysBeforeMonth year month + daysInMonth year month

/-- The number of a date; the first day of the year 1 has the number 1. -/
def ordinal (date : Date) : Nat :=
  daysBeforeYear date.year + daysBeforeMonth date.year date.month + date.day

/-- The day of the week, counted from Monday as 0. -/
def weekday (ordinal : Nat) : Nat := (ordinal + 6) % 7

/-- The year of the day with a number, from cycles of 400, 100, 4 and 1 years. -/
def yearOfOrdinal (ordinal : Nat) : Nat :=
  let past := ordinal - 1
  let inCentury := past % 146097
  let century := min 3 (inCentury / 36524)
  let inFour := (inCentury - century * 36524) % 1461
  let four := (inCentury - century * 36524) / 1461
  400 * (past / 146097) + 100 * century + 4 * four + min 3 (inFour / 365) + 1

/-- The month of a day of a year and the day in that month, by passing whole months from `month`
on, at most `months` of them. -/
def monthAndDay (year : Nat) : (months month day : Nat) → Nat × Nat
  | 0, month, day => (month, day)
  | months + 1, month, day =>
      if day ≤ daysInMonth year month then (month, day)
      else monthAndDay year months (month + 1) (day - daysInMonth year month)

/-- The date with a number, when it lies in the years 1 to 9999. -/
def ofOrdinal? (ordinal : Nat) : Option Date :=
  if ordinal = 0 then none
  else
    let year := yearOfOrdinal ordinal
    let (month, day) := monthAndDay year 11 1 (ordinal - daysBeforeYear year)
    ofParts? year month day

/-- The number of the Monday that opens the first week of a year; the first week is the one with
the first Thursday. -/
def firstMonday (year : Nat) : Nat :=
  let newYear := daysBeforeYear year + 1
  let late := weekday newYear
  if 3 < late then newYear + 7 - late else newYear - late

/-- Whether a year has a fifty-third week. -/
def hasLongWeekYear (year : Nat) : Bool :=
  let newYear := weekday (daysBeforeYear year + 1)
  newYear == 3 || (newYear == 2 && isLeapYear year)

/-- The date of a day of a week of a year, with Monday as day 1. -/
def ofWeek? (year week day : Nat) : Option Date :=
  if year < 1 || 9999 < year || week < 1 || day < 1 || 7 < day then none
  else if 53 < week || (week = 53 && !hasLongWeekYear year) then none
  else ofOrdinal? (firstMonday year + (week - 1) * 7 + (day - 1))

end Date

end Rulebook
