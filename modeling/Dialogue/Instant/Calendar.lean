/-!
# The civil calendar

Days of the proleptic Gregorian calendar, counted from the first day of 1970.
A year is taken to begin in March, so that the leap day ends it and the lengths
of the months follow one rule.
-/

namespace Dialogue.Calendar

/-- A day by its year, month and day of the month. -/
structure Date where
  year : Int
  month : Nat
  day : Nat
  deriving DecidableEq, Repr

/-- Whether a year has a leap day. -/
def isLeap (year : Int) : Bool := year % 4 == 0 && (year % 100 != 0 || year % 400 == 0)

/-- The number of days in a month. -/
def monthLength (year : Int) (month : Nat) : Nat :=
  if month == 2 then if isLeap year then 29 else 28
  else if month == 4 || month == 6 || month == 9 || month == 11 then 30
  else 31

/-- Whether a date exists. -/
def Date.exists (date : Date) : Bool :=
  1 ≤ date.month && date.month ≤ 12 && 1 ≤ date.day && date.day ≤ monthLength date.year date.month

/-- The number of days from the first day of 1970 to a date. -/
def Date.toDays (date : Date) : Int :=
  let year := if date.month ≤ 2 then date.year - 1 else date.year
  let era := year / 400
  let yearOfEra := year % 400
  let shifted : Int := (date.month + 9) % 12
  let dayOfYear := (153 * shifted + 2) / 5 + date.day - 1
  let dayOfEra := yearOfEra * 365 + yearOfEra / 4 - yearOfEra / 100 + dayOfYear
  era * 146097 + dayOfEra - 719468

/-- The date a number of days after the first day of 1970. -/
def Date.ofDays (days : Int) : Date :=
  let shifted := days + 719468
  let era := shifted / 146097
  let dayOfEra := shifted % 146097
  let yearOfEra := (dayOfEra - dayOfEra / 1460 + dayOfEra / 36524 - dayOfEra / 146096) / 365
  let dayOfYear := dayOfEra - (365 * yearOfEra + yearOfEra / 4 - yearOfEra / 100)
  let month := (5 * dayOfYear + 2) / 153
  let day := dayOfYear - (153 * month + 2) / 5 + 1
  let civilMonth := if month < 10 then month + 3 else month - 9
  let year := yearOfEra + era * 400 + (if civilMonth ≤ 2 then 1 else 0)
  ⟨year, civilMonth.toNat, day.toNat⟩

end Dialogue.Calendar
