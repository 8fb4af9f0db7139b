/-!
# The calendar

The Gregorian calendar, also for dates before it was introduced. The year 0 is the one before the
year 1. Days are numbered from the first of January 1970, which is day 0.
-/

namespace WalletReplay.Calendar

/-- Whether a year has a 29th of February. -/
def isLeapYear (year : Nat) : Bool :=
  year % 4 = 0 && (year % 100 ≠ 0 || year % 400 = 0)

/-- How many days a month has. -/
def daysOfMonth (year month : Nat) : Nat :=
  if month = 2 then if isLeapYear year then 29 else 28
  else if month = 4 ∨ month = 6 ∨ month = 9 ∨ month = 11 then 30
  else 31

/-- Whether a date is in the calendar. -/
def isDate (year month day : Nat) : Bool :=
  1 ≤ month && month ≤ 12 && 1 ≤ day && day ≤ daysOfMonth year month

/-- How many days of a year lie before a month. -/
def daysBeforeMonth (year month : Nat) : Nat :=
  (List.range (month - 1)).foldl (fun days m => days + daysOfMonth year (m + 1)) 0

/-- How many days lie between the beginning of the year 1 and that of a year, less than none for the
year 0. -/
def daysBeforeYear (year : Nat) : Int :=
  let past : Int := year - 1
  365 * past + past / 4 - past / 100 + past / 400

/-- The number of a day. -/
def dayNumber (year month day : Nat) : Int :=
  daysBeforeYear year + daysBeforeMonth year month + day - 1 - daysBeforeYear 1970

/-- The number of the last day of a month. -/
def lastDayNumber (year month : Nat) : Int :=
  dayNumber year month (daysOfMonth year month)

example : dayNumber 1970 1 1 = 0 := by decide
example : dayNumber 2000 3 1 = 11017 := by decide
example : dayNumber 0 1 1 = -719528 := by decide

end WalletReplay.Calendar
