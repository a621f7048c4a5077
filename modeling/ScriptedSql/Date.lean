/-!
Contract: dates of the Gregorian calendar, continued backwards without a gap.

Owns:
- dates, the lengths of months, and which dates exist;
- the number of a day, counted from the first day of 1970, and the date of a
  number.

Both directions count in years that begin with March, so that a leap day is the
last day of its year.
-/

namespace ScriptedSql

/-- A year, a month from one to twelve, and a day from one on. -/
structure Date where
  year : Int
  month : Nat
  day : Nat
deriving DecidableEq, Repr

namespace Date

def isLeapYear (year : Int) : Bool :=
  year % 4 == 0 && (year % 100 != 0 || year % 400 == 0)

def monthLength (year : Int) (month : Nat) : Nat :=
  if month = 2 then
    if isLeapYear year then 29 else 28
  else if month = 4 ∨ month = 6 ∨ month = 9 ∨ month = 11 then 30
  else 31

def isLastOfMonth (date : Date) : Bool :=
  date.day == monthLength date.year date.month

/-- The days between the first of March in year zero and the first day of
1970. -/
def daysBeforeEpoch : Int := 719468

/-- The days of a year of March before its month `month`, counted from zero. -/
def daysBeforeMonth (month : Int) : Int :=
  (153 * month + 2) / 5

/-- The days of the years of March from year zero up to the year `year`. -/
def daysBeforeYear (year : Int) : Int :=
  365 * year + year / 4 - year / 100 + year / 400

/-- The number of a day; the first day of 1970 has the number zero. -/
def dayNumber (date : Date) : Int :=
  let year := if date.month ≤ 2 then date.year - 1 else date.year
  let month := if date.month ≤ 2 then date.month + 9 else date.month - 3
  daysBeforeYear year + daysBeforeMonth month + (date.day - 1) - daysBeforeEpoch

/-- The date of a day number. Four centuries have 146097 days; within them the
year is the quotient by 365 once the leap days are taken out. -/
def ofDayNumber (number : Int) : Date :=
  let days := number + daysBeforeEpoch
  let day := days % 146097
  let year := (day - day / 1460 + day / 36524 - day / 146096) / 365
  let day := day - daysBeforeYear year
  let month := (5 * day + 2) / 153
  let day := day - daysBeforeMonth month + 1
  let year := 400 * (days / 146097) + year
  if month < 10 then ⟨year, (month + 3).toNat, day.toNat⟩
  else ⟨year + 1, (month - 9).toNat, day.toNat⟩

end Date

end ScriptedSql
