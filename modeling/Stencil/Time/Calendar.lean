/-!
# The calendar

Days are counted from 1 January 1970 in the Gregorian calendar, extended to all years. `Date.ofDays`
finds the date of a day by cutting the day count into cycles of 400, 100, 4 and 1 years that begin in
March, so that a leap day ends its year.
-/

namespace Stencil

/-- A date. Months and days count from one. -/
structure Date where
  year : Int
  month : Nat
  day : Nat
  deriving DecidableEq, Repr

namespace Date

/-- Days before a month that begins in March as month 0. -/
def daysBeforeMarchMonth (m : Int) : Int :=
  (153 * m + 2) / 5

def toDays (d : Date) : Int :=
  let y := if d.month ≤ 2 then d.year - 1 else d.year
  let m : Int := if d.month ≤ 2 then d.month + 9 else d.month - 3
  365 * y + y / 4 - y / 100 + y / 400 + daysBeforeMarchMonth m + (d.day - 1) - 719468

def ofDays (days : Int) : Date :=
  let shifted := days + 719468
  let era := shifted / 146097
  let dayOfEra := shifted % 146097
  let yearOfEra := (dayOfEra - dayOfEra / 1460 + dayOfEra / 36524 - dayOfEra / 146096) / 365
  let dayOfYear := dayOfEra - (365 * yearOfEra + yearOfEra / 4 - yearOfEra / 100)
  let m := (5 * dayOfYear + 2) / 153
  let day := dayOfYear - daysBeforeMarchMonth m + 1
  let month := if m < 10 then m + 3 else m - 9
  let year := yearOfEra + era * 400 + (if month ≤ 2 then 1 else 0)
  { year, month := month.toNat, day := day.toNat }

def ordinal (d : Date) : Int :=
  d.toDays - ({ year := d.year, month := 1, day := 1 } : Date).toDays + 1

/-- The day of the week, from Sunday as 0. -/
def weekday (d : Date) : Nat :=
  ((d.toDays + 4) % 7).toNat

def weekdayFromMonday (d : Date) : Nat :=
  (d.weekday + 6) % 7

/-- The week of the year; weeks begin on Sunday, and days before the first Sunday are in week 0. -/
def sundayWeek (d : Date) : Int :=
  (d.ordinal - d.weekday + 6) / 7

/-- The week of the year; weeks begin on Monday, and days before the first Monday are in week 0. -/
def mondayWeek (d : Date) : Int :=
  (d.ordinal - d.weekdayFromMonday + 6) / 7

/-- The year and number of the week that holds the date: weeks begin on Monday and belong to the year
of their Thursday. -/
def isoWeek (d : Date) : Int × Int :=
  let thursday := ofDays (d.toDays - d.weekdayFromMonday + 3)
  (thursday.year, (thursday.ordinal - 1) / 7 + 1)

def quarter (d : Date) : Nat :=
  (d.month - 1) / 3 + 1

end Date

end Stencil
