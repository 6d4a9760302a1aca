/-! Dates as day numbers: day 0 is the first of January 1970, and years have the lengths of the
Gregorian calendar. -/

namespace DriverHub.Calendar

/-- The day number of a date. -/
def dayOf (year : Int) (month day : Nat) : Int :=
  let year := if month ≤ 2 then year - 1 else year
  let era := year / 400
  let yearOfEra := year - era * 400
  let dayOfYear : Int := ((153 * ((month + 9) % 12) + 2) / 5 + day - 1 : Nat)
  era * 146097 + (yearOfEra * 365 + yearOfEra / 4 - yearOfEra / 100 + dayOfYear) - 719468

/-- The year that a day belongs to. -/
def yearOf (day : Int) : Int :=
  let shifted := day + 719468
  let era := shifted / 146097
  let dayOfEra := shifted - era * 146097
  let yearOfEra :=
    (dayOfEra - dayOfEra / 1460 + dayOfEra / 36524 - dayOfEra / 146096) / 365
  let dayOfYear := dayOfEra - (365 * yearOfEra + yearOfEra / 4 - yearOfEra / 100)
  yearOfEra + era * 400 + (if (5 * dayOfYear + 2) / 153 < 10 then 0 else 1)

/-- The day of the week, Sunday being 0. -/
def weekday (day : Int) : Int := (day + 4) % 7

/-- The `n`th Sunday of a month, counted from 1. -/
def sunday (n : Nat) (year : Int) (month : Nat) : Int :=
  let first := dayOf year month 1
  first + (7 - weekday first) % 7 + 7 * (n - 1 : Nat)

end DriverHub.Calendar
