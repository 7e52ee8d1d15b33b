/-!
# Dates of the Gregorian calendar

Dates of the proleptic Gregorian calendar and their day numbers. Day 0 is the first of January of the
year 1; every integer is the number of exactly one date.

## Implementation notes

Years are integers, so that the calendar has no edge; which years may be published is decided where a
date is written. The year of a day number is found from the mean length of a year, which is off by at
most one.
-/

namespace TaskEndpoints

/-- A calendar date, with months and days counted from one. -/
structure Date where
  year : Int
  month : Nat
  day : Nat
deriving DecidableEq, Repr

/-- Every fourth year is a leap year, except the centuries that four hundred does not divide. -/
def isLeapYear (year : Int) : Bool :=
  year % 4 == 0 && (year % 100 != 0 || year % 400 == 0)

/-- The lengths of the twelve months. -/
def monthLengths (leap : Bool) : List Nat :=
  [31, if leap then 29 else 28, 31, 30, 31, 30, 31, 31, 30, 31, 30, 31]

/-- The number of days before the first of January of a year. -/
def daysBeforeYear (year : Int) : Int :=
  365 * (year - 1) + (year - 1) / 4 - (year - 1) / 100 + (year - 1) / 400

/-- The year that holds a day number. -/
def yearOfDay (day : Int) : Int :=
  let guess := day * 400 / 146097 + 1
  if daysBeforeYear (guess + 1) ≤ day then guess + 1
  else if day < daysBeforeYear guess then guess - 1
  else guess

/-- Place a day of the year, counted from zero, into consecutive months of the given lengths; the
answer is the month and the day of the month, both counted from one. -/
def placeInMonths : List Nat → Nat → Nat × Nat
  | [], day => (1, day + 1)
  | length :: rest, day =>
    if day < length then (1, day + 1)
    else
      let later := placeInMonths rest (day - length)
      (later.1 + 1, later.2)

namespace Date

/-- The day number of a date. -/
def dayNumber (d : Date) : Int :=
  let earlier : Nat := ((monthLengths (isLeapYear d.year)).take (d.month - 1)).foldl (· + ·) 0
  daysBeforeYear d.year + earlier + (d.day - 1)

/-- The date with a given day number. -/
def ofDayNumber (day : Int) : Date :=
  let year := yearOfDay day
  let place := placeInMonths (monthLengths (isLeapYear year)) (day - daysBeforeYear year).toNat
  ⟨year, place.1, place.2⟩

/-- A date is valid when its month exists and its day lies in that month. -/
def Valid (d : Date) : Prop :=
  ∃ length, 1 ≤ d.month ∧ (monthLengths (isLeapYear d.year))[d.month - 1]? = some length ∧
    1 ≤ d.day ∧ d.day ≤ length

end Date

/-- The day of the Unix epoch. -/
def epochDay : Int := 719162

theorem dayNumber_epoch : (Date.mk 1970 1 1).dayNumber = epochDay := by decide

theorem ofDayNumber_epoch : Date.ofDayNumber epochDay = ⟨1970, 1, 1⟩ := by decide

end TaskEndpoints
