/-!
# The Gregorian calendar

Days of the calendar that repeats every 400 years, extended without end in both directions. Days
are numbered from the first of January of year 1.

## Main definitions

* `Date`: year, month and day of the month
* `Date.dayNumber`, `Date.ofDayNumber`: numbering of days and its inverse
* `Date.isValid`: whether the calendar has the day
* `Date.addMonths`: the same day some months later, or the last of that month
* `Date.isoWeek`: week of the year, weeks starting on Monday
-/

namespace TableFilter

/-- A day given by year, month and day of the month. -/
structure Date where
  year : Int
  month : Nat
  day : Nat
deriving DecidableEq, Repr

/-! ### Years -/

/-- Whether a year has a 29th of February. -/
def isLeapYear (y : Int) : Bool := y % 4 == 0 && (y % 100 != 0 || y % 400 == 0)

/-- Days from the first of January of year 1 to the first of January of a year. -/
def daysBeforeYear (y : Int) : Int :=
  let p := y - 1
  365 * p + p / 4 - p / 100 + p / 400

/-- The year that a day number falls into: an estimate by the mean length of a year, which is at
most one off. -/
def yearOfDayNumber (n : Int) : Int :=
  let guess := n * 400 / 146097 + 1
  if n < daysBeforeYear guess then guess - 1
  else if daysBeforeYear (guess + 1) ≤ n then guess + 1
  else guess

/-! ### Months -/

/-- Lengths of the twelve months. -/
def monthLengths (leap : Bool) : List Nat :=
  [31, if leap then 29 else 28, 31, 30, 31, 30, 31, 31, 30, 31, 30, 31]

/-- The length of a month, counted from 1. There is no other month than the twelve. -/
def daysInMonth (y : Int) (month : Nat) : Nat :=
  ((monthLengths (isLeapYear y))[month - 1]?).getD 0

/-- Days of a year before a month. -/
def daysBeforeMonth (y : Int) (month : Nat) : Nat :=
  ((monthLengths (isLeapYear y)).take (month - 1)).foldl (· + ·) 0

/-- Month and day for a day of the year counted from 0, given the lengths of the months left. -/
def monthAndDay (month : Nat) (rest : Nat) : List Nat → Nat × Nat
  | [] => (month, rest + 1)
  | [_] => (month, rest + 1)
  | length :: lengths =>
    if rest < length then (month, rest + 1) else monthAndDay (month + 1) (rest - length) lengths

namespace Date

/-- Whether the calendar has the day. -/
def isValid (d : Date) : Bool :=
  1 ≤ d.month && d.month ≤ 12 && 1 ≤ d.day && d.day ≤ daysInMonth d.year d.month

/-- Days of the year up to and with a day. -/
def dayOfYear (d : Date) : Nat := daysBeforeMonth d.year d.month + d.day

/-- Days from the first of January of year 1. -/
def dayNumber (d : Date) : Int := daysBeforeYear d.year + d.dayOfYear - 1

/-- The day with a number. -/
def ofDayNumber (n : Int) : Date :=
  let year := yearOfDayNumber n
  let (month, day) := monthAndDay 1 (n - daysBeforeYear year).toNat (monthLengths (isLeapYear year))
  { year, month, day }

/-- Months from January of year 0. -/
def monthNumber (d : Date) : Int := d.year * 12 + (d.month - 1)

/-- The same day some months later, or the last day of that month if it is too short. -/
def addMonths (d : Date) (months : Int) : Date :=
  let n := d.monthNumber + months
  let year := n / 12
  let month := (n % 12).toNat + 1
  { year, month, day := min d.day (daysInMonth year month) }

/-! ### Weeks -/

/-- Days since Sunday. -/
def weekday (d : Date) : Nat := ((d.dayNumber + 1) % 7).toNat

/-- Days since Monday. -/
def weekdayFromMonday (d : Date) : Nat := (d.dayNumber % 7).toNat

/-- The number of weeks of a year. A week belongs to the year that holds its Thursday. -/
def weeksInYear (y : Int) : Nat :=
  let first := weekdayFromMonday { year := y, month := 1, day := 1 }
  if first == 3 || (first == 2 && isLeapYear y) then 53 else 52

/-- The week of the year, weeks starting on Monday. Days before the first week count to the last
week of the year before, days after the last week to the first week of the next year. -/
def isoWeek (d : Date) : Nat :=
  let week := (d.dayOfYear + 9 - d.weekdayFromMonday) / 7
  if week == 0 then weeksInYear (d.year - 1)
  else if weeksInYear d.year < week then 1
  else week

end Date

end TableFilter
