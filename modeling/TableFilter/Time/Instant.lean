import TableFilter.Time.Calendar

/-!
# Instants

An instant is a count of seconds and of nanoseconds. A leap second is the second before it with
a thousand million nanoseconds or more, and can only be the last of a minute.

## Main definitions

* `Instant`, `Instant.of?`: the type and its checked constructor
* `Instant.ofParts?`: the instant of a date and a time of day
* `Instant.date`, `hour`, `minute`, `second`: what calendar and clock show
* `Instant.addMonths?`, `Instant.add?`: later instants, within the range
* `Instant.nanosecondsTo`: elapsed time
-/

namespace TableFilter

/-- The first second that an instant may have: the start of the year -262143. -/
def firstSecond : Int := -8334601228800

/-- The last second that an instant may have: the end of the year 262142. -/
def lastSecond : Int := 8210266876799

/-- Nanoseconds of a second. -/
def nanosPerSecond : Nat := 1000000000

/-- A point in time, by seconds since the start of 1970 and nanoseconds. -/
structure Instant where
  seconds : Int
  nanos : Nat
  first_le : firstSecond ≤ seconds
  le_last : seconds ≤ lastSecond
  nanos_lt : nanos < 2 * nanosPerSecond
  leap_last : nanosPerSecond ≤ nanos → seconds % 60 = 59
deriving DecidableEq

namespace Instant

/-- The instant with given seconds and nanoseconds, if there is one. -/
def of? (seconds : Int) (nanos : Nat) : Option Instant :=
  if h : firstSecond ≤ seconds ∧ seconds ≤ lastSecond ∧ nanos < 2 * nanosPerSecond ∧
      (nanosPerSecond ≤ nanos → seconds % 60 = 59) then
    some ⟨seconds, nanos, h.1, h.2.1, h.2.2.1, h.2.2.2⟩
  else none

instance : Inhabited Instant := ⟨⟨0, 0, by decide, by decide, by decide, by decide⟩⟩

/-- The number of the day at which seconds are counted from. -/
def epochDay : Int := 719162

/-- Seconds since the start of the day. -/
def secondOfDay (t : Instant) : Nat := (t.seconds % 86400).toNat

/-- The number of the day. -/
def dayNumber (t : Instant) : Int := t.seconds / 86400 + epochDay

/-- The day. -/
def date (t : Instant) : Date := Date.ofDayNumber t.dayNumber

/-- The hour of the day. -/
def hour (t : Instant) : Nat := t.secondOfDay / 3600

/-- The minute of the hour. -/
def minute (t : Instant) : Nat := t.secondOfDay / 60 % 60

/-- The second of the minute. In a leap second it is still the one before. -/
def second (t : Instant) : Nat := t.secondOfDay % 60

/-- Whether an instant lies in a leap second. -/
def isLeap (t : Instant) : Bool := nanosPerSecond ≤ t.nanos

/-- The order of instants. -/
def order (a b : Instant) : Ordering :=
  match compare a.seconds b.seconds with
  | .eq => compare a.nanos b.nanos
  | o => o

/-- Seconds from the start of 1970 to a second of a day. -/
def secondsOf (d : Date) (secondOfDay : Nat) : Int :=
  (d.dayNumber - epochDay) * 86400 + secondOfDay

/-- The instant of a day, a second of the day and nanoseconds, if the calendar has the day and the
instant is in range. -/
def ofParts? (d : Date) (secondOfDay nanos : Nat) : Option Instant :=
  if d.isValid then of? (secondsOf d secondOfDay) nanos else none

/-! ### Later instants -/

/-- The same time of day some months later. -/
def addMonths? (t : Instant) (months : Int) : Option Instant :=
  ofParts? (t.date.addMonths months) t.secondOfDay t.nanos

/-- An instant later by whole seconds and by nanoseconds of the same sign. Leaving a leap second
forward counts it as the second before it, leaving it backward as the second after it. -/
def add? (t : Instant) (seconds nanos : Int) : Option Instant :=
  let total : Int := t.nanos + nanos
  if t.isLeap && !(0 < seconds || (0 < nanos && 2 * nanosPerSecond ≤ total)) &&
      !(seconds < 0) then
    of? t.seconds total.toNat
  else
    let escaped := if t.isLeap then total - nanosPerSecond else total
    let start := if t.isLeap && seconds < 0 then t.seconds + 1 else t.seconds
    of? (start + seconds + escaped / nanosPerSecond) (escaped % nanosPerSecond).toNat

/-- An instant later by milliseconds. -/
def addMilliseconds? (t : Instant) (ms : Int) : Option Instant :=
  t.add? (ms.tdiv 1000) (ms.tmod 1000 * 1000000)

/-! ### Elapsed time -/

/-- Nanoseconds from one instant to another. A leap second counts when the later time of day lies
beyond it. -/
def nanosecondsTo (a b : Instant) : Int :=
  let adjust : Int :=
    if a.secondOfDay < b.secondOfDay then if a.isLeap then 1 else 0
    else if b.secondOfDay < a.secondOfDay then if b.isLeap then -1 else 0
    else 0
  (b.seconds - a.seconds + adjust) * nanosPerSecond + (b.nanos - a.nanos)

/-- Whole seconds from one instant to another, toward zero. -/
def secondsTo (a b : Instant) : Int := (nanosecondsTo a b).tdiv nanosPerSecond

end Instant

end TableFilter
