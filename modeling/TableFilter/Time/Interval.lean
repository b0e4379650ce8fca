import TableFilter.Text.Case
import TableFilter.Text.CharClass
import TableFilter.Time.Instant

/-!
# Parts of an instant

## Main definitions

* `Interval`: the parts that can be counted, added and read off
* `Interval.add?`: an instant some intervals later
* `Interval.count`: intervals from one instant to another
* `Interval.part`: the part of an instant
-/

namespace TableFilter

open TableFilter.Text

/-- A part of an instant. -/
inductive Interval where
  | year
  | month
  | dayOfYear
  | day
  | week
  | weekDay
  | hour
  | minute
  | second
  | millisecond
deriving DecidableEq, Repr

namespace Interval

/-- All intervals. -/
def all : List Interval :=
  [.year, .month, .dayOfYear, .day, .week, .weekDay, .hour, .minute, .second, .millisecond]

/-- The name of an interval. -/
def name : Interval → String
  | .year => "Year"
  | .month => "Month"
  | .dayOfYear => "DayOfYear"
  | .day => "Day"
  | .week => "Week"
  | .weekDay => "WeekDay"
  | .hour => "Hour"
  | .minute => "Minute"
  | .second => "Second"
  | .millisecond => "Millisecond"

/-- The interval with a name, in any case and with blanks at the ends. -/
def ofName? (text : String) : Option Interval :=
  let text := String.ofList (trim text.toList)
  all.find? fun i => sameAsciiCase i.name text

/-- The length in seconds of the intervals that are whole seconds and all of one length. -/
def seconds? : Interval → Option Nat
  | .dayOfYear | .day | .weekDay => some 86400
  | .week => some 604800
  | .hour => some 3600
  | .minute => some 60
  | .second => some 1
  | .year | .month | .millisecond => none

/-- An instant some intervals later. Months keep the day of the month where they can. -/
def add? (i : Interval) (t : Instant) (amount : Int) : Option Instant :=
  match i with
  | .year => t.addMonths? (amount * 12)
  | .month => t.addMonths? amount
  | .millisecond => t.addMilliseconds? amount
  | _ => t.add? (amount * (i.seconds?.getD 1)) 0

/-- Intervals from one instant to another: for years and months the difference of the fields, for
the others elapsed time, toward zero. -/
def count (i : Interval) (a b : Instant) : Int :=
  match i with
  | .year => b.date.year - a.date.year
  | .month => (b.date.year - a.date.year) * 12 + b.date.month - a.date.month
  | .millisecond => (a.nanosecondsTo b).tdiv 1000000
  | _ => (a.secondsTo b).tdiv (i.seconds?.getD 1)

/-- The part of an instant that an interval names. -/
def part (i : Interval) (t : Instant) : Int :=
  match i with
  | .year => t.date.year
  | .month => t.date.month
  | .dayOfYear => t.date.dayOfYear
  | .day => t.date.day
  | .week => t.date.isoWeek
  | .weekDay => t.date.weekday
  | .hour => t.hour
  | .minute => t.minute
  | .second => t.second
  | .millisecond => t.nanos / 1000000

end Interval

end TableFilter
