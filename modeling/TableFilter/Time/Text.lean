import TableFilter.Number.Rounding
import TableFilter.Text.Case
import TableFilter.Text.CharClass
import TableFilter.Time.Instant

/-!
# Instants as text

Instants are written in one form, `2024-03-15 10:20:30.250`, and read in many: each accepted form is
a list of layout items, and a text is read by the first layout that takes all of it.

## Main definitions

* `Instant.text`: the written form
* `Layout`, `layouts`: the accepted forms, in the order in which they are tried
* `Instant.ofText?`: the instant a text stands for
-/

namespace TableFilter

open TableFilter.Number TableFilter.Text

/-! ### Writing -/

/-- A year: four digits, and a sign for a year that four digits cannot show. -/
def yearText (y : Int) : List Char :=
  if 0 ≤ y && y ≤ 9999 then padded 4 y.toNat
  else (if y < 0 then '-' else '+') :: padded 4 y.natAbs

/-- An instant to the millisecond, further digits cut off. A leap second shows as the sixtieth. -/
def Instant.text (t : Instant) : List Char :=
  let d := t.date
  yearText d.year ++ '-' :: padded 2 d.month ++ '-' :: padded 2 d.day ++ ' ' ::
    padded 2 t.hour ++ ':' :: padded 2 t.minute ++ ':' ::
    padded 2 (t.second + t.nanos / nanosPerSecond) ++ '.' ::
    padded 3 (t.nanos % nanosPerSecond / 1000000)

/-! ### Layouts -/

/-- One part of an accepted form. -/
inductive LayoutItem where
  /-- A character as it stands. -/
  | mark (c : Char)
  /-- Any number of blanks. -/
  | blanks
  | year
  | month
  | day
  | hour
  /-- An hour of half a day, from 1 to 12. -/
  | halfDayHour
  | minute
  | second
  /-- An optional point with digits of a fraction of a second. -/
  | fraction
  /-- The name of a month, cut to three letters. -/
  | monthName
  /-- The half of the day. -/
  | halfDay
  /-- Hours and minutes ahead of the clock that instants are counted by. -/
  | offset
deriving DecidableEq, Repr

/-- A form in which an instant may be written. -/
abbrev Layout := List LayoutItem

/-- Year, month and day with a mark between them. -/
def yearFirst (mark : Char) : Layout := [.year, .mark mark, .month, .mark mark, .day]

/-- Month, day and year with slashes between them. -/
def monthFirst : Layout := [.month, .mark '/', .day, .mark '/', .year]

/-- Day, name of the month and year. -/
def dayFirst : Layout := [.day, .mark '-', .monthName, .mark '-', .year]

/-- Hour and minute. -/
def clock : Layout := [.hour, .mark ':', .minute]

/-- Hour, minute, second and an optional fraction. -/
def preciseClock : Layout := clock ++ [.mark ':', .second, .fraction]

/-- The accepted forms, in the order in which they are tried: those with an offset, those without
one, and those of a day alone. -/
def layouts : List Layout :=
  let parts : List (List Layout) :=
    [[yearFirst '-', [.mark 'T'], preciseClock, [.offset]],
     [yearFirst '-', [.mark 'T'], clock, [.mark ':', .second, .offset]],
     [yearFirst '-', [.blanks], preciseClock, [.offset]],
     [yearFirst '-', [.mark 'T'], preciseClock, [.mark 'Z']],
     [yearFirst '-', [.mark 'T'], preciseClock],
     [yearFirst '-', [.blanks], preciseClock],
     [yearFirst '-', [.blanks], clock],
     [yearFirst '/', [.blanks], preciseClock],
     [monthFirst, [.blanks], preciseClock],
     [monthFirst, [.blanks], clock],
     [monthFirst,
       [.blanks, .halfDayHour, .mark ':', .minute, .mark ':', .second, .blanks, .halfDay]],
     [dayFirst, [.blanks], preciseClock],
     [yearFirst '-'],
     [yearFirst '/'],
     [monthFirst],
     [dayFirst],
     [[.monthName, .blanks, .day, .blanks, .year]]]
  parts.map List.flatten

/-! ### Reading -/

/-- What has been read of an instant. -/
structure InstantFields where
  year : Int := 1
  month : Nat := 1
  day : Nat := 1
  hour : Nat := 0
  minute : Nat := 0
  second : Nat := 0
  nanos : Nat := 0
  offset : Int := 0

/-- Digits at the start of a text, after blanks, at most `width` of them and at least one. -/
def takeNumber? (width : Nat) (cs : List Char) : Option (Nat × List Char) :=
  let cs := trimLeft cs
  let digits := (cs.take width).takeWhile isDigit
  if digits.isEmpty then none else some (natOfDigits digits, cs.drop digits.length)

/-- A number that has to lie between two bounds. -/
def takeBounded? (low high : Nat) (cs : List Char) : Option (Nat × List Char) := do
  let (n, rest) ← takeNumber? 2 cs
  if low ≤ n && n ≤ high then some (n, rest) else none

/-- The largest magnitude of a year that is looked at. -/
def yearLimit : Nat := 2147483648

/-- A year: four digits at most, or any number of them after a sign. -/
def takeYear? (cs : List Char) : Option (Int × List Char) := do
  let cs := trimLeft cs
  let signed (negative : Bool) (rest : List Char) : Option (Int × List Char) := do
    let digits := rest.takeWhile isDigit
    let n := natOfDigits digits
    if digits.isEmpty || yearLimit ≤ n then none
    else some (if negative then -(n : Int) else n, rest.drop digits.length)
  match cs with
  | '-' :: rest => signed true rest
  | '+' :: rest => signed false rest
  | _ =>
    let (n, rest) ← takeNumber? 4 cs
    some (n, rest)

/-- A fraction of a second in nanoseconds; digits beyond the ninth are left out. -/
def takeFraction? (cs : List Char) : Option (Nat × List Char) :=
  match cs with
  | '.' :: rest =>
    let digits := rest.takeWhile isDigit
    let kept := digits.take 9
    if kept.isEmpty then none
    else some (natOfDigits kept * tenTo (9 - kept.length), rest.drop digits.length)
  | _ => some (0, cs)

/-- The months by the first three letters of their names. -/
def monthNames : List String :=
  ["jan", "feb", "mar", "apr", "may", "jun", "jul", "aug", "sep", "oct", "nov", "dec"]

/-- The number of a month named by three letters. -/
def takeMonthName? (cs : List Char) : Option (Nat × List Char) :=
  let name := String.ofList (asciiLower (cs.take 3))
  (monthNames.idxOf? name).map fun k => (k + 1, cs.drop 3)

/-- The half of the day, `true` for the later one. -/
def takeHalfDay? (cs : List Char) : Option (Bool × List Char) :=
  match asciiLower (cs.take 2) with
  | ['a', 'm'] => some (false, cs.drop 2)
  | ['p', 'm'] => some (true, cs.drop 2)
  | _ => none

/-- A minus sign, either the one of ASCII or the mathematical one. -/
def isMinus (c : Char) : Bool := c == '-' || c.toNat == 0x2212

/-- Two digits. -/
def takeTwoDigits? : List Char → Option (Nat × List Char)
  | a :: b :: rest =>
    if isDigit a && isDigit b then some (digitValue a * 10 + digitValue b, rest) else none
  | _ => none

/-- An offset of hours and minutes in seconds. Colons and blanks may stand between the two. -/
def takeOffset? (cs : List Char) : Option (Int × List Char) :=
  match trimLeft cs with
  | [] => none
  | sign :: rest => do
    if !(sign == '+' || isMinus sign) then none
    else
      let (hours, rest) ← takeTwoDigits? rest
      let (minutes, rest) ← takeTwoDigits? (rest.dropWhile fun c => c == ':' || isBlank c)
      let magnitude : Int := hours * 3600 + minutes * 60
      if minutes < 60 then some (if sign == '+' then magnitude else -magnitude, rest) else none

/-- Reads one part of a layout. -/
def takeItem? (fields : InstantFields) (cs : List Char) :
    LayoutItem → Option (InstantFields × List Char)
  | .mark c =>
    match cs with
    | d :: rest => if c == d then some (fields, rest) else none
    | [] => none
  | .blanks => some (fields, trimLeft cs)
  | .year => (takeYear? cs).map fun (year, rest) => ({ fields with year }, rest)
  | .month => (takeBounded? 1 12 cs).map fun (month, rest) => ({ fields with month }, rest)
  | .day => (takeBounded? 1 31 cs).map fun (day, rest) => ({ fields with day }, rest)
  | .hour => (takeBounded? 0 23 cs).map fun (hour, rest) => ({ fields with hour }, rest)
  | .halfDayHour =>
    (takeBounded? 1 12 cs).map fun (hour, rest) => ({ fields with hour := hour % 12 }, rest)
  | .minute => (takeBounded? 0 59 cs).map fun (minute, rest) => ({ fields with minute }, rest)
  | .second => (takeBounded? 0 60 cs).map fun (second, rest) => ({ fields with second }, rest)
  | .fraction => (takeFraction? cs).map fun (nanos, rest) => ({ fields with nanos }, rest)
  | .monthName => (takeMonthName? cs).map fun (month, rest) => ({ fields with month }, rest)
  | .halfDay =>
    (takeHalfDay? cs).map fun (late, rest) =>
      ({ fields with hour := if late then fields.hour + 12 else fields.hour }, rest)
  | .offset => (takeOffset? cs).map fun (offset, rest) => ({ fields with offset }, rest)

/-- Reads all of a text by a layout. -/
def Layout.read? (fields : InstantFields) (cs : List Char) : Layout → Option InstantFields
  | [] => if cs.isEmpty then some fields else none
  | item :: items => do
    let (fields, rest) ← takeItem? fields cs item
    Layout.read? fields rest items

/-- The instant for what has been read. A sixtieth second is a leap second, and an offset is less
than a day. -/
def InstantFields.instant? (f : InstantFields) : Option Instant := do
  let date : Date := ⟨f.year, f.month, f.day⟩
  let leap := f.second == 60
  let second := f.hour * 3600 + f.minute * 60 + (if leap then 59 else f.second)
  let here ← Instant.ofParts? date second (if leap then f.nanos + nanosPerSecond else f.nanos)
  if f.offset.natAbs < 86400 then Instant.of? (here.seconds - f.offset) here.nanos else none

/-- The instant a text stands for: the first layout that takes all of the text and gives an instant
decides. -/
def Instant.ofText? (cs : List Char) : Option Instant :=
  let cs := trim cs
  if cs.isEmpty then none
  else layouts.findSome? fun layout => (layout.read? {} cs).bind (·.instant?)

end TableFilter
