import Mathlib.Algebra.Order.Ring.Nat
import Mathlib.Order.Monotone.Basic
import TableFilter.Time.Calendar

/-!
# The day of a number

Every day number is the number of one day that the calendar has, and this is the day that is found
for it. The year is an estimate by the mean length of a year that is corrected by one, the month is
found by taking the lengths of the months off one by one. Days some months later are days of the
calendar too, and the months passed are those that were added.

## Main results

* `daysBeforeYear_succ`: a year is as long as its months
* `daysBeforeYear_yearOfDayNumber`, `lt_daysBeforeYear_yearOfDayNumber`: the year of a day number
* `monthAndDay_spec`: month and day of a day of the year
* `Date.isValid_ofDayNumber`, `Date.dayNumber_ofDayNumber`: the day of a number exists and has it
* `Date.ofDayNumber_dayNumber`: there is no other day with this number
* `Date.isValid_addMonths`, `Date.monthNumber_addMonths`: the day some months later
-/

namespace TableFilter

/-! ### Years -/

theorem isLeapYear_iff {y : Int} :
    isLeapYear y = true ↔ y % 4 = 0 ∧ (y % 100 ≠ 0 ∨ y % 400 = 0) := by
  simp [isLeapYear]

theorem sum_monthLengths (leap : Bool) :
    (monthLengths leap).sum = if leap = true then 366 else 365 := by
  cases leap <;> rfl

/-- A year is as long as its months. -/
theorem daysBeforeYear_succ (y : Int) :
    daysBeforeYear (y + 1) = daysBeforeYear y + (monthLengths (isLeapYear y)).sum := by
  rw [sum_monthLengths]
  simp only [daysBeforeYear, isLeapYear_iff]
  split <;> omega

/-- The mean length of a year gives the year of a day number, or one that is one off. -/
theorem daysBeforeYear_guess (n : Int) :
    daysBeforeYear (n * 400 / 146097 + 1 - 1) ≤ n ∧
      n < daysBeforeYear (n * 400 / 146097 + 1 + 1 + 1) := by
  simp only [daysBeforeYear]
  omega

theorem daysBeforeYear_yearOfDayNumber (n : Int) : daysBeforeYear (yearOfDayNumber n) ≤ n := by
  have hguess := (daysBeforeYear_guess n).1
  simp only [yearOfDayNumber]
  split
  · exact hguess
  · split <;> omega

theorem lt_daysBeforeYear_yearOfDayNumber (n : Int) :
    n < daysBeforeYear (yearOfDayNumber n + 1) := by
  have hguess := (daysBeforeYear_guess n).2
  simp only [yearOfDayNumber]
  split
  · rwa [Int.sub_add_cancel]
  · split
    · exact hguess
    · omega

theorem daysBeforeYear_lt_iff {y y' : Int} : daysBeforeYear y < daysBeforeYear y' ↔ y < y' := by
  have later : StrictMono daysBeforeYear := strictMono_int_of_lt_succ fun y => by
    rw [daysBeforeYear_succ, sum_monthLengths]
    split <;> omega
  exact later.lt_iff_lt

/-- Only one year has the days from its start up to the start of the next. -/
theorem yearOfDayNumber_eq {n y : Int} (hstart : daysBeforeYear y ≤ n)
    (hend : n < daysBeforeYear (y + 1)) : yearOfDayNumber n = y := by
  have hlt := (daysBeforeYear_yearOfDayNumber n).trans_lt hend
  have hgt := hstart.trans_lt (lt_daysBeforeYear_yearOfDayNumber n)
  rw [daysBeforeYear_lt_iff] at hlt hgt
  omega

/-! ### Months -/

/-- Month and day are found from the days of the months before, for any day that the month has. -/
theorem monthAndDay_take {lengths : List Nat} {k length day : Nat} (month : Nat)
    (hk : lengths[k]? = some length) (hpos : 1 ≤ day) (hle : day ≤ length) :
    monthAndDay month ((lengths.take k).sum + day - 1) lengths = (month + k, day) := by
  induction lengths generalizing month k with
  | nil => cases hk
  | cons first lengths ih =>
    cases k with
    | zero =>
      obtain rfl : first = length := Option.some.inj hk
      have hday : ((first :: lengths).take 0).sum + day - 1 = day - 1 := by
        rw [List.take_zero, List.sum_nil, Nat.zero_add]
      rw [hday]
      cases lengths with
      | nil => rw [monthAndDay, Nat.sub_add_cancel hpos, Nat.add_zero]
      | cons _ _ =>
        rw [monthAndDay, if_pos (by omega), Nat.sub_add_cancel hpos, Nat.add_zero]
        exact nofun
    | succ k =>
      -- The last month is taken without comparison, but then there are none left to go on with.
      have hlater : ((first :: lengths).take (k + 1)).sum + day - 1 =
          first + ((lengths.take k).sum + day - 1) := by
        rw [List.take_succ_cons, List.sum_cons]
        omega
      rw [hlater]
      cases lengths with
      | nil => cases hk
      | cons _ _ =>
        rw [monthAndDay, if_neg (by omega), Nat.add_sub_cancel_left, ih (month + 1) hk,
          Nat.add_assoc, Nat.add_comm 1]
        exact nofun

/-- A day of the year is the day of the month that follows on the months before it. -/
theorem exists_take_add_day {lengths : List Nat} {rest : Nat} (h : rest < lengths.sum) :
    ∃ k length day, lengths[k]? = some length ∧ 1 ≤ day ∧ day ≤ length ∧
      rest + 1 = (lengths.take k).sum + day := by
  induction lengths generalizing rest with
  | nil => exact absurd h (Nat.not_lt_zero _)
  | cons length lengths ih =>
    by_cases hrest : rest < length
    · exact ⟨0, length, rest + 1, rfl, Nat.le_add_left _ _, hrest, by simp⟩
    · have hleft : rest - length < lengths.sum := by
        rw [List.sum_cons] at h
        omega
      obtain ⟨k, len, day, hk, hpos, hle, hsum⟩ := ih hleft
      refine ⟨k + 1, len, day, hk, hpos, hle, ?_⟩
      rw [List.take_succ_cons, List.sum_cons]
      omega

theorem monthAndDay_spec {lengths : List Nat} {rest : Nat} (month : Nat)
    (h : rest < lengths.sum) :
    ∃ k length day, lengths[k]? = some length ∧ 1 ≤ day ∧ day ≤ length ∧
      rest + 1 = (lengths.take k).sum + day ∧
      monthAndDay month rest lengths = (month + k, day) := by
  obtain ⟨k, length, day, hk, hpos, hle, hsum⟩ := exists_take_add_day h
  refine ⟨k, length, day, hk, hpos, hle, hsum, ?_⟩
  rw [← monthAndDay_take month hk hpos hle, ← hsum, Nat.add_sub_cancel]

theorem daysInMonth_le (y : Int) (month : Nat) : daysInMonth y month ≤ 31 := by
  unfold daysInMonth
  cases h : (monthLengths (isLeapYear y))[month - 1]? with
  | none => exact Nat.zero_le _
  | some length =>
    have hall (leap : Bool) : ∀ length ∈ monthLengths leap, length ≤ 31 := by
      cases leap <;> decide
    exact hall _ length (List.mem_of_getElem? h)

theorem daysInMonth_pos (y : Int) {k : Nat} (hk : k < 12) : 1 ≤ daysInMonth y (k + 1) := by
  have hall (leap : Bool) : ∀ k < 12, 1 ≤ ((monthLengths leap)[k]?).getD 0 := by
    cases leap <;> decide
  exact hall _ k hk

/-! ### Days -/

namespace Date

theorem isValid_iff {d : Date} :
    d.isValid = true ↔
      (1 ≤ d.month ∧ d.month ≤ 12) ∧ 1 ≤ d.day ∧ d.day ≤ daysInMonth d.year d.month := by
  simp [isValid, and_assoc]

/-- The day of the year that a day number falls on, counted from 0. -/
theorem yearStart_add (n : Int) :
    ∃ rest : Nat, n = daysBeforeYear (yearOfDayNumber n) + rest ∧
      rest < (monthLengths (isLeapYear (yearOfDayNumber n))).sum := by
  have hstart := daysBeforeYear_yearOfDayNumber n
  have hend := lt_daysBeforeYear_yearOfDayNumber n
  rw [daysBeforeYear_succ] at hend
  exact ⟨(n - daysBeforeYear (yearOfDayNumber n)).toNat, by omega, by omega⟩

/-- The day of a number is one of the calendar, and it has this number. -/
theorem ofDayNumber_spec (n : Int) :
    (ofDayNumber n).isValid = true ∧ (ofDayNumber n).dayNumber = n := by
  obtain ⟨rest, hn, hrest⟩ := yearStart_add n
  have htoNat : (n - daysBeforeYear (yearOfDayNumber n)).toNat = rest := by omega
  obtain ⟨k, length, day, hk, hpos, hle, hsum, heq⟩ := monthAndDay_spec 1 hrest
  have hdate : ofDayNumber n = ⟨yearOfDayNumber n, 1 + k, day⟩ := by
    rw [ofDayNumber, htoNat, heq]
  have hmonths : k < 12 := (List.getElem?_eq_some_iff.1 hk).1
  have hlength : daysInMonth (yearOfDayNumber n) (1 + k) = length := by
    rw [daysInMonth, Nat.add_sub_cancel_left, hk]
    rfl
  have hbefore : daysBeforeMonth (yearOfDayNumber n) (1 + k) =
      ((monthLengths (isLeapYear (yearOfDayNumber n))).take k).sum := by
    rw [daysBeforeMonth, Nat.add_sub_cancel_left, List.sum_eq_foldl]
  rw [hdate]
  constructor
  · rw [isValid_iff, hlength]
    dsimp only
    omega
  · rw [dayNumber, dayOfYear, hbefore]
    dsimp only
    omega

theorem isValid_ofDayNumber (n : Int) : (ofDayNumber n).isValid = true := (ofDayNumber_spec n).1

theorem dayNumber_ofDayNumber (n : Int) : (ofDayNumber n).dayNumber = n := (ofDayNumber_spec n).2

/-- A day of the calendar is the one that is found for its number. -/
theorem ofDayNumber_dayNumber {d : Date} (hd : d.isValid = true) :
    ofDayNumber d.dayNumber = d := by
  obtain ⟨⟨hfirst, hlast⟩, hpos, hle⟩ := isValid_iff.1 hd
  have hmonths : d.month - 1 < (monthLengths (isLeapYear d.year)).length := by
    change d.month - 1 < 12
    omega
  have hk : (monthLengths (isLeapYear d.year))[d.month - 1]? =
      some (daysInMonth d.year d.month) := by
    rw [daysInMonth, List.getElem?_eq_getElem hmonths, Option.getD_some]
  have hbefore : d.dayOfYear =
      ((monthLengths (isLeapYear d.year)).take (d.month - 1)).sum + d.day := by
    rw [dayOfYear, daysBeforeMonth, List.sum_eq_foldl]
  have hfits : d.dayOfYear ≤ (monthLengths (isLeapYear d.year)).sum := by
    have htaken := congrArg List.sum
      (List.take_append_drop (d.month - 1) (monthLengths (isLeapYear d.year)))
    rw [List.sum_append, List.drop_eq_getElem_cons hmonths, List.sum_cons] at htaken
    rw [List.getElem?_eq_getElem hmonths, Option.some_inj] at hk
    omega
  have hyear : yearOfDayNumber d.dayNumber = d.year := by
    refine yearOfDayNumber_eq ?_ ?_
    · rw [dayNumber]
      omega
    · rw [daysBeforeYear_succ, dayNumber]
      omega
  have hrest : (d.dayNumber - daysBeforeYear d.year).toNat = d.dayOfYear - 1 := by
    rw [dayNumber]
    omega
  rw [ofDayNumber, hyear, hrest, hbefore, monthAndDay_take 1 hk hpos hle]
  dsimp only
  rw [Nat.add_sub_of_le hfirst]

/-! ### Later months -/

theorem monthNumber_addMonths (d : Date) (n : Int) :
    (d.addMonths n).monthNumber = d.monthNumber + n := by
  rw [monthNumber, addMonths]
  dsimp only
  omega

theorem isValid_addMonths {d : Date} (hd : d.isValid = true) (n : Int) :
    (d.addMonths n).isValid = true := by
  have hday := (isValid_iff.1 hd).2.1
  rw [isValid_iff, addMonths]
  dsimp only
  have hlength := daysInMonth_pos ((d.monthNumber + n) / 12)
    (show ((d.monthNumber + n) % 12).toNat < 12 by omega)
  omega

/-- A year is as many months as are added for it. -/
theorem year_addMonths {d : Date} (hd : d.isValid = true) (n : Int) :
    (d.addMonths (n * 12)).year = d.year + n := by
  have hmonth := (isValid_iff.1 hd).1
  rw [addMonths, monthNumber]
  dsimp only
  omega

end Date

end TableFilter
