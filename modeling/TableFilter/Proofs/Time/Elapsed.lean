import Mathlib.Data.Int.DivMod
import TableFilter.Proofs.Time.Text
import TableFilter.Time.Interval

/-!
# Elapsed time

Outside leap seconds an instant is told by the nanoseconds since the start of 1970, elapsed time is
the difference of two such numbers, and the intervals of one length add a multiple of it. Years and
months are added to the calendar day and keep the time of day. Either way an interval is counted as
often as it was added.

## Main definitions

* `Instant.sinceEpoch`: nanoseconds since the start of 1970
* `Interval.nanoseconds?`: the length of the intervals that are all of one length

## Main results

* `Instant.add?_eq_some_iff`, `Instant.nanosecondsTo_eq`: adding and taking the difference
* `Interval.add?_eq_some_iff`, `Interval.count_eq`: intervals of one length by their length
* `Interval.count_of_add?`: counting undoes adding
* `Interval.add?_add?`: adding twice
* `Interval.count_swap`: counting backward
-/

namespace TableFilter

theorem tdiv_tdiv {b : Int} (hb : 0 ≤ b) (a c : Int) :
    (a.tdiv b).tdiv c = a.tdiv (b * c) := by
  have nonneg {a : Int} (ha : 0 ≤ a) : (a.tdiv b).tdiv c = a.tdiv (b * c) := by
    rw [Int.tdiv_eq_ediv_of_nonneg ha, Int.tdiv_eq_ediv_of_nonneg (Int.ediv_nonneg ha hb),
      Int.tdiv_eq_ediv_of_nonneg ha, Int.ediv_ediv_of_nonneg hb]
  rcases Int.le_total 0 a with ha | ha
  · exact nonneg ha
  · rw [← Int.neg_inj, ← Int.neg_tdiv, ← Int.neg_tdiv, ← Int.neg_tdiv,
      nonneg (Int.neg_nonneg_of_nonpos ha)]

namespace Instant

variable {a b t e : Instant}

/-- Nanoseconds since the start of 1970. -/
def sinceEpoch (t : Instant) : Int := t.seconds * nanosPerSecond + t.nanos

theorem isLeap_eq_false_iff : t.isLeap = false ↔ t.nanos < nanosPerSecond := by
  rw [isLeap, decide_eq_false_iff_not, Nat.not_le]

theorem of?_eq_some_iff {s : Int} {n : Nat} : of? s n = some t ↔ t.seconds = s ∧ t.nanos = n := by
  constructor
  · intro h
    obtain ⟨_, h⟩ := Option.dite_none_right_eq_some.1 h
    cases h
    exact ⟨rfl, rfl⟩
  · rintro ⟨rfl, rfl⟩
    exact t.of?_self

/-! ### Intervals of one length -/

/-- Seconds and nanoseconds by the nanoseconds since the start of 1970. -/
theorem sinceEpoch_eq_iff (ht : t.isLeap = false) {x : Int} :
    t.sinceEpoch = x ↔ t.seconds = x / nanosPerSecond ∧ t.nanos = (x % nanosPerSecond).toNat := by
  rw [isLeap_eq_false_iff] at ht
  unfold sinceEpoch nanosPerSecond at *
  omega

/-- Adding time outside leap seconds adds nanoseconds, if there is such an instant. -/
theorem add?_eq_some_iff (ht : t.isLeap = false) {s n : Int} :
    t.add? s n = some e ↔
      e.isLeap = false ∧ e.sinceEpoch = t.sinceEpoch + (s * nanosPerSecond + n) := by
  have hadd : t.add? s n = of? ((t.sinceEpoch + (s * nanosPerSecond + n)) / nanosPerSecond)
      ((t.sinceEpoch + (s * nanosPerSecond + n)) % nanosPerSecond).toNat := by
    have hquotient : t.seconds + s + (t.nanos + n) / (nanosPerSecond : Int) =
        (t.sinceEpoch + (s * nanosPerSecond + n)) / nanosPerSecond := by
      unfold sinceEpoch nanosPerSecond
      omega
    have hremainder : (t.nanos + n) % (nanosPerSecond : Int) =
        (t.sinceEpoch + (s * nanosPerSecond + n)) % nanosPerSecond := by
      unfold sinceEpoch nanosPerSecond
      omega
    rw [add?, ht, ← hquotient, ← hremainder]
    rfl
  rw [hadd, of?_eq_some_iff]
  constructor
  · rintro ⟨hseconds, hnanos⟩
    have hleap : e.isLeap = false := by
      rw [isLeap_eq_false_iff, hnanos]
      unfold nanosPerSecond
      omega
    exact ⟨hleap, (sinceEpoch_eq_iff hleap).2 ⟨hseconds, hnanos⟩⟩
  · rintro ⟨hleap, h⟩
    exact (sinceEpoch_eq_iff hleap).1 h

theorem addMilliseconds?_eq_some_iff (ht : t.isLeap = false) {n : Int} :
    t.addMilliseconds? n = some e ↔
      e.isLeap = false ∧ e.sinceEpoch = t.sinceEpoch + n * 1000000 := by
  have hparts : n.tdiv 1000 * nanosPerSecond + n.tmod 1000 * 1000000 = n * 1000000 := by
    have hn := Int.tdiv_mul_add_tmod n 1000
    unfold nanosPerSecond
    omega
  rw [addMilliseconds?, add?_eq_some_iff ht, hparts]

theorem nanosecondsTo_eq (ha : a.isLeap = false) (hb : b.isLeap = false) :
    a.nanosecondsTo b = b.sinceEpoch - a.sinceEpoch := by
  have hadjust : (if a.secondOfDay < b.secondOfDay then if a.isLeap then (1 : Int) else 0
      else if b.secondOfDay < a.secondOfDay then if b.isLeap then -1 else 0
      else 0) = 0 := by
    rw [ha, hb]
    split
    · rfl
    · split <;> rfl
  rw [nanosecondsTo, hadjust, sinceEpoch, sinceEpoch]
  unfold nanosPerSecond
  omega

/-! ### Months -/

/-- Only the range of instants can be in the way of later months. -/
theorem addMonths?_eq (t : Instant) (n : Int) :
    t.addMonths? n = of? (secondsOf (t.date.addMonths n) t.secondOfDay) t.nanos := by
  rw [addMonths?, ofParts?, if_pos (Date.isValid_addMonths t.isValid_date n)]

theorem date_addMonths? {n : Int} (h : t.addMonths? n = some e) :
    e.date = t.date.addMonths n := by
  rw [addMonths?_eq, of?_eq_some_iff] at h
  have hsecond : t.secondOfDay < 86400 := by
    unfold secondOfDay
    omega
  have hday : e.dayNumber = (t.date.addMonths n).dayNumber := by
    rw [dayNumber, h.1, secondsOf]
    omega
  rw [date, hday, Date.ofDayNumber_dayNumber (Date.isValid_addMonths t.isValid_date n)]

end Instant

namespace Interval

open Instant

variable {i : Interval} {t e a b : Instant} {n length : Int}

/-- Nanoseconds of the intervals that are all of one length. -/
def nanoseconds? : Interval → Option Int
  | .millisecond => some 1000000
  | i => i.seconds?.map fun (s : Nat) => s * nanosPerSecond

theorem nanoseconds?_eq_none_iff : i.nanoseconds? = none ↔ i = .year ∨ i = .month := by
  cases i <;> decide

theorem nanoseconds?_pos (h : i.nanoseconds? = some length) : 0 < length := by
  cases i <;> cases h <;> decide

/-- An interval of one length is the millisecond, or a number of seconds. -/
theorem nanoseconds?_eq_some (h : i.nanoseconds? = some length) :
    i = .millisecond ∧ length = 1000000 ∨
      ∃ s : Nat, length = s * nanosPerSecond ∧
        (∀ t n, i.add? t n = t.add? (n * s) 0) ∧
        ∀ a b, i.count a b = (a.secondsTo b).tdiv s := by
  cases i <;> cases h
  case millisecond => exact .inl ⟨rfl, rfl⟩
  all_goals exact .inr ⟨_, rfl, fun _ _ => rfl, fun _ _ => rfl⟩

/-- Intervals of one length add multiples of it. -/
theorem add?_eq_some_iff (hi : i.nanoseconds? = some length) (ht : t.isLeap = false) :
    i.add? t n = some e ↔ e.isLeap = false ∧ e.sinceEpoch = t.sinceEpoch + n * length := by
  obtain ⟨rfl, rfl⟩ | ⟨s, rfl, hadd, -⟩ := nanoseconds?_eq_some hi
  · exact addMilliseconds?_eq_some_iff ht
  · rw [hadd, Instant.add?_eq_some_iff ht, Int.add_zero, Int.mul_assoc]

/-- Intervals of one length are counted by what they take of elapsed time. -/
theorem count_eq (hi : i.nanoseconds? = some length) (ha : a.isLeap = false)
    (hb : b.isLeap = false) : i.count a b = (b.sinceEpoch - a.sinceEpoch).tdiv length := by
  rw [← nanosecondsTo_eq ha hb]
  obtain ⟨rfl, rfl⟩ | ⟨s, rfl, -, hcount⟩ := nanoseconds?_eq_some hi
  · rfl
  · rw [hcount, secondsTo, tdiv_tdiv (by decide), Int.mul_comm]

/-- **Counting undoes adding**: an interval is counted as often as it was added. -/
theorem count_of_add? (ht : t.isLeap = false) (h : i.add? t n = some e) : i.count t e = n := by
  cases hlength : i.nanoseconds? with
  | some length =>
    obtain ⟨he, hsince⟩ := (add?_eq_some_iff hlength ht).1 h
    rw [count_eq hlength ht he, hsince, add_sub_cancel_left,
      Int.mul_tdiv_cancel n (nanoseconds?_pos hlength).ne']
  | none =>
    obtain rfl | rfl := nanoseconds?_eq_none_iff.1 hlength
    · have hyear : e.date.year = t.date.year + n := by
        rw [date_addMonths? h, Date.year_addMonths t.isValid_date]
      change e.date.year - t.date.year = n
      omega
    · have hmonth : e.date.monthNumber = t.date.monthNumber + n := by
        rw [date_addMonths? h, Date.monthNumber_addMonths]
      change (e.date.year - t.date.year) * 12 + e.date.month - t.date.month = n
      unfold Date.monthNumber at hmonth
      omega

/-- Adding intervals of one length twice adds them together. -/
theorem add?_add? (hi : i.nanoseconds? = some length) (ht : t.isLeap = false) {m : Int}
    (h : i.add? t m = some e) : i.add? e n = i.add? t (m + n) := by
  obtain ⟨he, hsince⟩ := (add?_eq_some_iff hi ht).1 h
  refine Option.ext fun later => ?_
  rw [add?_eq_some_iff hi he, add?_eq_some_iff hi ht, hsince, Int.add_mul, Int.add_assoc]

/-- Counting backward counts the same intervals, below zero. -/
theorem count_swap (ha : a.isLeap = false) (hb : b.isLeap = false) :
    i.count a b = -i.count b a := by
  cases hlength : i.nanoseconds? with
  | some length =>
    rw [count_eq hlength ha hb, count_eq hlength hb ha, ← Int.neg_tdiv, Int.neg_sub]
  | none =>
    obtain rfl | rfl := nanoseconds?_eq_none_iff.1 hlength
    · exact (Int.neg_sub _ _).symm
    · change (b.date.year - a.date.year) * 12 + b.date.month - a.date.month =
        -((a.date.year - b.date.year) * 12 + a.date.month - b.date.month)
      omega

end Interval

end TableFilter
