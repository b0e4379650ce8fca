import TableFilter.Proofs.Builtin.Faults
import TableFilter.Proofs.Literal.Numbers
import TableFilter.Proofs.Time.Elapsed

/-!
# Adding to instants and taking their difference

`DateDiff` counts the intervals that `DateAdd` has added, for every name of an interval and every
amount of 32 bits. Intervals of one length can be added one after the other or together. Years and
months cannot: the day of the month may have to give way on the way.

## Main results

* `call_dateAdd_eq`, `call_dateDiff_eq`: the calls by intervals
* `dateDiff_undoes_dateAdd`: counting, adding twice and counting backward
-/

namespace TableFilter.Builtin

open Result

section Calls

variable {name : String} {i : Interval} (hname : Interval.ofName? name = some i)
include hname

theorem intervalArgument_eq (f : Builtin) (args : List Value) {index : ℕ}
    (hargs : textArgument f args index = .ok (some name)) :
    intervalArgument f args index = .ok (some i) := by
  rw [intervalArgument, hargs, ok_bind]
  dsimp only
  rw [hname]

theorem call_dateAdd_eq (clock : Clock) (t : Instant) (n : Int32) :
    call clock .dateAdd [.dateTime t, .int32 n, .string name] =
      (i.add? t n.toInt).elim (.error (.evaluation (.resultOutOfRange .dateAdd)))
        (.ok ∘ .dateTime) := by
  have hcall : call clock .dateAdd [.dateTime t, .int32 n, .string name] =
      callDateAdd [.dateTime t, .int32 n, .string name] := callWith_eq_apply .standard clock rfl
  have ht : instantArgument .dateAdd [.dateTime t, .int32 n, .string name] 0 = .ok (some t) := rfl
  have hn : intArgument .dateAdd [.dateTime t, .int32 n, .string name] 1 =
      .ok (some n.toInt) := rfl
  rw [hcall, callDateAdd, ht, ok_bind, hn, ok_bind, intervalArgument_eq hname .dateAdd _ rfl,
    ok_bind]
  dsimp only
  cases i.add? t n.toInt <;> rfl

theorem call_dateDiff_eq (clock : Clock) (a b : Instant) :
    call clock .dateDiff [.dateTime a, .dateTime b, .string name] =
      if fitsInt32 (i.count a b) then .ok (.int32 (Int32.ofInt (i.count a b)))
      else .error (.evaluation (.resultOutOfRange .dateDiff)) := by
  have hcall : call clock .dateDiff [.dateTime a, .dateTime b, .string name] =
      callDateDiff [.dateTime a, .dateTime b, .string name] := callWith_eq_apply .standard clock rfl
  have ha : instantArgument .dateDiff [.dateTime a, .dateTime b, .string name] 0 =
      .ok (some a) := rfl
  have hb : instantArgument .dateDiff [.dateTime a, .dateTime b, .string name] 1 =
      .ok (some b) := rfl
  rw [hcall, callDateDiff, ha, ok_bind, hb, ok_bind, intervalArgument_eq hname .dateDiff _ rfl,
    ok_bind]

theorem call_dateAdd_eq_ok_iff (clock : Clock) {t e : Instant} {n : Int32} :
    call clock .dateAdd [.dateTime t, .int32 n, .string name] = .ok (.dateTime e) ↔
      i.add? t n.toInt = some e := by
  rw [call_dateAdd_eq hname]
  cases i.add? t n.toInt <;> simp

theorem call_dateDiff_eq_ok_iff (clock : Clock) {a b : Instant} {n : Int32} :
    call clock .dateDiff [.dateTime a, .dateTime b, .string name] = .ok (.int32 n) ↔
      i.count a b = n.toInt := by
  rw [call_dateDiff_eq hname]
  constructor
  · intro h
    split at h
    · next hfits =>
      cases h
      obtain ⟨hleast, hgreatest⟩ := fitsInt32_iff.1 hfits
      exact (Int32.toInt_ofInt_of_le hleast hgreatest).symm
    · cases h
  · intro h
    have hfits : fitsInt32 n.toInt = true := fitsInt32_iff.2 ⟨n.le_toInt, n.toInt_lt⟩
    rw [h, if_pos hfits, Int32.ofInt_toInt]

end Calls

/-- **Taking the difference undoes adding.** Outside leap seconds, for every name of an interval, in
any case and with blanks around it: adding an amount of 32 bits gives an instant to which the
difference is this amount, unless there is no such instant in range; intervals of one length are
added one after the other as they are together; and the difference is the other way round with its
sign changed. -/
theorem dateDiff_undoes_dateAdd (clock : Clock) {name : String} {i : Interval}
    (hname : Interval.ofName? name = some i) :
    (∀ (d : Instant) (n : Int32), d.isLeap = false →
      (∃ e : Instant,
        call clock .dateAdd [.dateTime d, .int32 n, .string name] = .ok (.dateTime e) ∧
        call clock .dateDiff [.dateTime d, .dateTime e, .string name] = .ok (.int32 n)) ∨
      call clock .dateAdd [.dateTime d, .int32 n, .string name] =
        .error (.evaluation (.resultOutOfRange .dateAdd))) ∧
    (i ≠ .year → i ≠ .month → ∀ (d e : Instant) (m n sum : Int32), d.isLeap = false →
      sum.toInt = m.toInt + n.toInt →
      call clock .dateAdd [.dateTime d, .int32 m, .string name] = .ok (.dateTime e) →
      call clock .dateAdd [.dateTime e, .int32 n, .string name] =
        call clock .dateAdd [.dateTime d, .int32 sum, .string name]) ∧
    ∀ (a b : Instant) (x y : Int32), a.isLeap = false → b.isLeap = false →
      call clock .dateDiff [.dateTime a, .dateTime b, .string name] = .ok (.int32 x) →
      call clock .dateDiff [.dateTime b, .dateTime a, .string name] = .ok (.int32 y) →
      x.toInt = -y.toInt := by
  refine ⟨fun d n hd => ?_, fun hyear hmonth d e m n sum hd hsum he => ?_,
    fun a b x y ha hb hx hy => ?_⟩
  · cases hadd : i.add? d n.toInt with
    | some e =>
      refine .inl ⟨e, (call_dateAdd_eq_ok_iff hname clock).2 hadd, ?_⟩
      exact (call_dateDiff_eq_ok_iff hname clock).2 (Interval.count_of_add? hd hadd)
    | none =>
      right
      rw [call_dateAdd_eq hname, hadd]
      rfl
  · obtain ⟨length, hlength⟩ : ∃ length, i.nanoseconds? = some length := by
      refine Option.ne_none_iff_exists'.1 fun hnone => ?_
      exact (Interval.nanoseconds?_eq_none_iff.1 hnone).elim hyear hmonth
    rw [call_dateAdd_eq_ok_iff hname] at he
    rw [call_dateAdd_eq hname, call_dateAdd_eq hname, hsum, Interval.add?_add? hlength hd he]
  · rw [call_dateDiff_eq_ok_iff hname] at hx hy
    rw [← hx, ← hy, Interval.count_swap ha hb]

/-- The 31st of January 2024. -/
def endOfJanuary : Instant := (Instant.of? 1706659200 0).get (by decide)

/-- The 29th of February 2024. -/
def endOfFebruary : Instant := (Instant.of? 1709164800 0).get (by decide)

/-- The 27th of December 2023, five weeks before the end of January. -/
def endOfDecember : Instant := (Instant.of? 1703635200 0).get (by decide)

/-- A month whose last day is not the one that was started from, and weeks before and after. -/
theorem month_and_weeks_undone :
    Interval.ofName? "month" = some .month ∧ Interval.ofName? " WEEK" = some .week ∧
      endOfJanuary.isLeap = false ∧ endOfDecember.isLeap = false ∧
      call ⟨default, default⟩ .dateAdd [.dateTime endOfJanuary, .int32 1, .string "month"] =
        .ok (.dateTime endOfFebruary) ∧
      call ⟨default, default⟩ .dateDiff
          [.dateTime endOfJanuary, .dateTime endOfFebruary, .string "month"] =
        .ok (.int32 1) ∧
      (2 : Int32).toInt = (-5 : Int32).toInt + (7 : Int32).toInt ∧
      call ⟨default, default⟩ .dateAdd [.dateTime endOfJanuary, .int32 (-5), .string " WEEK"] =
        .ok (.dateTime endOfDecember) ∧
      call ⟨default, default⟩ .dateAdd [.dateTime endOfDecember, .int32 7, .string " WEEK"] =
        call ⟨default, default⟩ .dateAdd [.dateTime endOfJanuary, .int32 2, .string " WEEK"] ∧
      call ⟨default, default⟩ .dateDiff
          [.dateTime endOfDecember, .dateTime endOfJanuary, .string " WEEK"] = .ok (.int32 5) ∧
      call ⟨default, default⟩ .dateDiff
          [.dateTime endOfJanuary, .dateTime endOfDecember, .string " WEEK"] =
        .ok (.int32 (-5)) ∧
      (5 : Int32).toInt = -(-5 : Int32).toInt := by
  have month : Interval.ofName? "month" = some .month := by decide +kernel
  have week : Interval.ofName? " WEEK" = some .week := by decide +kernel
  have later := (call_dateAdd_eq_ok_iff month ⟨default, default⟩ (t := endOfJanuary)
    (e := endOfFebruary) (n := 1)).2 (by decide +kernel)
  have before := (call_dateAdd_eq_ok_iff week ⟨default, default⟩ (t := endOfJanuary)
    (e := endOfDecember) (n := -5)).2 (by decide +kernel)
  have ahead := (call_dateDiff_eq_ok_iff week ⟨default, default⟩ (a := endOfDecember)
    (b := endOfJanuary) (n := 5)).2 (by decide +kernel)
  have back := (call_dateDiff_eq_ok_iff week ⟨default, default⟩ (a := endOfJanuary)
    (b := endOfDecember) (n := -5)).2 (by decide +kernel)
  have counted : call ⟨default, default⟩ .dateDiff
      [.dateTime endOfJanuary, .dateTime endOfFebruary, .string "month"] = .ok (.int32 1) := by
    obtain ⟨e, he, hcount⟩ | hfails :=
      (dateDiff_undoes_dateAdd ⟨default, default⟩ month).1 endOfJanuary 1 rfl
    · rw [later] at he
      cases he
      exact hcount
    · exact nomatch later.symm.trans hfails
  obtain ⟨-, added, swapped⟩ := dateDiff_undoes_dateAdd ⟨default, default⟩ week
  exact ⟨month, week, rfl, rfl, later, counted, by decide, before,
    added (by decide) (by decide) _ _ _ _ 2 rfl (by decide) before, ahead, back,
    swapped _ _ _ _ rfl rfl ahead back⟩

end TableFilter.Builtin
