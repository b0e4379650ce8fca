import Mathlib.Data.List.TakeWhile
import TableFilter.Proofs.Number.Digits
import TableFilter.Proofs.Time.Calendar
import TableFilter.Time.Text

/-!
# Instants read back

The written form of an instant is read as this instant, cut to milliseconds. Each part of the form
is read off the start of the text and leaves what follows it, so the parts can be read one after the
other. The layouts that are tried before the one of the written form fail where the clock begins or
at the end of the text.

## Main definitions

* `dateText`, `clockText`: the day and the time of day in the written form
* `Instant.toMilliseconds`: an instant without what the written form leaves out

## Main results

* `takeNumber?_padded`, `takeYear?_yearText`, `takeFraction?_padded`: the parts of the form
* `Layout.read?_dateText`, `Layout.read?_clockText`: the day and the time of day
* `Instant.ofText?_text`: the instant that the written form is read as
-/

namespace TableFilter

open TableFilter.Number TableFilter.Text

section

variable {rest : List Char}

/-! ### Numbers -/

theorem trimLeft_cons {c : Char} (h : isBlank c = false) (cs : List Char) :
    trimLeft (c :: cs) = c :: cs :=
  List.dropWhile_cons_of_neg (by rw [h]; exact Bool.false_ne_true)

theorem isDigit_isBlank {c : Char} (h : isDigit c = true) : isBlank c = false :=
  isHexDigit_isBlank (isDigit_isHexDigit h)

theorem IsDigits.trimLeft_append {digits : List Char} (h : IsDigits digits) (rest : List Char) :
    trimLeft (digits ++ rest) = digits ++ rest := by
  obtain ⟨c, more, rfl⟩ := List.exists_cons_of_ne_nil h.1
  exact trimLeft_cons (isDigit_isBlank (h.2 c (.head _))) _

theorem length_padded_of_lt {width n : Nat} (hwidth : 0 < width) (h : n < tenTo width) :
    (padded width n).length = width := by
  rw [length_padded]
  exact max_eq_left ((length_natText_le hwidth).2 h)

theorem takeNumber?_padded {width n : Nat} (hwidth : 0 < width) (h : n < tenTo width)
    (rest : List Char) : takeNumber? width (padded width n ++ rest) = some (n, rest) := by
  have hdigits := isDigits_padded width n
  have htake : (padded width n ++ rest).take width = padded width n :=
    List.take_left' (length_padded_of_lt hwidth h)
  have hrun : (padded width n).takeWhile isDigit = padded width n :=
    List.takeWhile_eq_self_iff.2 hdigits.2
  rw [takeNumber?, hdigits.trimLeft_append, htake, hrun, hdigits.isEmpty,
    if_neg Bool.false_ne_true, natOfDigits_padded, List.drop_left]

theorem takeBounded?_padded {low high n : Nat} (hlow : low ≤ n) (hhigh : n ≤ high)
    (h : n < 100) (rest : List Char) :
    takeBounded? low high (padded 2 n ++ rest) = some (n, rest) := by
  rw [takeBounded?, takeNumber?_padded (by decide) h]
  simp [hlow, hhigh]

theorem takeYear?_signed (negative : Bool) {n : Nat} (h : n < yearLimit)
    (hrest : StopsDigits rest) :
    takeYear? ((if negative = true then '-' else '+') :: padded 4 n ++ rest) =
      some (if negative = true then -(n : Int) else n, rest) := by
  have hdigits := isDigits_padded 4 n
  have hrun := takeWhile_append_stop hdigits.2 hrest
  cases negative with
  | true => simp [takeYear?, trimLeft_cons (c := '-') rfl, hrun, hdigits.isEmpty, h]
  | false => simp [takeYear?, trimLeft_cons (c := '+') rfl, hrun, hdigits.isEmpty, h]

/-- A year of four digits has no sign. -/
theorem takeYear?_padded {n : Nat} (h : n < 10000) (rest : List Char) :
    takeYear? (padded 4 n ++ rest) = some ((n : Int), rest) := by
  have hdigits := isDigits_padded 4 n
  have hnumber : takeNumber? 4 (padded 4 n ++ rest) = some (n, rest) :=
    takeNumber?_padded (by decide) h rest
  obtain ⟨c, more, heq⟩ := List.exists_cons_of_ne_nil hdigits.1
  have hsign {d : Char} (hd : isDigit d = false) : c ≠ d :=
    hdigits.ne_of_head (List.head?_eq_some_iff.2 ⟨more, heq⟩) hd
  rw [takeYear?, hdigits.trimLeft_append]
  rw [heq] at hnumber ⊢
  dsimp only
  split
  · next h => exact absurd (List.cons.inj h).1 (hsign rfl)
  · next h => exact absurd (List.cons.inj h).1 (hsign rfl)
  · rw [hnumber]
    rfl

theorem takeYear?_yearText {y : Int} (hy : y.natAbs < yearLimit) (hrest : StopsDigits rest) :
    takeYear? (yearText y ++ rest) = some (y, rest) := by
  unfold yearText
  split
  · next h =>
    rw [Bool.and_eq_true, decide_eq_true_eq, decide_eq_true_eq] at h
    rw [takeYear?_padded (by omega), Int.toNat_of_nonneg h.1]
  · have hsigned := takeYear?_signed (decide (y < 0)) hy hrest
    simp only [decide_eq_true_eq] at hsigned
    rw [hsigned]
    congr 2
    split <;> omega

theorem yearText_ne_nil (y : Int) : yearText y ≠ [] := by
  unfold yearText
  split
  · exact (isDigits_padded _ _).1
  · exact List.cons_ne_nil _ _

theorem mem_yearText {y : Int} {c : Char} (h : c ∈ yearText y) :
    isDigit c = true ∨ c = '-' ∨ c = '+' := by
  unfold yearText at h
  split at h
  · exact .inl ((isDigits_padded _ _).2 c h)
  · rcases List.mem_cons.1 h with rfl | h
    · split
      · exact .inr (.inl rfl)
      · exact .inr (.inr rfl)
    · exact .inl ((isDigits_padded _ _).2 c h)

theorem takeFraction?_padded {ms : Nat} (h : ms < 1000) (hrest : StopsDigits rest) :
    takeFraction? ('.' :: padded 3 ms ++ rest) = some (ms * 1000000, rest) := by
  have hdigits := isDigits_padded 3 ms
  have hlength : (padded 3 ms).length = 3 := length_padded_of_lt (by decide) h
  rw [List.cons_append, takeFraction?, takeWhile_append_stop hdigits.2 hrest,
    List.take_of_length_le (by omega), hdigits.isEmpty, if_neg Bool.false_ne_true, hlength,
    natOfDigits_padded, List.drop_left' hlength]
  rfl

/-! ### Parts of a layout -/

/-- The written form of a day. -/
def dateText (d : Date) : List Char :=
  yearText d.year ++ '-' :: padded 2 d.month ++ '-' :: padded 2 d.day

/-- The written form of a time of day. -/
def clockText (hour minute second ms : Nat) : List Char :=
  padded 2 hour ++ ':' :: padded 2 minute ++ ':' :: padded 2 second ++ '.' :: padded 3 ms

theorem Layout.read?_cons {fields read : InstantFields} {cs : List Char} {item : LayoutItem}
    (h : takeItem? fields cs item = some (read, rest)) (items : Layout) :
    Layout.read? fields cs (item :: items) = Layout.read? read rest items := by
  rw [Layout.read?, h]
  rfl

theorem Layout.read?_mark (fields : InstantFields) (c : Char) (rest : List Char) (items : Layout) :
    Layout.read? fields (c :: rest) (.mark c :: items) = Layout.read? fields rest items := by
  refine Layout.read?_cons ?_ items
  exact if_pos (beq_self_eq_true c)

theorem Layout.read?_mark_ne {c d : Char} (h : c ≠ d) (fields : InstantFields) (rest : List Char)
    (items : Layout) : Layout.read? fields (d :: rest) (.mark c :: items) = none := by
  have hitem : takeItem? fields (d :: rest) (.mark c) = none :=
    if_neg (mt beq_iff_eq.1 h)
  rw [Layout.read?, hitem]
  rfl

/-- A blank before a number. -/
theorem Layout.read?_blank (fields : InstantFields) (hour minute second ms : Nat)
    (items : Layout) :
    Layout.read? fields (' ' :: clockText hour minute second ms) (.blanks :: items) =
      Layout.read? fields (clockText hour minute second ms) items := by
  have hdrop : trimLeft (' ' :: clockText hour minute second ms) =
      trimLeft (clockText hour minute second ms) := List.dropWhile_cons_of_pos rfl
  have hkeep : trimLeft (clockText hour minute second ms) = clockText hour minute second ms := by
    rw [clockText, List.append_assoc, List.append_assoc, (isDigits_padded _ _).trimLeft_append]
  refine Layout.read?_cons ?_ items
  rw [takeItem?, hdrop, hkeep]

/-- A part that is a number of two digits within bounds. -/
theorem Layout.read?_number {fields : InstantFields} {item : LayoutItem} {low high n : Nat}
    (set : Nat → InstantFields)
    (hitem : ∀ cs, takeItem? fields cs item =
      (takeBounded? low high cs).map fun (k, rest) => (set k, rest))
    (hbounds : low ≤ n ∧ n ≤ high ∧ n < 100) (rest : List Char) (items : Layout) :
    Layout.read? fields (padded 2 n ++ rest) (item :: items) =
      Layout.read? (set n) rest items := by
  refine Layout.read?_cons ?_ items
  rw [hitem, takeBounded?_padded hbounds.1 hbounds.2.1 hbounds.2.2]
  rfl

theorem Layout.read?_dateText (fields : InstantFields) {d : Date} (hd : d.isValid = true)
    (hyear : d.year.natAbs < yearLimit) (rest : List Char) (items : Layout) :
    Layout.read? fields (dateText d ++ rest) (yearFirst '-' ++ items) =
      Layout.read? { fields with year := d.year, month := d.month, day := d.day } rest items := by
  have hbounds := Date.isValid_iff.1 hd
  have hdays := daysInMonth_le d.year d.month
  obtain ⟨year, month, day, hour, minute, second, nanos, offset⟩ := fields
  have htakeYear : takeItem? ⟨year, month, day, hour, minute, second, nanos, offset⟩
      (dateText d ++ rest) .year = some (⟨d.year, month, day, hour, minute, second, nanos, offset⟩,
        '-' :: (padded 2 d.month ++ '-' :: (padded 2 d.day ++ rest))) := by
    simp only [dateText, List.append_assoc, List.cons_append, takeItem?]
    rw [takeYear?_yearText hyear (by rintro _ ⟨⟩; rfl)]
    rfl
  calc Layout.read? _ (dateText d ++ rest) (yearFirst '-' ++ items)
      = Layout.read? ⟨d.year, month, day, hour, minute, second, nanos, offset⟩
          ('-' :: (padded 2 d.month ++ '-' :: (padded 2 d.day ++ rest)))
          (.mark '-' :: .month :: .mark '-' :: .day :: items) := Layout.read?_cons htakeYear _
    _ = Layout.read? ⟨d.year, d.month, day, hour, minute, second, nanos, offset⟩
          ('-' :: (padded 2 d.day ++ rest)) (.mark '-' :: .day :: items) := by
        rw [Layout.read?_mark]
        exact Layout.read?_number (⟨d.year, ·, day, hour, minute, second, nanos, offset⟩)
          (fun _ => rfl) (by omega) _ _
    _ = Layout.read? ⟨d.year, d.month, d.day, hour, minute, second, nanos, offset⟩ rest items := by
        rw [Layout.read?_mark]
        exact Layout.read?_number (⟨d.year, d.month, ·, hour, minute, second, nanos, offset⟩)
          (fun _ => rfl) (by omega) _ _

theorem Layout.read?_clockText (fields : InstantFields) {hour minute second ms : Nat}
    (hhour : hour ≤ 23) (hminute : minute ≤ 59) (hsecond : second ≤ 60) (hms : ms < 1000)
    (hrest : StopsDigits rest) (items : Layout) :
    Layout.read? fields (clockText hour minute second ms ++ rest) (preciseClock ++ items) =
      Layout.read? { fields with hour, minute, second, nanos := ms * 1000000 } rest items := by
  have htext : clockText hour minute second ms ++ rest =
      padded 2 hour ++ ':' :: (padded 2 minute ++ ':' ::
        (padded 2 second ++ ('.' :: padded 3 ms ++ rest))) := by
    simp only [clockText, List.append_assoc, List.cons_append]
  obtain ⟨y, m, d, h, min, s, ns, offset⟩ := fields
  have htakeFraction : takeItem? ⟨y, m, d, hour, minute, second, ns, offset⟩
      ('.' :: padded 3 ms ++ rest) .fraction =
        some (⟨y, m, d, hour, minute, second, ms * 1000000, offset⟩, rest) := by
    rw [takeItem?, takeFraction?_padded hms hrest]
    rfl
  calc Layout.read? _ (clockText hour minute second ms ++ rest) (preciseClock ++ items)
      = Layout.read? ⟨y, m, d, hour, min, s, ns, offset⟩
          (':' :: (padded 2 minute ++ ':' :: (padded 2 second ++ ('.' :: padded 3 ms ++ rest))))
          (.mark ':' :: .minute :: .mark ':' :: .second :: .fraction :: items) := by
        rw [htext]
        exact Layout.read?_number (⟨y, m, d, ·, min, s, ns, offset⟩) (fun _ => rfl) (by omega) _ _
    _ = Layout.read? ⟨y, m, d, hour, minute, s, ns, offset⟩
          (':' :: (padded 2 second ++ ('.' :: padded 3 ms ++ rest)))
          (.mark ':' :: .second :: .fraction :: items) := by
        rw [Layout.read?_mark]
        exact Layout.read?_number (⟨y, m, d, hour, ·, s, ns, offset⟩) (fun _ => rfl) (by omega) _ _
    _ = Layout.read? ⟨y, m, d, hour, minute, second, ns, offset⟩ ('.' :: padded 3 ms ++ rest)
          (.fraction :: items) := by
        rw [Layout.read?_mark]
        exact Layout.read?_number (⟨y, m, d, hour, minute, ·, ns, offset⟩) (fun _ => rfl)
          (by omega) _ _
    _ = Layout.read? ⟨y, m, d, hour, minute, second, ms * 1000000, offset⟩ rest items :=
        Layout.read?_cons htakeFraction items

end

/-! ### The instant of its parts -/

namespace Instant

theorem of?_self (t : Instant) : of? t.seconds t.nanos = some t :=
  dif_pos ⟨t.first_le, t.le_last, t.nanos_lt, t.leap_last⟩

/-- The day and the second of the day give the seconds of an instant. -/
theorem ofParts?_date (t : Instant) (nanos : Nat) :
    ofParts? t.date t.secondOfDay nanos = of? t.seconds nanos := by
  have hseconds : secondsOf t.date t.secondOfDay = t.seconds := by
    rw [secondsOf, date, Date.dayNumber_ofDayNumber, dayNumber, secondOfDay]
    omega
  rw [ofParts?, date, Date.isValid_ofDayNumber, if_pos rfl, ← date, hseconds]

/-- An instant cut to milliseconds. -/
def toMilliseconds (t : Instant) : Instant where
  seconds := t.seconds
  nanos := t.nanos / 1000000 * 1000000
  first_le := t.first_le
  le_last := t.le_last
  nanos_lt := lt_of_le_of_lt (Nat.div_mul_le_self _ _) t.nanos_lt
  leap_last h := t.leap_last (h.trans (Nat.div_mul_le_self _ _))

theorem natAbs_year_lt (t : Instant) : t.date.year.natAbs < yearLimit := by
  have hstart := daysBeforeYear_yearOfDayNumber t.dayNumber
  have hend := lt_daysBeforeYear_yearOfDayNumber t.dayNumber
  have hfirst := t.first_le
  have hlast := t.le_last
  change (yearOfDayNumber t.dayNumber).natAbs < yearLimit
  generalize yearOfDayNumber t.dayNumber = y at hstart hend
  simp only [daysBeforeYear, dayNumber, epochDay, firstSecond, lastSecond, yearLimit] at *
  omega

theorem clock_eq (t : Instant) : t.hour * 3600 + t.minute * 60 + t.second = t.secondOfDay := by
  unfold hour minute second
  omega

theorem second_of_isLeap {t : Instant} (h : t.isLeap = true) : t.second = 59 := by
  have hlast := t.leap_last (of_decide_eq_true h)
  unfold second secondOfDay
  omega

/-- A sixtieth second is shown in a leap second only. -/
theorem shown_beq_sixty (t : Instant) :
    (t.second + t.nanos / nanosPerSecond == 60) = t.isLeap := by
  have hnanos := t.nanos_lt
  rw [Bool.eq_iff_iff, beq_iff_eq]
  constructor
  · intro h
    have hsecond : t.second < 60 := Nat.mod_lt _ (by decide)
    refine decide_eq_true ?_
    unfold nanosPerSecond at *
    omega
  · intro h
    have hle : nanosPerSecond ≤ t.nanos := of_decide_eq_true h
    rw [second_of_isLeap h]
    unfold nanosPerSecond at *
    omega

/-- The nanoseconds that the milliseconds stand for, with the ones that make a leap second. -/
theorem nanos_shown (t : Instant) :
    (if t.isLeap = true then t.nanos % nanosPerSecond / 1000000 * 1000000 + nanosPerSecond
      else t.nanos % nanosPerSecond / 1000000 * 1000000) = t.toMilliseconds.nanos := by
  have hlt := t.nanos_lt
  have hleap : t.isLeap = true ↔ nanosPerSecond ≤ t.nanos := decide_eq_true_iff
  change _ = t.nanos / 1000000 * 1000000
  unfold nanosPerSecond at *
  split
  · next h =>
    rw [hleap] at h
    omega
  · next h =>
    rw [hleap] at h
    omega

/-- What the written form shows gives the instant back. -/
theorem instant?_shown (t : Instant) :
    InstantFields.instant? ⟨t.date.year, t.date.month, t.date.day, t.hour, t.minute,
      t.second + t.nanos / nanosPerSecond, t.nanos % nanosPerSecond / 1000000 * 1000000, 0⟩ =
        some t.toMilliseconds := by
  have hsecond : (if t.isLeap = true then 59 else t.second + t.nanos / nanosPerSecond) =
      t.second := by
    split
    · next h => rw [second_of_isLeap h]
    · next h =>
      rw [Nat.div_eq_of_lt (Nat.lt_of_not_le (mt decide_eq_true h)), Nat.add_zero]
  have hparts : ofParts? t.date t.secondOfDay t.toMilliseconds.nanos = some t.toMilliseconds :=
    (ofParts?_date t _).trans t.toMilliseconds.of?_self
  have hdate : (⟨t.date.year, t.date.month, t.date.day⟩ : Date) = t.date := rfl
  unfold InstantFields.instant?
  simp only [hdate, shown_beq_sixty, hsecond, clock_eq, nanos_shown, hparts, Option.bind_eq_bind,
    Option.bind_some, Int.sub_zero, of?_self]
  rfl

/-! ### The written form -/

theorem text_eq (t : Instant) :
    t.text = dateText t.date ++ ' ' :: clockText t.hour t.minute
      (t.second + t.nanos / nanosPerSecond) (t.nanos % nanosPerSecond / 1000000) := by
  simp only [text, dateText, clockText, List.append_assoc, List.cons_append]

theorem isValid_date (t : Instant) : t.date.isValid = true := Date.isValid_ofDayNumber _

theorem mem_text {t : Instant} {c : Char} (h : c ∈ t.text) :
    isDigit c = true ∨ c ∈ ['-', '+', ' ', ':', '.'] := by
  have hdigits {width n : Nat} (h : c ∈ padded width n) : isDigit c = true :=
    (isDigits_padded width n).2 c h
  simp only [text, List.mem_append, List.mem_cons, or_assoc] at h
  rcases h with h | rfl | h | rfl | h | rfl | h | rfl | h | rfl | h | rfl | h
  case inl => exact (mem_yearText h).imp_right fun h => by rcases h with rfl | rfl <;> decide
  all_goals first | exact .inl (hdigits h) | exact .inr (by decide)

/-- The written form has no blanks at its ends. -/
theorem trim_text (t : Instant) : trim t.text = t.text := by
  apply trim_eq_self
  · intro c hc
    obtain ⟨d, more, hyear⟩ := List.exists_cons_of_ne_nil (yearText_ne_nil t.date.year)
    obtain rfl : d = c := by
      rw [text_eq, dateText, hyear] at hc
      exact Option.some.inj hc
    rcases mem_yearText (hyear ▸ List.mem_cons_self : d ∈ yearText t.date.year) with h | rfl | rfl
    · exact isDigit_isBlank h
    · rfl
    · rfl
  · intro c hc
    obtain ⟨hne, hall⟩ := isDigits_padded 3 (t.nanos % nanosPerSecond / 1000000)
    rw [text, List.getLast?_append, List.getLast?_cons_of_ne_nil hne,
      List.getLast?_eq_some_getLast hne, Option.some_or] at hc
    exact isDigit_isBlank (hall c (Option.some.inj hc ▸ List.getLast_mem hne))

/-- A layout that has a letter between the day and the time of day. -/
theorem read?_text_mark (t : Instant) (items : Layout) :
    Layout.read? {} t.text (yearFirst '-' ++ .mark 'T' :: items) = none := by
  rw [text_eq, Layout.read?_dateText _ t.isValid_date t.natAbs_year_lt,
    Layout.read?_mark_ne (by decide)]

/-- A layout that starts with the one of the written form. -/
theorem read?_text (t : Instant) (items : Layout) :
    Layout.read? {} t.text (yearFirst '-' ++ .blanks :: (preciseClock ++ items)) =
      Layout.read? ⟨t.date.year, t.date.month, t.date.day, t.hour, t.minute,
        t.second + t.nanos / nanosPerSecond, t.nanos % nanosPerSecond / 1000000 * 1000000, 0⟩ []
        items := by
  have hhour : t.hour ≤ 23 := by
    unfold hour secondOfDay
    omega
  have hminute : t.minute ≤ 59 := Nat.le_of_lt_succ (Nat.mod_lt _ (by decide))
  have hsecond : t.second + t.nanos / nanosPerSecond ≤ 60 := by
    have hlt := t.nanos_lt
    have hmod : t.second < 60 := Nat.mod_lt _ (by decide)
    unfold nanosPerSecond at *
    omega
  have hms : t.nanos % nanosPerSecond / 1000000 < 1000 := by
    unfold nanosPerSecond
    omega
  have hclock := Layout.read?_clockText
    ⟨t.date.year, t.date.month, t.date.day, 0, 0, 0, 0, 0⟩ hhour hminute hsecond hms
    (show StopsDigits [] from nofun) items
  rw [List.append_nil] at hclock
  rw [text_eq, Layout.read?_dateText _ t.isValid_date t.natAbs_year_lt, Layout.read?_blank, hclock]

/-- The layouts up to the one of the written form. -/
theorem layouts_eq :
    layouts =
      (yearFirst '-' ++ .mark 'T' :: (preciseClock ++ [.offset])) ::
      (yearFirst '-' ++ .mark 'T' :: (clock ++ [.mark ':', .second, .offset])) ::
      (yearFirst '-' ++ .blanks :: (preciseClock ++ [.offset])) ::
      (yearFirst '-' ++ .mark 'T' :: (preciseClock ++ [.mark 'Z'])) ::
      (yearFirst '-' ++ .mark 'T' :: preciseClock) ::
      (yearFirst '-' ++ .blanks :: (preciseClock ++ [])) :: layouts.drop 6 := rfl

/-- The written form of an instant is read as the instant, cut to milliseconds. -/
theorem ofText?_text (t : Instant) : ofText? t.text = some t.toMilliseconds := by
  have hempty : t.text.isEmpty = false := by
    rw [text_eq]
    exact List.isEmpty_eq_false_iff.2 (List.append_ne_nil_of_right_ne_nil _ (List.cons_ne_nil _ _))
  -- Up to the layout of the written form, those with a blank ask for an offset after the clock.
  have hshort (fields : InstantFields) : Layout.read? fields [] [.offset] = none := rfl
  have hend (fields : InstantFields) : Layout.read? fields [] [] = some fields := rfl
  rw [ofText?, trim_text, hempty, layouts_eq]
  simp only [List.findSome?_cons, read?_text_mark, read?_text, hshort, hend, Option.bind_none,
    Option.bind_some, instant?_shown, Bool.false_eq_true, if_false]

end Instant

end TableFilter
