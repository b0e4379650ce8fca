import TableFilter.Proofs.Literal.Operands

/-!
# Literals of values

The literal of a value is evaluated to the value. Each kind of value has a kind of token of its own,
by which it is told from the others: a number that has no point is an integer, one that has a point
is a decimal, and the integers of 64 bits are those that have no room in 32.

A text in quotes is the one exception. If it is the text of an identifier, the token is that of an
identifier, so that identifiers may be written in quotes.

## Main definitions

* `Value.IsExactlyWritten`: values that lose nothing in their literals
* `Value.SameAs`: equality of values, of decimals as numbers

## Main results

* `evalText_boolean`, `evalText_intText`, `evalText_decimal`, `evalText_guid`, `evalText_dateTime`,
  `evalText_string`: literals of one kind
* `literals_evaluate_back`: the literals of all values that are exactly written
* `texts_evaluate_back`: the literals of texts
-/

namespace TableFilter

open Number

/-! ### Decimals -/

namespace Decimal

theorem number_plainZero (d : Decimal) : d.plainZero.number = d.number := by
  have hsigned : d.plainZero.signedCoefficient = d.signedCoefficient := by
    unfold signedCoefficient plainZero isZero
    by_cases hzero : d.coefficient = 0 <;> simp [hzero]
  rw [number, number, hsigned]
  rfl

/-- A place more, which is zero, leaves the number as it is. -/
theorem number_ofParts?_tenfold {d e : Decimal} (hscale : d.scale = 0)
    (h : ofParts? d.negative (d.coefficient * 10) 1 = some e) : e.number = d.number := by
  unfold ofParts? ofSignedParts? at h
  split at h
  · obtain rfl := Option.some.inj h
    unfold number signedCoefficient
    rw [hscale]
    cases d.negative <;> by_cases hzero : d.coefficient = 0 <;> simp [hzero, neg_div]
  · cases h

/-- What a decimal reads back as is the same number. -/
theorem number_reread (d : Decimal) : d.reread.number = d.number := by
  unfold reread
  split
  · next hscale =>
    cases h : ofParts? d.negative (d.coefficient * 10) 1 with
    | none => exact d.number_plainZero
    | some e => exact number_ofParts?_tenfold hscale h
  · exact d.number_plainZero

end Decimal

/-! ### Kinds of literals -/

section Kinds

variable (clock : Clock)

/-- A text that is spelt as one literal token has the value of the token. -/
theorem evalText_spelt {cs : List Char} {t : Token} {value : Result Value} (h : Spells cs t [])
    (hvalue : Grammar.literalValue? t = some value) :
    evalText clock (String.ofList cs) = value := by
  have hlexes := h.cons (.done rfl)
  rw [List.append_nil] at hlexes
  exact evalText_literal clock (String.toList_ofList.symm ▸ hlexes) hvalue

theorem evalText_boolean (b : Bool) :
    evalText clock (Value.boolean b).literal = .ok (.boolean b) :=
  evalText_literal_eq clock _

/-- The literal of an integer has the integer in the smaller type that holds it. -/
theorem evalText_intText {i : Int} (h : fitsInt64 i = true) :
    evalText clock (String.ofList (intText i)) = .ok (Value.ofInt i) := by
  obtain ⟨least, greatest⟩ := fitsInt64_iff.1 h
  have heval := evalText_literal_eq clock (.int64 (Int64.ofInt i))
  rwa [Value.literal, Value.reread, Int64.toInt_ofInt_of_le least greatest] at heval

/-- The literal of a decimal has the decimal that it reads back as. -/
theorem evalText_decimal (d : Decimal) :
    evalText clock (Value.decimal d).literal = .ok (.decimal d.reread) :=
  evalText_literal_eq clock _

theorem evalText_guid (g : Guid) : evalText clock (Value.guid g).literal = .ok (.guid g) :=
  evalText_literal_eq clock _

/-- The literal of an instant has the instant, cut to milliseconds. -/
theorem evalText_dateTime (t : Instant) :
    evalText clock (Value.dateTime t).literal = .ok (.dateTime t.toMilliseconds) :=
  evalText_literal_eq clock _

/-- The literal of a text has the token that the text has in quotes. -/
theorem evalText_string (s : String) {value : Result Value}
    (h : Grammar.literalValue? (stringToken s.toList) = some value) :
    evalText clock (Value.string s).literal = value :=
  evalText_spelt clock (spells_string s.toList nofun) h

end Kinds

/-! ### Values -/

theorem Value.ofInt_toInt32 (i : Int32) : Value.ofInt i.toInt = .int32 i := by
  have hfits : fitsInt32 i.toInt = true := fitsInt32_iff.2 ⟨i.le_toInt, i.toInt_lt⟩
  rw [Value.ofInt, if_pos hfits, Int32.ofInt_toInt]

theorem Value.ofInt_toInt64 {i : Int64} (wide : i.toInt < -2 ^ 31 ∨ 2 ^ 31 ≤ i.toInt) :
    Value.ofInt i.toInt = .int64 i := by
  have hfits : ¬ fitsInt32 i.toInt = true := by
    rw [fitsInt32_iff]
    omega
  rw [Value.ofInt, if_neg hfits, Int64.ofInt_toInt]

theorem Instant.toMilliseconds_eq_self {t : Instant} (h : t.nanos % 1000000 = 0) :
    t.toMilliseconds = t := by
  have hnanos : t.nanos / 1000000 * 1000000 = t.nanos :=
    Nat.div_mul_cancel (Nat.dvd_of_mod_eq_zero h)
  obtain ⟨seconds, nanos, _, _, _, _⟩ := t
  simpa [toMilliseconds] using hnanos

/-- Values that lose nothing in their literals. An integer of 64 bits that 32 bits hold is written
like that of 32 bits, and instants are written to the millisecond. -/
inductive Value.IsExactlyWritten : Value → Prop
  | boolean (b : Bool) : IsExactlyWritten (.boolean b)
  | int32 (i : Int32) : IsExactlyWritten (.int32 i)
  | int64 {i : Int64} (wide : i.toInt < -2 ^ 31 ∨ 2 ^ 31 ≤ i.toInt) : IsExactlyWritten (.int64 i)
  | decimal (d : Decimal) : IsExactlyWritten (.decimal d)
  | guid (g : Guid) : IsExactlyWritten (.guid g)
  | dateTime {t : Instant} (usual : t.isLeap = false) (whole : t.nanos % 1000000 = 0) :
      IsExactlyWritten (.dateTime t)

/-- Equality of values, of decimals as numbers. -/
inductive Value.SameAs : Value → Value → Prop
  | refl (v : Value) : SameAs v v
  | decimal {d e : Decimal} (h : d.number = e.number) : SameAs (.decimal d) (.decimal e)

/-- The literal of a value is evaluated to this value. -/
theorem literals_evaluate_back (clock : Clock) {v : Value} (h : v.IsExactlyWritten) :
    ∃ w, evalText clock v.literal = .ok w ∧ w.dataType = v.dataType ∧ w.SameAs v := by
  cases h with
  | boolean b => exact ⟨_, evalText_boolean clock b, rfl, .refl _⟩
  | int32 i =>
    have heval := evalText_intText clock (fitsInt64_toInt32 i)
    rw [Value.ofInt_toInt32] at heval
    exact ⟨_, heval, rfl, .refl _⟩
  | @int64 i wide =>
    have heval := evalText_intText clock (fitsInt64_toInt64 i)
    rw [Value.ofInt_toInt64 wide] at heval
    exact ⟨_, heval, rfl, .refl _⟩
  | decimal d => exact ⟨_, evalText_decimal clock d, rfl, .decimal d.number_reread⟩
  | guid g => exact ⟨_, evalText_guid clock g, rfl, .refl _⟩
  | @dateTime t usual whole =>
    have heval := evalText_dateTime clock t
    rw [Instant.toMilliseconds_eq_self whole] at heval
    exact ⟨_, heval, rfl, .refl _⟩

/-- The last millisecond there is, in a year of six digits. -/
theorem last_instant_evaluates_back :
    ∃ t, Instant.of? lastSecond 999000000 = some t ∧ (Value.dateTime t).IsExactlyWritten ∧
      ∀ clock, ∃ w, evalText clock (Value.dateTime t).literal = .ok w ∧ w.dataType = .dateTime ∧
        w.SameAs (.dateTime t) := by
  have written : (Value.dateTime ⟨lastSecond, 999000000, by decide, by decide, by decide,
      by decide⟩).IsExactlyWritten := .dateTime (by decide) (by decide)
  exact ⟨_, by decide, written, fun clock => literals_evaluate_back clock written⟩

/-! ### Texts -/

/-- The literal of a text is evaluated to the text, unless it is that of an identifier. -/
theorem texts_evaluate_back (clock : Clock) (s : String) :
    evalText clock (Value.string s).literal =
      .ok ((Guid.ofText? s.toList).elim (.string s) .guid) := by
  refine evalText_string clock s ?_
  unfold stringToken
  cases h : Guid.ofText? s.toList with
  | none =>
    rw [String.ofList_toList]
    rfl
  | some g =>
    refine congrArg some ?_
    rw [String.ofList_toList, guidLiteral, h]
    rfl

/-- The text of an identifier is not evaluated to a text. -/
theorem not_texts_evaluate_back :
    ¬ ∀ (clock : Clock) (s : String),
      evalText clock (Value.string s).literal = .ok (.string s) := by
  intro h
  have hvalue : Grammar.literalValue? (stringToken "0f9c3a4b-1111-2222-3333-444455556666".toList) =
      some (.ok (.guid ⟨0x0f9c3a4b111122223333444455556666⟩)) := by
    rfl
  have heval := evalText_string ⟨default, default⟩ _ hvalue
  rw [h] at heval
  cases heval

end TableFilter
