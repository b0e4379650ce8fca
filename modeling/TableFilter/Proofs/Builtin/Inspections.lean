import TableFilter.Builtin.Call
import TableFilter.Proofs.Value.ExactNumbers
import TableFilter.Proofs.Value.Narrowing
import TableFilter.Proofs.Value.ReadBack

/-!
# Inspecting before converting

A filter can ask what a value can be read as before it converts it. The functions that inspect read
texts by themselves, and so do conversions, which leave out blanks before and then use readers that
leave them out again. Both come to the same: a value that passes an inspection can be converted.

For identifiers and instants the inspection is exact. For numbers it is not, as truth values can be
converted to numbers as well, and decimals to integers.

## Main definitions

* `Affirms`: a function says yes to a value
* `Value.ConvertsTo`: a value can be converted to a type

## Main results

* `isGuidLike_iff`, `isDateLike_iff`: inspections that are exact
* `convertsTo_of_isIntegerLike`, `convertsTo_of_isNumberLike`: inspections of numbers
* `inspections_guard_conversions`: what all of them say about conversions
-/

namespace TableFilter

open Result TableFilter.Number TableFilter.Text

/-- A value can be converted to a type. -/
def Value.ConvertsTo (v : Value) (type : DataType) : Prop := ∃ w, v.convert type = .ok w

/-! ### Texts -/

/-- Leaving out blanks first does not change the identifier that a text stands for. -/
theorem guidOfText?_trim (cs : List Char) : Guid.ofText? (trim cs) = Guid.ofText? cs := by
  rw [Guid.ofText?, trim_trim, ← Guid.ofText?]

/-- Leaving out blanks first does not change the instant that a text stands for. -/
theorem instantOfText?_trim (cs : List Char) : Instant.ofText? (trim cs) = Instant.ofText? cs := by
  rw [Instant.ofText?, trim_trim, ← Instant.ofText?]

/-- An integer that a text stands for has 64 bits. -/
theorem fitsInt64_of_intOfText? {cs : List Char} {i : ℤ} (h : intOfText? cs = some i) :
    fitsInt64 i = true := by
  unfold intOfText? at h
  dsimp only at h
  split at h
  · cases h
  · obtain ⟨hfits, heq⟩ := Option.ite_none_right_eq_some.1 h
    exact Option.some.inj heq ▸ hfits

section Texts

variable {s : String} {type : DataType}

theorem exists_orUnreadable_iff (read : Option Value) :
    (∃ w, Value.orUnreadable s type read = .ok w) ↔ read.isSome = true := by
  cases read with
  | none => exact iff_of_false (fun h => nomatch h.choose_spec) nofun
  | some v => exact iff_of_true ⟨v, rfl⟩ rfl

/-- A text can be converted to a type that has a reader exactly if the reader takes the text without
blanks. -/
theorem convertsTo_iff_of_parse {α : Type} {read : Option α} {value : α → Value}
    (htype : type ≠ .string)
    (hparse : Value.parse s type = Value.orUnreadable s type (read.map value)) :
    (Value.string s).ConvertsTo type ↔ read.isSome = true := by
  rw [Value.ConvertsTo, Value.convert_eq_parse s htype, hparse, exists_orUnreadable_iff,
    Option.isSome_map]

theorem convertsTo_guid_iff :
    (Value.string s).ConvertsTo .guid ↔ (Guid.ofText? s.toList).isSome = true := by
  rw [← guidOfText?_trim]
  exact convertsTo_iff_of_parse nofun rfl

theorem convertsTo_dateTime_iff :
    (Value.string s).ConvertsTo .dateTime ↔ (Instant.ofText? s.toList).isSome = true := by
  rw [← instantOfText?_trim]
  exact convertsTo_iff_of_parse nofun rfl

theorem convertsTo_decimal_iff :
    (Value.string s).ConvertsTo .decimal ↔ (Decimal.ofText? (trim s.toList)).isSome = true :=
  convertsTo_iff_of_parse nofun rfl

theorem convertsTo_double_iff :
    (Value.string s).ConvertsTo .double ↔ (doubleOfText? (trim s.toList)).isSome = true :=
  convertsTo_iff_of_parse nofun rfl

/-- Decimals can be converted to integers as well, so this is no equivalence. -/
theorem convertsTo_int64_of_intOfText? {i : ℤ} (h : intOfText? (trim s.toList) = some i) :
    (Value.string s).ConvertsTo .int64 := by
  obtain ⟨w, hw, -⟩ :=
    Value.exists_convertInt (fitsInt64_of_intOfText? h) (.inr (.inl (Eq.refl DataType.int64)))
  refine ⟨w, ?_⟩
  rw [Value.convert_eq_parseInteger .int64, Value.parseInteger, h]
  exact hw

end Texts

namespace Builtin

/-! ### Inspections -/

/-- A function of one argument says yes to a value. -/
def Affirms (clock : Clock) (f : Builtin) (v : Value) : Prop :=
  call clock f [v] = .ok (.boolean true)

variable {v : Value}

/-- The values that pass are those, nulls apart, that can be converted to an identifier. -/
theorem isGuidLike_iff : isGuidLike v = true ↔ v.isNull = false ∧ v.ConvertsTo .guid := by
  cases v with
  | guid g => exact iff_of_true rfl ⟨rfl, _, rfl⟩
  | string s =>
    rw [convertsTo_guid_iff]
    exact (and_iff_right rfl).symm
  | null => exact iff_of_false nofun fun h => nomatch h.1
  | _ => exact iff_of_false nofun fun h => nomatch h.2.choose_spec

/-- The values that pass are those, nulls apart, that can be converted to an instant. -/
theorem isDateLike_iff : isDateLike v = true ↔ v.isNull = false ∧ v.ConvertsTo .dateTime := by
  cases v with
  | dateTime t => exact iff_of_true rfl ⟨rfl, _, rfl⟩
  | string s =>
    rw [convertsTo_dateTime_iff]
    exact (and_iff_right rfl).symm
  | null => exact iff_of_false nofun fun h => nomatch h.1
  | _ => exact iff_of_false nofun fun h => nomatch h.2.choose_spec

theorem convertsTo_of_isIntegerLike (h : isIntegerLike v = true) : v.ConvertsTo .int64 := by
  cases v with
  | int32 i =>
    have wider : (Value.int32 i).dataType.wider? .int64 = some .int64 := rfl
    obtain ⟨w, hw, -⟩ := (Value.IsExact.int32 i).exists_convert wider nofun
    exact ⟨w, hw⟩
  | int64 i => exact ⟨_, rfl⟩
  | string s =>
    obtain ⟨i, hi⟩ := Option.isSome_iff_exists.1 h
    exact convertsTo_int64_of_intOfText? hi
  | _ => cases h

/-- Numbers can be converted to doubles. A text may be a decimal and no double, as with an
underscore between digits. -/
theorem convertsTo_of_isNumberLike (h : isNumberLike v = true) :
    v.ConvertsTo .decimal ∨ v.ConvertsTo .double := by
  cases v with
  | int32 | int64 | decimal | double => exact .inr ⟨_, rfl⟩
  | string s =>
    rw [convertsTo_decimal_iff, convertsTo_double_iff]
    obtain hdecimal | hdouble := Bool.or_eq_true_iff.1 h
    · exact .inl hdecimal
    · obtain ⟨x, hx, -⟩ := (Option.any_eq_true _ _).1 hdouble
      exact .inr (Option.isSome_of_eq_some hx)
  | _ => cases h

/-- A function that inspects says yes exactly to the values that pass its test. -/
theorem affirms_iff {clock : Clock} {f : Builtin} {test : Value → Bool}
    (hcall : call clock f [v] = callInspection test [v]) : Affirms clock f v ↔ test v = true := by
  rw [Affirms, hcall, callInspection, Except.ok.injEq, Value.boolean.injEq]
  rfl

/-- **Inspections guard conversions.** The functions that ask for identifiers and instants say yes
to the values that can be converted to one, nulls apart, and so to just these texts. A value that is
said to be an integer can be converted to one of 64 bits, and a value that is said to be a number
can be converted to a decimal or to a double. -/
theorem inspections_guard_conversions (clock : Clock) (v : Value) :
    (Affirms clock .isGuid v ↔ v.isNull = false ∧ v.ConvertsTo .guid) ∧
      (Affirms clock .isDate v ↔ v.isNull = false ∧ v.ConvertsTo .dateTime) ∧
      (Affirms clock .isInteger v → v.ConvertsTo .int64) ∧
      (Affirms clock .isNumeric v → v.ConvertsTo .decimal ∨ v.ConvertsTo .double) ∧
      ∀ s, v = .string s →
        (Affirms clock .isGuid v ↔ v.ConvertsTo .guid) ∧
        (Affirms clock .isDate v ↔ v.ConvertsTo .dateTime) := by
  have hguid : Affirms clock .isGuid v ↔ _ := (affirms_iff rfl).trans isGuidLike_iff
  have hdate : Affirms clock .isDate v ↔ _ := (affirms_iff rfl).trans isDateLike_iff
  refine ⟨hguid, hdate, fun h => convertsTo_of_isIntegerLike ((affirms_iff rfl).1 h),
    fun h => convertsTo_of_isNumberLike ((affirms_iff rfl).1 h), ?_⟩
  rintro s rfl
  exact ⟨hguid.trans (and_iff_right rfl), hdate.trans (and_iff_right rfl)⟩

end Builtin

end TableFilter
