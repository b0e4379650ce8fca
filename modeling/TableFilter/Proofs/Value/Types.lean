import TableFilter.Conversion
import TableFilter.Proofs.Result

/-!
# What conversions give

A null is converted to a null of the type that is asked for. Any other value is converted to a value
of that type, unless it has no counterpart there, or unless values of the one type are never
converted to the other.

## Main definitions

* `Value.IsOf`: a value of a type that is no null
* `DataType.ConvertsTo`: values of a type can be converted to a type, as far as their types go
* `Value.Converted`: what a conversion gives

## Main results

* `Value.convert_converted`: all conversions
* `Value.dataType_of_convert`, `Value.isNull_of_convert`: the type of a converted value, and whether
  it is a null
-/

namespace TableFilter

open Result

/-! ### Types that can be converted -/

/-- Values of a type can be converted to a type, as far as their types go. -/
inductive DataType.ConvertsTo : DataType → DataType → Prop
  | refl (type : DataType) : ConvertsTo type type
  | toText (source : DataType) : ConvertsTo source .string
  | ofText {target : DataType} : target ≠ .undefined → ConvertsTo .string target
  | numeric {source target : DataType} :
      source.isNumeric = true → target.isNumeric = true → ConvertsTo source target

namespace DataType.ConvertsTo

variable {source target : DataType}

theorem target_ne (h : source.ConvertsTo target) (hne : source ≠ target) :
    target ≠ .undefined := by
  cases h with
  | refl => exact absurd rfl hne
  | toText => exact nofun
  | ofText defined => exact defined
  | numeric _ htarget =>
    rintro rfl
    exact nomatch htarget

/-- Between other types than text, only numbers are converted. -/
theorem isNumeric (h : source.ConvertsTo target) (hne : source ≠ target)
    (hsource : source ≠ .string) (htarget : target ≠ .string) :
    source.isNumeric = true ∧ target.isNumeric = true := by
  cases h with
  | refl => exact absurd rfl hne
  | toText => exact absurd rfl htarget
  | ofText => exact absurd rfl hsource
  | numeric hsource htarget => exact ⟨hsource, htarget⟩

end DataType.ConvertsTo

namespace Value

/-! ### Values of a type -/

/-- A value of a type that is no null. -/
inductive IsOf : DataType → Value → Prop
  | boolean (b : Bool) : IsOf .boolean (.boolean b)
  | int32 (i : Int32) : IsOf .int32 (.int32 i)
  | int64 (i : Int64) : IsOf .int64 (.int64 i)
  | decimal (d : Decimal) : IsOf .decimal (.decimal d)
  | double (x : Float) : IsOf .double (.double x)
  | string (s : String) : IsOf .string (.string s)
  | guid (g : Guid) : IsOf .guid (.guid g)
  | dateTime (t : Instant) : IsOf .dateTime (.dateTime t)

variable {v w source : Value} {type : DataType}

theorem IsOf.dataType (h : v.IsOf type) : v.dataType = type := by
  cases h <;> rfl

theorem IsOf.isNull (h : v.IsOf type) : v.isNull = false := by
  cases h <;> rfl

theorem IsOf.type_ne (h : v.IsOf type) : type ≠ .undefined := by
  cases h <;> exact nofun

theorem isOf_of_present (h : v.isNull = false) : v.IsOf v.dataType := by
  cases v with
  | null => exact nomatch h
  | _ => constructor

/-- A value of no type is a null. -/
theorem isNull_of_undefined (h : v.dataType = .undefined) : v.isNull = true := by
  cases hv : v.isNull with
  | true => rfl
  | false => exact absurd h (isOf_of_present hv).type_ne

/-! ### Conversions of one kind -/

/-- What a conversion of a value that is no null gives: a value of the type that is asked for, an
error because the value has no counterpart, or a type error. -/
inductive Converted (source : Value) (type : DataType) : Result Value → Prop
  | value {w : Value} : w.IsOf type → Converted source type (.ok w)
  | unmatched (cause : ConversionFault) : Converted source type (.error (.conversion cause))
  | refused : ¬source.dataType.ConvertsTo type → Converted source type (source.inconvertible type)

theorem orUnreadable_converted {α : Type} {text : String} {make : α → Value} (read : Option α)
    (hmake : ∀ a, (make a).IsOf type) :
    (Value.string text).Converted type (orUnreadable text type (read.map make)) := by
  cases read with
  | none => exact .unmatched _
  | some a => exact .value (hmake a)

theorem narrow_int32_converted (i : Int) : source.Converted .int32 (narrow source i .int32) := by
  dsimp only [narrow]
  split
  · exact .value (.int32 _)
  · exact .unmatched _

theorem narrow_int64_converted (i : Int) : source.Converted .int64 (narrow source i .int64) := by
  dsimp only [narrow]
  split
  · exact .value (.int64 _)
  · exact .unmatched _

theorem convertInt_converted (i : Int)
    (htype : source.dataType.ConvertsTo type → type.isNumeric = true) :
    source.Converted type (convertInt source i type) := by
  cases type with
  | boolean => exact .value (.boolean _)
  | int32 => exact narrow_int32_converted i
  | int64 => exact narrow_int64_converted i
  | decimal =>
    dsimp only [convertInt]
    split
    · exact .value (.decimal _)
    · exact .unmatched _
  | double => exact .value (.double _)
  | string | guid | dateTime | undefined => exact .refused fun h => nomatch htype h

theorem convertDecimal_converted (d : Decimal)
    (htype : source.dataType.ConvertsTo type → type.isNumeric = true) :
    source.Converted type (convertDecimal source d type) := by
  cases type with
  | boolean => exact .value (.boolean _)
  | int32 => exact narrow_int32_converted _
  | int64 => exact narrow_int64_converted _
  | decimal => exact .value (.decimal _)
  | double => exact .value (.double _)
  | string | guid | dateTime | undefined => exact .refused fun h => nomatch htype h

theorem convertDouble_converted (x : Float)
    (htype : source.dataType.ConvertsTo type → type.isNumeric = true) :
    source.Converted type (convertDouble source x type) := by
  cases type with
  | boolean => exact .value (.boolean _)
  | int32 =>
    dsimp only [convertDouble]
    split
    · exact narrow_int32_converted _
    · exact .unmatched _
  | int64 =>
    dsimp only [convertDouble]
    split
    · exact narrow_int64_converted _
    · exact .unmatched _
  | decimal =>
    dsimp only [convertDouble]
    split
    · exact .value (.decimal _)
    · exact .unmatched _
  | double => exact .value (.double _)
  | string | guid | dateTime | undefined => exact .refused fun h => nomatch htype h

theorem parseInteger_converted (text : String) (cs : List Char) (htype : type.isNumeric = true) :
    (Value.string text).Converted type (parseInteger text cs type) := by
  unfold parseInteger
  split
  · exact convertInt_converted _ fun _ => htype
  · split
    · exact convertDecimal_converted _ fun _ => htype
    · exact .unmatched _

theorem parse_converted (text : String) (htype : type ≠ .undefined) :
    (Value.string text).Converted type (parse text type) := by
  cases type with
  | boolean => exact orUnreadable_converted _ .boolean
  | int32 | int64 => exact parseInteger_converted text _ rfl
  | decimal => exact orUnreadable_converted _ .decimal
  | double => exact orUnreadable_converted _ .double
  | string => exact .value (.string _)
  | guid => exact orUnreadable_converted _ .guid
  | dateTime => exact orUnreadable_converted _ .dateTime
  | undefined => exact absurd rfl htype

/-! ### All conversions -/

theorem convertPresent_converted (hv : v.isNull = false) (hne : v.dataType ≠ type) :
    v.Converted type (v.convertPresent type) := by
  unfold convertPresent
  split
  case h_1 => exact .refused fun h => h.target_ne hne rfl
  case h_2 => exact .value (.string _)
  case h_3 undefined _ => exact parse_converted _ undefined
  case h_4 _ text => exact convertInt_converted _ fun h => (h.isNumeric hne nofun text).2
  case h_5 _ text => exact convertInt_converted _ fun h => (h.isNumeric hne nofun text).2
  case h_6 _ text => exact convertInt_converted _ fun h => (h.isNumeric hne nofun text).2
  case h_7 _ text => exact convertDecimal_converted _ fun h => (h.isNumeric hne nofun text).2
  case h_8 _ text => exact convertDouble_converted _ fun h => (h.isNumeric hne nofun text).2
  case h_9 _ text => exact .refused fun h => nomatch (h.isNumeric hne nofun text).1
  case h_10 _ text => exact .refused fun h => nomatch (h.isNumeric hne nofun text).1
  case h_11 => exact nomatch hv

theorem convert_of_isNull (hv : v.isNull = true) (type : DataType) :
    v.convert type = .ok (.null type) :=
  if_pos hv

/-- A text is converted to another type by reading it. -/
theorem convert_eq_parse (text : String) (htype : type ≠ .string) :
    (Value.string text).convert type = parse text type := by
  cases type with
  | string => exact absurd rfl htype
  | _ => rfl

/-- What a value that is no null is converted to. -/
theorem convert_converted (hv : v.isNull = false) (type : DataType) :
    v.Converted type (v.convert type) := by
  rw [convert, hv, if_neg Bool.false_ne_true]
  split
  case isTrue htype => exact .value (eq_of_beq htype ▸ isOf_of_present hv)
  case isFalse other => exact convertPresent_converted hv fun htype => other (beq_of_eq htype)

/-- A value that is no null is converted to one of the type that was asked for. -/
theorem isOf_of_convert (hv : v.isNull = false) (h : v.convert type = .ok w) : w.IsOf type := by
  cases h ▸ convert_converted hv type with
  | value hw => exact hw

/-- A converted value is of the type that was asked for. -/
theorem dataType_of_convert (h : v.convert type = .ok w) : w.dataType = type := by
  cases hv : v.isNull with
  | true =>
    rw [convert_of_isNull hv] at h
    exact Except.ok.inj h ▸ rfl
  | false => exact (isOf_of_convert hv h).dataType

/-- A converted value is a null if the value is one. -/
theorem isNull_of_convert (h : v.convert type = .ok w) : w.isNull = v.isNull := by
  cases hv : v.isNull with
  | true =>
    rw [convert_of_isNull hv] at h
    exact Except.ok.inj h ▸ rfl
  | false => exact (isOf_of_convert hv h).isNull

end Value

end TableFilter
