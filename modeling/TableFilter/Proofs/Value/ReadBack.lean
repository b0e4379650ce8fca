import TableFilter.Proofs.Decimal.Places
import TableFilter.Proofs.Literal.ReadBack

/-!
# Values read back from their texts

A value that is converted to text and back is the same value, if nothing of it is left out of the
text. Truth values, integers and identifiers are always shown in full. A decimal is shown with six
places and an instant to the millisecond. Blanks at the ends of the text do not matter.

The text of a value does not tell its type. It is the type asked for that decides how the text is
read, and each reader takes the form that the values of its type are written in: of the layouts of
an instant the first one that accepts the written form is its own, and an integer is not read by way
of a decimal.

## Main definitions

* `Value.IsShownExactly`: values that lose nothing in their texts

## Main results

* `trim_append_blanks`, `exists_trim_append`, `trim_trim`: blanks at the ends of a text
* `Value.parse_boolean`, `Value.parse_int32`, `Value.parse_int64`, `Value.parse_decimal`,
  `Value.parse_guid`, `Value.parse_dateTime`: texts of one kind
* `texts_convert_back`: the texts of all values that are exactly shown
-/

namespace TableFilter

open Number Text

/-! ### Blanks at the ends of a text -/

section Blanks

variable {before after : List Char}

theorem trimLeft_blanks (h : ∀ c ∈ before, isBlank c = true) (cs : List Char) :
    trimLeft (before ++ cs) = trimLeft cs :=
  List.dropWhile_append_of_pos h

theorem trimRight_blanks (h : ∀ c ∈ after, isBlank c = true) (cs : List Char) :
    trimRight (cs ++ after) = trimRight cs := by
  rw [trimRight, List.reverse_append, trimRight]
  congr 1
  exact List.dropWhile_append_of_pos fun c hc => h c (List.mem_reverse.1 hc)

/-- Blanks at either end of a text are left out with the blanks that the text has there. -/
theorem trim_append_blanks (hbefore : ∀ c ∈ before, isBlank c = true)
    (hafter : ∀ c ∈ after, isBlank c = true) (cs : List Char) :
    trim (before ++ cs ++ after) = trim cs := by
  rw [trim, List.append_assoc, trimLeft_blanks hbefore, trimLeft, List.dropWhile_append]
  split
  · next hempty =>
    -- A text of blanks only has nothing that could keep the blanks after it.
    have hblank : (cs ++ after).dropWhile isBlank = [] := by
      rw [List.dropWhile_append, if_pos hempty]
      exact List.dropWhile_eq_nil_iff.2 hafter
    have hnothing : after.dropWhile isBlank = [] := List.dropWhile_eq_nil_iff.2 hafter
    rw [hnothing, trim, trimLeft, List.isEmpty_iff.1 hempty]
  · exact trimRight_blanks hafter _

/-- A text is what is left of it without blanks at its ends, and blanks before and after this. -/
theorem exists_trim_append (cs : List Char) :
    ∃ before after, (∀ c ∈ before, isBlank c = true) ∧ (∀ c ∈ after, isBlank c = true) ∧
      before ++ trim cs ++ after = cs := by
  have hblank {cs : List Char} : ∀ c ∈ cs.takeWhile isBlank, isBlank c = true :=
    fun c hc => List.all_eq_true.1 List.all_takeWhile c hc
  refine ⟨cs.takeWhile isBlank, ((trimLeft cs).reverse.takeWhile isBlank).reverse, hblank,
    fun c hc => hblank c (List.mem_reverse.1 hc), ?_⟩
  rw [trim, trimRight, List.append_assoc, ← List.reverse_append, List.takeWhile_append_dropWhile,
    List.reverse_reverse]
  exact List.takeWhile_append_dropWhile

/-- Blanks at the ends of a text are left out once. -/
theorem trim_trim (cs : List Char) : trim (trim cs) = trim cs := by
  obtain ⟨before, after, hbefore, hafter, hcs⟩ := exists_trim_append cs
  rw [← trim_append_blanks hbefore hafter (trim cs), hcs]

end Blanks

/-! ### Texts without blanks at their ends -/

theorem trim_intText (i : ℤ) : trim (intText i) = intText i := by
  refine trim_eq_self_of_forall fun c hc => ?_
  rw [intText_eq] at hc
  unfold signed at hc
  split at hc
  · rcases List.mem_cons.1 hc with rfl | hc
    · rfl
    · exact isDigit_isBlank ((isDigits_natText _).2 c hc)
  · exact isDigit_isBlank ((isDigits_natText _).2 c hc)

theorem Decimal.trim_textWithPlaces {places : ℕ} (hpos : places ≠ 0) (d : Decimal) :
    trim (d.textWithPlaces places) = d.textWithPlaces places := by
  refine trim_eq_self_of_forall fun c hc => ?_
  rcases mem_textWithPlaces hpos hc with h | rfl | rfl
  · exact isDigit_isBlank h
  · rfl
  · rfl

theorem Guid.trim_braced (g : Guid) : trim g.braced = g.braced := by
  refine trim_eq_self_of_forall fun c hc => ?_
  rw [braced, List.cons_append, List.mem_cons, List.mem_append, List.mem_singleton] at hc
  rcases hc with rfl | hc | rfl
  · rfl
  · rcases mem_text hc with h | rfl
    · exact isHexDigit_isBlank h
    · rfl
  · rfl

/-- The form in braces of an identifier reads back. -/
theorem Guid.ofText?_braced (g : Guid) : ofText? g.braced = some g := by
  have hquotes : unwrap '\'' '\'' g.braced = g.braced := by
    refine unwrap_eq_self ?_
    rw [braced, List.cons_append, List.mem_cons, List.mem_append, List.mem_singleton]
    rintro (h | h | h)
    · exact absurd h (by decide)
    · exact text_ne (by decide) (by decide) h
    · exact absurd h (by decide)
  have hbraces : unwrap '{' '}' g.braced = unwrap '{' '}' (unwrap '\'' '\'' (trim g.text)) := by
    rw [g.trim_text, unwrap_eq_self (text_ne (by decide) (by decide)),
      unwrap_eq_self (text_ne (by decide) (by decide)), braced, List.cons_append, unwrap,
      List.getLast?_concat, List.dropLast_concat]
    rfl
  rw [← ofText?_text, ofText?, trim_braced, hquotes, hbraces]
  rfl

namespace Value

/-! ### Texts of one kind -/

section Parse

variable {text : String}

theorem parse_boolean {b : Bool} (h : trim text.toList = booleanText b) :
    parse text .boolean = .ok (.boolean b) := by
  rw [parse, h]
  cases b <;> rfl

theorem parse_int32 {i : Int32} (h : trim text.toList = intText i.toInt) :
    parse text .int32 = .ok (.int32 i) := by
  have hfits : fitsInt32 i.toInt = true := fitsInt32_iff.2 ⟨i.le_toInt, i.toInt_lt⟩
  dsimp only [parse]
  rw [h, parseInteger, intOfText?_intText (fitsInt64_toInt32 i)]
  dsimp only [convertInt, narrow]
  rw [if_pos hfits, Int32.ofInt_toInt]

theorem parse_int64 {i : Int64} (h : trim text.toList = intText i.toInt) :
    parse text .int64 = .ok (.int64 i) := by
  have hfits := fitsInt64_toInt64 i
  dsimp only [parse]
  rw [h, parseInteger, intOfText?_intText hfits]
  dsimp only [convertInt, narrow]
  rw [if_pos hfits, Int64.ofInt_toInt]

theorem parse_decimal {d : Decimal} (h : trim text.toList = d.textWithPlaces shownPlaces)
    (hplaces : ∃ i : ℤ, d.number * 10 ^ shownPlaces = i) :
    ∃ e, parse text .decimal = .ok (.decimal e) ∧ e.number = d.number := by
  obtain ⟨e, hread, hnumber⟩ :=
    Decimal.exists_ofText?_textWithPlaces (by decide) (by decide) hplaces
  refine ⟨e, ?_, hnumber⟩
  dsimp only [parse]
  rw [h, hread]
  rfl

theorem parse_guid {g : Guid} (h : trim text.toList = g.braced) :
    parse text .guid = .ok (.guid g) := by
  dsimp only [parse]
  rw [h, g.ofText?_braced]
  rfl

theorem parse_dateTime {t : Instant} (h : trim text.toList = t.text) :
    parse text .dateTime = .ok (.dateTime t.toMilliseconds) := by
  dsimp only [parse]
  rw [h, t.ofText?_text]
  rfl

end Parse

/-! ### All values -/

/-- Values that lose nothing in their texts. A decimal is shown with six places, and with at most 25
digits before them. Instants are shown to the millisecond. -/
inductive IsShownExactly : Value → Prop
  | boolean (b : Bool) : IsShownExactly (.boolean b)
  | int32 (i : Int32) : IsShownExactly (.int32 i)
  | int64 (i : Int64) : IsShownExactly (.int64 i)
  | decimal {d : Decimal} (places : ∃ i : ℤ, d.number * 10 ^ 6 = i) (short : |d.number| < 10 ^ 25) :
      IsShownExactly (.decimal d)
  | guid (g : Guid) : IsShownExactly (.guid g)
  | dateTime {t : Instant} (usual : t.isLeap = false) (whole : t.nanos % 1000000 = 0) :
      IsShownExactly (.dateTime t)

variable {v : Value}

theorem convert_text (h : v.isNull = false) : v.convert .string = .ok (.string v.text) := by
  cases v with
  | null => exact nomatch h
  | _ => rfl

/-- A text that is that of a value, apart from blanks at its ends, is read as the value. -/
theorem exists_convert_of_text (h : v.IsShownExactly) {text : String}
    (htext : trim text.toList = trim v.text.toList) :
    ∃ w, (Value.string text).convert v.dataType = .ok w ∧ w.SameAs v := by
  have hne : v.dataType ≠ .string := by cases h <;> exact nofun
  rw [convert_eq_parse text hne]
  cases h <;> dsimp only [dataType]
  case boolean b =>
    refine ⟨_, parse_boolean (htext.trans ?_), .refl _⟩
    cases b <;> rfl
  case int32 i =>
    refine ⟨_, parse_int32 (htext.trans ?_), .refl _⟩
    rw [Value.text, String.toList_ofList, trim_intText]
  case int64 i =>
    refine ⟨_, parse_int64 (htext.trans ?_), .refl _⟩
    rw [Value.text, String.toList_ofList, trim_intText]
  case decimal d places short =>
    rw [Value.text, String.toList_ofList, d.trim_textWithPlaces (by decide)] at htext
    obtain ⟨e, hread, hnumber⟩ := parse_decimal htext places
    exact ⟨_, hread, .decimal hnumber⟩
  case guid g =>
    refine ⟨_, parse_guid (htext.trans ?_), .refl _⟩
    rw [Value.text, String.toList_ofList, g.trim_braced]
  case dateTime t usual whole =>
    rw [Value.text, String.toList_ofList, t.trim_text] at htext
    have hread := parse_dateTime htext
    rw [Instant.toMilliseconds_eq_self whole] at hread
    exact ⟨_, hread, .refl _⟩

end Value

/-- **Conversion to text and back.** A value that loses nothing in its text is converted to this
text, and the text, with any blanks added at its ends, is converted to the same value again. -/
theorem texts_convert_back {v : Value} (h : v.IsShownExactly) :
    ∃ text : String, v.convert .string = .ok (.string text) ∧
      ∀ before after : List Char, (∀ c ∈ before, isBlank c = true) →
        (∀ c ∈ after, isBlank c = true) →
        ∃ w, (Value.string (String.ofList (before ++ text.toList ++ after))).convert v.dataType =
            .ok w ∧ w.SameAs v := by
  have present : v.isNull = false := by cases h <;> rfl
  refine ⟨v.text, Value.convert_text present, fun before after hbefore hafter => ?_⟩
  refine Value.exists_convert_of_text h ?_
  rw [String.toList_ofList, trim_append_blanks hbefore hafter]

/-- The largest coefficient there is, with four places. Shown with six it has two digits more than a
coefficient has room for. -/
def Decimal.fullWithPlaces : Decimal := ⟨true, coefficientBound - 1, 4, by decide, by decide⟩

/-- A decimal that is shown with more digits than it has room for, in blanks of two kinds. -/
theorem full_decimal_converts_back :
    (Value.decimal .fullWithPlaces).IsShownExactly ∧
      (Value.decimal .fullWithPlaces).convert .string =
        .ok (.string "-7922816251426433759354395.033500") ∧
      ∃ w, (Value.string " \t-7922816251426433759354395.033500\n").convert .decimal = .ok w ∧
        w.SameAs (.decimal .fullWithPlaces) := by
  have shown : (Value.decimal .fullWithPlaces).IsShownExactly := by
    refine .decimal ⟨-7922816251426433759354395033500, ?_⟩ ?_
    · norm_num [Decimal.fullWithPlaces, Decimal.number, Decimal.signedCoefficient,
        Decimal.coefficientBound]
    · norm_num [Decimal.fullWithPlaces, Decimal.number, Decimal.signedCoefficient,
        Decimal.coefficientBound]
  obtain ⟨text, htext, back⟩ := texts_convert_back shown
  have hfull : (Value.decimal .fullWithPlaces).convert .string =
      .ok (.string "-7922816251426433759354395.033500") := by rfl
  rw [hfull] at htext
  obtain rfl := Value.string.inj (Except.ok.inj htext)
  have before : ∀ c ∈ [' ', '\t'], isBlank c = true := List.all_eq_true.1 rfl
  have after : ∀ c ∈ ['\n'], isBlank c = true := List.all_eq_true.1 rfl
  exact ⟨shown, hfull, back _ _ before after⟩

end TableFilter
