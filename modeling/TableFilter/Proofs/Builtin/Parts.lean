import TableFilter.Proofs.Builtin.Containment
import TableFilter.Proofs.Text.Parts

/-!
# Cutting and replacing by calls

`Split` gives one part at a time, by its index, and a null where there is none. `Replace` gives the
whole text at once. The parts with the replacement between them are this text, whether case is
ignored or not, and also if there is nothing to look for, where both leave the text as it is. Where
the text to look for cannot be compiled, both fail.

Parts have indexes of 32 bits, which are enough for a text with fewer than `2 ^ 31` characters.

## Main definitions

* `CutsInto`: the parts that a text is cut into, as calls give them

## Main results

* `call_split_eq`, `call_replace_eq`, `call_strCount_eq_length`: the calls by the parts
* `replace_rejoins_parts`: a replacement is the parts joined anew
* `not_replace_rejoins_parts`: texts that are too large, and parts beyond 32 bits
-/

namespace TableFilter.Builtin

open Pattern (Engine)
open Result Text

/-- The parts that a text is cut into: a call gives each of them by its index, and a null for any
other index. Every part has an index of 32 bits. -/
structure CutsInto (engine : Engine) (clock : Clock) (s d : String) (flag : List Value)
    (parts : List String) : Prop where
  part : ∀ i : Int32, 0 ≤ i.toInt →
    callWith engine clock .split (.string s :: .string d :: .int32 i :: flag) =
      .ok ((parts[i.toInt.toNat]?).elim (.null .string) .string)
  negative : ∀ i : Int32, i.toInt < 0 →
    callWith engine clock .split (.string s :: .string d :: .int32 i :: flag) = .ok (.null .string)
  ne_nil : parts ≠ []
  length_le : parts.length ≤ 2 ^ 31

/-- The parts are the texts that the calls give. -/
theorem CutsInto.part_eq_some_iff {engine : Engine} {clock : Clock} {s d p : String}
    {flag : List Value} {parts : List String} {i : Int32}
    (h : CutsInto engine clock s d flag parts) (hi : 0 ≤ i.toInt) :
    parts[i.toInt.toNat]? = some p ↔
      callWith engine clock .split (.string s :: .string d :: .int32 i :: flag) =
        .ok (.string p) := by
  rw [h.part i hi]
  cases parts[i.toInt.toNat]? <;> simp

section Calls

variable {engine : Engine} {s d r : String} {flag : List Value} {ignoreCase : Bool}

/-- The parts of a text as the functions cut it. -/
def textParts (ignoreCase : Bool) (s d : String) : List String :=
  (partsOf ignoreCase s.toList d.toList).map String.ofList

theorem toList_isEmpty (d : String) : d.toList.isEmpty = d.isEmpty := by
  rw [Bool.eq_iff_iff, List.isEmpty_iff, String.toList_eq_nil_iff, String.isEmpty_iff]

theorem partAt_eq (ps : List (List Char)) (i : ℕ) :
    partAt ps i = ((ps.map String.ofList)[i]?).elim (.null .string) .string := by
  rw [partAt, List.getElem?_map]
  cases ps[i]? <;> rfl

/-- A call for a part compiles the text to look for unless there is nothing to look for. -/
theorem call_split_eq (clock : Clock) (s d : String) (i : Int32)
    (hflag : SaysIgnoreCase ignoreCase flag) :
    callWith engine clock .split (.string s :: .string d :: .int32 i :: flag) =
      if i.toInt < 0 then .ok (.null .string)
      else
        (if d = "" then .ok () else compile engine ignoreCase d) >>= fun _ =>
          .ok (((textParts ignoreCase s d)[i.toInt.toNat]?).elim (.null .string) .string) := by
  have hcall : callWith engine clock .split (.string s :: .string d :: .int32 i :: flag) =
      callSplit engine (.string s :: .string d :: .int32 i :: flag) := by
    cases hflag <;> rfl
  have hs : textArgument .split (.string s :: .string d :: .int32 i :: flag) 0 = .ok (some s) := rfl
  have hd : textArgument .split (.string s :: .string d :: .int32 i :: flag) 1 = .ok (some d) := rfl
  have hi : intArgument .split (.string s :: .string d :: .int32 i :: flag) 2 =
      .ok (some i.toInt) := rfl
  have hcase : ignoreCaseArgument .split (.string s :: .string d :: .int32 i :: flag) 3 =
      .ok ignoreCase := hflag.argument_eq [.string s, .string d, .int32 i]
  rw [hcall, callSplit, hs, ok_bind, hd, ok_bind, hi, ok_bind]
  dsimp only
  split
  · rfl
  · rw [textParts, ← partAt_eq]
    split
    case isTrue hempty =>
      rw [partsOf, toList_isEmpty, if_pos hempty, if_pos (String.isEmpty_iff.1 hempty), ok_bind]
    case isFalse hempty =>
      rw [hcase, ok_bind, if_neg fun h => hempty (String.isEmpty_iff.2 h)]

/-- A replacement puts the parts together, with the empty text looked for nowhere. -/
theorem intercalate_partsOf (ignoreCase : Bool) (s d r : List Char) :
    r.intercalate (partsOf ignoreCase s d) = replaceText ignoreCase s d r := by
  rw [partsOf, replaceText]
  split
  · exact List.intercalate_singleton
  · exact intercalate_split _

theorem intercalate_textParts (ignoreCase : Bool) (s d r : String) :
    r.intercalate (textParts ignoreCase s d) =
      String.ofList (replaceText ignoreCase s.toList d.toList r.toList) := by
  have hparts : (textParts ignoreCase s d).map String.toList =
      partsOf ignoreCase s.toList d.toList := by
    rw [textParts, List.map_map]
    exact (List.map_congr_left fun _ _ => String.toList_ofList).trans (List.map_id _)
  rw [← String.toList_inj, String.toList_intercalate, hparts, String.toList_ofList,
    intercalate_partsOf]

/-- A replacement compiles the text to look for unless there is nothing to look for. -/
theorem call_replace_eq (clock : Clock) (s d r : String)
    (hflag : SaysIgnoreCase ignoreCase flag) :
    callWith engine clock .replace (.string s :: .string d :: .string r :: flag) =
      (if d = "" then .ok () else compile engine ignoreCase d) >>= fun _ =>
        .ok (.string (r.intercalate (textParts ignoreCase s d))) := by
  have hcall : callWith engine clock .replace (.string s :: .string d :: .string r :: flag) =
      callReplace engine (.string s :: .string d :: .string r :: flag) := by
    cases hflag <;> rfl
  have hs : textArgument .replace (.string s :: .string d :: .string r :: flag) 0 =
      .ok (some s) := rfl
  have hd : textArgument .replace (.string s :: .string d :: .string r :: flag) 1 =
      .ok (some d) := rfl
  have hr : textArgument .replace (.string s :: .string d :: .string r :: flag) 2 =
      .ok (some r) := rfl
  have hcase : ignoreCaseArgument .replace (.string s :: .string d :: .string r :: flag) 3 =
      .ok ignoreCase := hflag.argument_eq [.string s, .string d, .string r]
  rw [hcall, callReplace, hs, ok_bind, hd, ok_bind, hr, ok_bind, intercalate_textParts]
  dsimp only
  split
  case isTrue hempty =>
    rw [replaceText, toList_isEmpty, if_pos hempty, String.ofList_toList,
      if_pos (String.isEmpty_iff.1 hempty), ok_bind]
  case isFalse hempty => rw [hcase, ok_bind, if_neg fun h => hempty (String.isEmpty_iff.2 h)]

theorem textParts_ne_nil (ignoreCase : Bool) (s d : String) : textParts ignoreCase s d ≠ [] := by
  rw [textParts, Ne, List.map_eq_nil_iff, partsOf]
  split
  · exact List.cons_ne_nil _ _
  · exact split_ne_nil _

theorem length_textParts_le (ignoreCase : Bool) (s d : String) :
    (textParts ignoreCase s d).length ≤ s.length + 1 := by
  rw [textParts, List.length_map, partsOf, ← String.length_toList]
  split
  · exact Nat.le_add_left 1 _
  · exact length_split_le _

/-- What is done before the parts of a text are looked for, if it can be done. -/
theorem prepare_eq (compiles : d ≠ "" → Compiles engine ignoreCase d) :
    (if d = "" then .ok () else compile engine ignoreCase d) = .ok () := by
  split
  · rfl
  · next hd => exact (compiles hd).compile_eq

theorem call_replace_eq_error (clock : Clock) (s r : String)
    (hflag : SaysIgnoreCase ignoreCase flag) (hd : d ≠ "")
    (refused : ¬Compiles engine ignoreCase d) :
    callWith engine clock .replace (.string s :: .string d :: .string r :: flag) =
      .error (.evaluation .patternTooLarge) := by
  rw [call_replace_eq clock s d r hflag, if_neg hd, compile_eq_error refused]
  rfl

theorem call_split_eq_error (clock : Clock) (s : String) {i : Int32}
    (hflag : SaysIgnoreCase ignoreCase flag) (hd : d ≠ "")
    (refused : ¬Compiles engine ignoreCase d) (hi : 0 ≤ i.toInt) :
    callWith engine clock .split (.string s :: .string d :: .int32 i :: flag) =
      .error (.evaluation .patternTooLarge) := by
  rw [call_split_eq clock s d i hflag, if_neg (not_lt.2 hi), if_neg hd, compile_eq_error refused]
  rfl

theorem textParts_cutsInto (clock : Clock) (d : String) (hflag : SaysIgnoreCase ignoreCase flag)
    (hs : s.length < 2 ^ 31) (compiles : d ≠ "" → Compiles engine ignoreCase d) :
    CutsInto engine clock s d flag (textParts ignoreCase s d) where
  part i hi := by
    rw [call_split_eq clock s d i hflag, if_neg (not_lt.2 hi), prepare_eq compiles, ok_bind]
  negative i hi := by rw [call_split_eq clock s d i hflag, if_pos hi]
  ne_nil := textParts_ne_nil ignoreCase s d
  length_le := (length_textParts_le ignoreCase s d).trans hs

/-! ### Parts where case counts -/

theorem textParts_false_eq (s : String) (hd : d ≠ "") :
    textParts false s d = (Text.split (· == ·) d.toList s.toList).map String.ofList := by
  rw [textParts, partsOf, if_neg (by simpa using hd)]
  rfl

theorem call_strCount_eq_length (clock : Clock) (s : String) (hd : d ≠ "")
    (hflag : SaysIgnoreCase false flag) :
    callWith engine clock .strCount (.string s :: .string d :: flag) =
      .ok (.int32 (Int32.ofNat ((textParts false s d).length - 1))) := by
  have hempty : d.toList ≠ [] := fun h => hd (String.toList_eq_nil_iff.1 h)
  rw [call_strCount_eq clock s hd hflag, textParts_false_eq s hd, List.length_map,
    length_split _ hempty, Nat.add_sub_cancel, caseForm_false, caseForm_false]

theorem not_isInfix_of_mem_textParts {p : String} (hd : d ≠ "") (hp : p ∈ textParts false s d) :
    ¬d.toList <:+: p.toList := by
  have hempty : d.toList ≠ [] := fun h => hd (String.toList_eq_nil_iff.1 h)
  rw [textParts_false_eq s hd] at hp
  obtain ⟨q, hq, rfl⟩ := List.mem_map.1 hp
  rw [String.toList_ofList]
  exact not_isInfix_of_mem_split hempty hq

theorem intercalate_textParts_self (s : String) (hd : d ≠ "") :
    d.intercalate (textParts false s d) = s := by
  have hempty : d.toList ≠ [] := fun h => hd (String.toList_eq_nil_iff.1 h)
  rw [intercalate_textParts, replaceText, if_neg (by simpa using hd)]
  change String.ofList (Text.replace (· == ·) d.toList d.toList s.toList) = s
  rw [replace_self hempty, String.ofList_toList]

end Calls

/-- **A replacement is the parts joined anew.** For all texts with fewer than `2 ^ 31` characters,
whether case is ignored or not, the parts that `Split` gives by their indexes, with the replacement
between them as it is, are what `Replace` gives. Where case counts and the text to look for is not
empty, the last index is the number of occurrences, no part has an occurrence in it, and a text with
the occurrences replaced by themselves is the text. If there is a text to look for, but it cannot be
compiled, both fail with the same error. -/
theorem replace_rejoins_parts (engine : Engine) (clock : Clock) (s d : String) {ignoreCase : Bool}
    {flag : List Value} (hflag : SaysIgnoreCase ignoreCase flag) (hs : s.length < 2 ^ 31) :
    ((d ≠ "" → Compiles engine ignoreCase d) →
      ∃ parts : List String, CutsInto engine clock s d flag parts ∧
        (∀ r : String,
          callWith engine clock .replace (.string s :: .string d :: .string r :: flag) =
            .ok (.string (r.intercalate parts))) ∧
        (ignoreCase = false → d ≠ "" →
          (∃ k : Int32, callWith engine clock .strCount (.string s :: .string d :: flag) =
            .ok (.int32 k) ∧ k.toInt + 1 = parts.length) ∧
          (∀ p ∈ parts, ¬d.toList <:+: p.toList) ∧
          callWith engine clock .replace (.string s :: .string d :: .string d :: flag) =
            .ok (.string s))) ∧
    (d ≠ "" → ¬Compiles engine ignoreCase d →
      (∀ r : String, callWith engine clock .replace (.string s :: .string d :: .string r :: flag) =
        .error (.evaluation .patternTooLarge)) ∧
      ∀ i : Int32, 0 ≤ i.toInt →
        callWith engine clock .split (.string s :: .string d :: .int32 i :: flag) =
          .error (.evaluation .patternTooLarge)) := by
  constructor
  · intro compiles
    have replaced (r : String) :
        callWith engine clock .replace (.string s :: .string d :: .string r :: flag) =
          .ok (.string (r.intercalate (textParts ignoreCase s d))) := by
      rw [call_replace_eq clock s d r hflag, prepare_eq compiles, ok_bind]
    have cuts := textParts_cutsInto clock d hflag hs compiles
    refine ⟨textParts ignoreCase s d, cuts, replaced, ?_⟩
    rintro rfl hd
    refine ⟨⟨_, call_strCount_eq_length clock s hd hflag, ?_⟩,
      fun p hp => not_isInfix_of_mem_textParts hd hp, ?_⟩
    · have hpos := List.length_pos_iff.2 cuts.ne_nil
      have hle := cuts.length_le
      rw [Int32.toInt_ofNat_of_lt (by omega)]
      omega
    · rw [replaced, intercalate_textParts_self s hd]
  · intro hd refused
    exact ⟨fun r => call_replace_eq_error clock s r hflag hd refused,
      fun i hi => call_split_eq_error clock s hflag hd refused hi⟩

/-- Occurrences next to each other and across each other, and a replacement with a dollar sign. -/
theorem adjacent_occurrences_replaced :
    SaysIgnoreCase false [] ∧ "aaaaa".length < 2 ^ 31 ∧ Compiles .standard false "aa" ∧
      CutsInto .standard ⟨default, default⟩ "aaaaa" "aa" [] ["", "", "a"] ∧
      call ⟨default, default⟩ .replace [.string "aaaaa", .string "aa", .string "$1"] =
        .ok (.string "$1$1a") ∧
      call ⟨default, default⟩ .strCount [.string "aaaaa", .string "aa"] = .ok (.int32 2) ∧
      call ⟨default, default⟩ .replace [.string "aaaaa", .string "aa", .string "aa"] =
        .ok (.string "aaaaa") := by
  have compiles : Compiles .standard false "aa" := compiles_of_case _ _
  obtain ⟨parts, cut, replaced, exact⟩ := (replace_rejoins_parts .standard ⟨default, default⟩
    "aaaaa" "aa" .omitted (by decide)).1 fun _ => compiles
  obtain ⟨⟨k, counted, hk⟩, -, same⟩ := exact rfl (by decide)
  have first : parts[0]? = some "" := (cut.part_eq_some_iff (i := 0) (by decide)).2 rfl
  have second : parts[1]? = some "" := (cut.part_eq_some_iff (i := 1) (by decide)).2 rfl
  have third : parts[2]? = some "a" := (cut.part_eq_some_iff (i := 2) (by decide)).2 rfl
  have last : parts[3]? = none := by
    refine Option.eq_none_iff_forall_ne_some.2 fun p hp => ?_
    exact nomatch (cut.part_eq_some_iff (i := 3) (by decide)).1 hp
  have hparts : parts = ["", "", "a"] := by
    rcases parts with _ | ⟨p, _ | ⟨q, _ | ⟨r, _ | ⟨_, _⟩⟩⟩⟩ <;> simp_all
  subst hparts
  obtain rfl : k = 2 := by
    have hlength : k.toInt + 1 = 3 := hk
    exact Int32.toInt_inj.1 (show k.toInt = 2 by omega)
  exact ⟨.omitted, by decide, compiles, cut, replaced "$1", counted, same⟩

/-! ### Texts that are too large, and parts beyond 32 bits -/

/-- Commas alone. -/
def commas (n : ℕ) : String := String.ofList (List.replicate n ',')

theorem splitFrom_commas (n : ℕ) :
    splitFrom (· == ·) [','] [] 0 (List.replicate n ',') = List.replicate (n + 1) [] := by
  induction n with
  | zero => rfl
  | succ n ih =>
    rw [List.replicate_succ, List.replicate_succ, ← ih]
    rfl

/-- Between commas, before and after them there are empty texts. -/
theorem textParts_commas (n : ℕ) : textParts false (commas n) "," = List.replicate (n + 1) "" := by
  have hcommas : (commas n).toList = List.replicate n ',' := String.toList_ofList
  rw [textParts_false_eq _ (by decide), hcommas]
  change (splitFrom (· == ·) [','] [] 0 (List.replicate n ',')).map String.ofList = _
  rw [splitFrom_commas, List.map_replicate]

/-- A text that is too large is not replaced by another. The number of occurrences is given in 32
bits: of `2 ^ 32` commas it is zero, and there is a part with a greater index. -/
theorem not_replace_rejoins_parts :
    (¬∀ (clock : Clock) (s d r : String), ∃ text : String,
      call clock .replace [.string s, .string d, .string r, .boolean true] = .ok (.string text)) ∧
    ¬∀ (clock : Clock) (s d : String) (k i : Int32), d ≠ "" →
      call clock .strCount [.string s, .string d] = .ok (.int32 k) → k.toInt < i.toInt →
      call clock .split [.string s, .string d, .int32 i] = .ok (.null .string) := by
  constructor
  · intro h
    obtain ⟨text, htext⟩ := h ⟨default, default⟩ "b" (letters 1000000) "c"
    have refused := call_replace_eq_error ⟨default, default⟩ "b" "c" (.flag true)
      (letters_ne_empty (n := 1000000) (by decide)) (not_compiles_letters (by decide))
    cases refused.symm.trans htext
  · intro h
    have counted : call ⟨default, default⟩ .strCount
        [.string (commas (4294967295 + 1)), .string ","] = .ok (.int32 0) := by
      refine (call_strCount_eq_length ⟨default, default⟩ _ (by decide) .omitted).trans ?_
      rw [textParts_commas, List.length_replicate]
      rfl
    have absent := h ⟨default, default⟩ _ "," 0 1 (by decide) counted (by decide)
    have cuts : call ⟨default, default⟩ .split
        [.string (commas (4294967295 + 1)), .string ",", .int32 1] = .ok (.string "") := by
      refine (call_split_eq ⟨default, default⟩ _ "," 1 .omitted).trans ?_
      rw [textParts_commas, List.replicate_succ, List.replicate_succ]
      rfl
    cases cuts.symm.trans absent

end TableFilter.Builtin
