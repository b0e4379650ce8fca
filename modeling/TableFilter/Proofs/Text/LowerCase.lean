import Mathlib.Tactic.SplitIfs
import TableFilter.Text.Case
import TableFilter.Text.CharClass

/-!
# The lower form of ASCII letters

A character and its lower form belong to the same classes of characters, and have the same upper
form and the same value as a digit. So a text and its lower form have the same runs of blanks, of
digits and of characters of names.

## Main results

* `toNat_asciiLowerChar`: the lower form of a character by its number
* `asciiLowerChar_eq_iff`: what is no letter is the lower form of itself only
* `takeWhile_asciiLower`, `dropWhile_asciiLower`: runs of characters of a class
* `upper_asciiLower`: the upper form of a text does not see its case
-/

namespace TableFilter.Text

/-! ### Characters -/

theorem toNat_asciiLowerChar (c : Char) : (asciiLowerChar c).toNat =
    if 65 ≤ c.toNat ∧ c.toNat ≤ 90 then c.toNat + 32 else c.toNat := by
  unfold asciiLowerChar
  simp only [Bool.and_eq_true, decide_eq_true_eq]
  split
  · have valid : (c.toNat + 32).isValidChar := .inl (by omega)
    rw [Char.ofNat, dif_pos valid]
    rfl
  · rfl

/-- What is not a capital letter stays. -/
theorem asciiLowerChar_eq_self {c : Char} (h : ¬(65 ≤ c.toNat ∧ c.toNat ≤ 90)) :
    asciiLowerChar c = c := by
  simp [asciiLowerChar, h]

theorem isAsciiLetter_asciiLowerChar (c : Char) :
    isAsciiLetter (asciiLowerChar c) = isAsciiLetter c := by
  rw [Bool.eq_iff_iff]
  simp only [isAsciiLetter, toNat_asciiLowerChar, Bool.or_eq_true, Bool.and_eq_true,
    decide_eq_true_eq]
  split <;> omega

theorem asciiLowerChar_of_isAsciiLetter {c : Char} (h : isAsciiLetter c = false) :
    asciiLowerChar c = c := by
  refine asciiLowerChar_eq_self ?_
  simp only [isAsciiLetter, Bool.or_eq_false_iff, Bool.and_eq_false_iff, decide_eq_false_iff_not]
    at h
  omega

/-- A character that is no letter is the lower form of itself only. -/
theorem asciiLowerChar_eq_iff {c d : Char} (hd : isAsciiLetter d = false) :
    asciiLowerChar c = d ↔ c = d := by
  constructor
  · rintro rfl
    rw [isAsciiLetter_asciiLowerChar] at hd
    exact (asciiLowerChar_of_isAsciiLetter hd).symm
  · rintro rfl
    exact asciiLowerChar_of_isAsciiLetter hd

theorem beq_asciiLowerChar {d : Char} (hd : isAsciiLetter d = false) (c : Char) :
    (asciiLowerChar c == d) = (c == d) := by
  rw [Bool.eq_iff_iff, beq_iff_eq, beq_iff_eq, asciiLowerChar_eq_iff hd]

/-- A letter in either case. -/
theorem asciiLowerChar_eq_or_eq (lower upper : Char) (hlower : 97 ≤ lower.toNat ∧ lower.toNat ≤ 122)
    (hupper : upper.toNat + 32 = lower.toNat) (c : Char) :
    (asciiLowerChar c == lower || asciiLowerChar c == upper) = (c == lower || c == upper) := by
  rw [Bool.eq_iff_iff]
  simp only [Bool.or_eq_true, beq_iff_eq, ← Char.toNat_inj, toNat_asciiLowerChar]
  split <;> omega

@[simp] theorem isBlank_asciiLowerChar (c : Char) : isBlank (asciiLowerChar c) = isBlank c := by
  rw [Bool.eq_iff_iff]
  simp only [isBlank, toNat_asciiLowerChar, Bool.or_eq_true, Bool.and_eq_true, decide_eq_true_eq,
    beq_iff_eq]
  split <;> omega

@[simp] theorem isDigit_asciiLowerChar (c : Char) : isDigit (asciiLowerChar c) = isDigit c := by
  rw [Bool.eq_iff_iff]
  simp only [isDigit, toNat_asciiLowerChar, Bool.and_eq_true, decide_eq_true_eq]
  split <;> omega

@[simp] theorem isHexDigit_asciiLowerChar (c : Char) :
    isHexDigit (asciiLowerChar c) = isHexDigit c := by
  rw [Bool.eq_iff_iff]
  simp only [isHexDigit, isDigit, toNat_asciiLowerChar, Bool.or_eq_true, Bool.and_eq_true,
    decide_eq_true_eq]
  split <;> omega

theorem isLetter_of_isAsciiLetter {c : Char} (h : isAsciiLetter c = true) : isLetter c = true := by
  have hascii : c.toNat < 128 := by
    simp only [isAsciiLetter, Bool.or_eq_true, Bool.and_eq_true, decide_eq_true_eq] at h
    omega
  rw [isLetter, if_pos hascii, h]

theorem isLetter_asciiLowerChar (c : Char) : isLetter (asciiLowerChar c) = isLetter c := by
  cases h : isAsciiLetter c with
  | true =>
    rw [isLetter_of_isAsciiLetter h,
      isLetter_of_isAsciiLetter ((isAsciiLetter_asciiLowerChar c).trans h)]
  | false => rw [asciiLowerChar_of_isAsciiLetter h]

theorem isNumeral_asciiLowerChar (c : Char) : isNumeral (asciiLowerChar c) = isNumeral c := by
  by_cases h : 65 ≤ c.toNat ∧ c.toNat ≤ 90
  · have hlower := toNat_asciiLowerChar c
    rw [if_pos h] at hlower
    rw [isNumeral, isNumeral, if_pos (by omega), if_pos (by omega), isDigit_asciiLowerChar]
  · rw [asciiLowerChar_eq_self h]

/-- A digit of base sixteen has one value in both cases. -/
theorem hexValue_asciiLowerChar (c : Char) : hexValue (asciiLowerChar c) = hexValue c := by
  simp only [hexValue, isDigit, toNat_asciiLowerChar, Bool.and_eq_true, decide_eq_true_eq]
  split_ifs <;> omega

theorem upperChar_asciiLowerChar (c : Char) : upperChar (asciiLowerChar c) = upperChar c := by
  by_cases h : 65 ≤ c.toNat ∧ c.toNat ≤ 90
  · rw [upperChar, upperChar, toNat_asciiLowerChar, if_pos h]
    simp only [Bool.and_eq_true, decide_eq_true_eq]
    rw [if_pos (by omega), if_pos (by omega), if_pos (by omega), if_neg (by omega),
      Nat.add_sub_cancel, Char.ofNat_toNat]
  · rw [asciiLowerChar_eq_self h]

theorem asciiLowerChar_asciiLowerChar (c : Char) :
    asciiLowerChar (asciiLowerChar c) = asciiLowerChar c := by
  refine asciiLowerChar_eq_self ?_
  rw [toNat_asciiLowerChar]
  split <;> omega

/-! ### Runs of characters -/

theorem asciiLower_asciiLower (cs : List Char) : asciiLower (asciiLower cs) = asciiLower cs := by
  rw [asciiLower, asciiLower, List.map_map]
  exact List.map_congr_left fun c _ => asciiLowerChar_asciiLowerChar c

theorem upper_asciiLower (cs : List Char) : upper (asciiLower cs) = upper cs := by
  simp only [upper, asciiLower, List.flatMap_map, upperChar_asciiLowerChar]

@[simp] theorem asciiLower_nil : asciiLower [] = [] := rfl

theorem isEmpty_asciiLower (cs : List Char) : (asciiLower cs).isEmpty = cs.isEmpty :=
  List.isEmpty_map

@[simp] theorem length_asciiLower (cs : List Char) : (asciiLower cs).length = cs.length :=
  List.length_map _

@[simp] theorem asciiLower_cons (c : Char) (cs : List Char) :
    asciiLower (c :: cs) = asciiLowerChar c :: asciiLower cs := rfl

theorem asciiLower_append (cs ds : List Char) :
    asciiLower (cs ++ ds) = asciiLower cs ++ asciiLower ds := List.map_append

theorem take_asciiLower (n : Nat) (cs : List Char) :
    (asciiLower cs).take n = asciiLower (cs.take n) := List.map_take.symm

theorem drop_asciiLower (n : Nat) (cs : List Char) :
    (asciiLower cs).drop n = asciiLower (cs.drop n) := List.map_drop.symm

theorem takeWhile_asciiLower {p : Char → Bool} (hp : ∀ c, p (asciiLowerChar c) = p c)
    (cs : List Char) : (asciiLower cs).takeWhile p = asciiLower (cs.takeWhile p) := by
  rw [asciiLower, List.takeWhile_map, show p ∘ asciiLowerChar = p from funext hp, asciiLower]

theorem dropWhile_asciiLower {p : Char → Bool} (hp : ∀ c, p (asciiLowerChar c) = p c)
    (cs : List Char) : (asciiLower cs).dropWhile p = asciiLower (cs.dropWhile p) := by
  rw [asciiLower, List.dropWhile_map, show p ∘ asciiLowerChar = p from funext hp, asciiLower]

theorem any_head?_asciiLower {p : Char → Bool} (hp : ∀ c, p (asciiLowerChar c) = p c)
    (cs : List Char) : (asciiLower cs).head?.any p = cs.head?.any p := by
  cases cs with
  | nil => rfl
  | cons c cs => exact hp c

theorem head?_asciiLower {d : Char} (hd : isAsciiLetter d = false) (cs : List Char) :
    ((asciiLower cs).head? == some d) = (cs.head? == some d) := by
  cases cs with
  | nil => rfl
  | cons c cs =>
    change (some (asciiLowerChar c) == some d) = (some c == some d)
    rw [Option.some_beq_some, Option.some_beq_some, beq_asciiLowerChar hd]

/-- What does not start with a character that is no letter does not so in lower form. -/
theorem asciiLower_ne_cons {d : Char} (hd : isAsciiLetter d = false) {cs : List Char}
    (h : ∀ more, cs = d :: more → False) (more : List Char) (heq : asciiLower cs = d :: more) :
    False := by
  cases cs with
  | nil => cases heq
  | cons c cs => exact h cs (by rw [(asciiLowerChar_eq_iff hd).1 (List.cons.inj heq).1])

/-- Digits of base ten stay as they are. -/
theorem asciiLower_takeWhile_isDigit (cs : List Char) :
    asciiLower (cs.takeWhile isDigit) = cs.takeWhile isDigit := by
  refine (List.map_congr_left fun c hc => ?_).trans (List.map_id _)
  have hdigit : isDigit c = true := List.all_eq_true.1 List.all_takeWhile c hc
  simp only [isDigit, Bool.and_eq_true, decide_eq_true_eq] at hdigit
  exact asciiLowerChar_eq_self (by omega)

theorem trim_asciiLower (cs : List Char) : trim (asciiLower cs) = asciiLower (trim cs) := by
  have reverse (cs : List Char) : (asciiLower cs).reverse = asciiLower cs.reverse :=
    List.map_reverse.symm
  rw [trim, trimLeft, trimRight, dropWhile_asciiLower isBlank_asciiLowerChar, reverse,
    dropWhile_asciiLower isBlank_asciiLowerChar, reverse]
  rfl

end TableFilter.Text
