import TableFilter.Proofs.Token.Lexing
import TableFilter.Value.Text

/-!
# Spelling tokens

Texts that are one token each: signs, words, numbers and delimited texts. All but the delimited ones
need a text after them that does not go on with the token. It is enough that this text starts with a
separator, and what is written always puts one there.

An identifier without braces is looked for before all else, so a word or a number must not look like
the start of one. A word has no hyphen, and a number has none in the ninth place.

## Main definitions

* `Separated`: a text that ends the token before it

## Main results

* `spells_leftParen`, `spells_semicolon`, `spells_minus`: signs
* `spells_word`, `spells_keyword`: names and keywords
* `spells_integer`, `spells_number`: numbers
* `spells_string`, `spells_guid`, `spells_dateTime`: delimited texts
-/

namespace TableFilter

open TableFilter.CharRanges TableFilter.Number TableFilter.Text

/-- Whether a character ends the token before it. -/
def isSeparator (c : Char) : Bool := c == ' ' || c == '(' || c == ')' || c == ',' || c == ';'

/-- A text that ends the token before it: it is empty or starts with a separator. -/
def Separated (rest : List Char) : Prop := ∀ c, rest.head? = some c → isSeparator c = true

theorem separated_nil : Separated [] := nofun

theorem separated_cons {c : Char} (h : isSeparator c = true) (rest : List Char) :
    Separated (c :: rest) := by
  rintro _ ⟨⟩
  exact h

theorem mem_of_isSeparator {c : Char} (h : isSeparator c = true) :
    c ∈ [' ', '(', ')', ',', ';'] := by
  simpa [isSeparator, or_assoc] using h

section

variable {rest : List Char}

theorem Separated.eq_false {p : Char → Bool} (h : Separated rest)
    (hp : ([' ', '(', ')', ',', ';'].all fun c => !p c) = true) {c : Char}
    (hc : rest.head? = some c) : p c = false := by
  simpa using List.all_eq_true.1 hp c (mem_of_isSeparator (h c hc))

/-! ### Runs of characters -/

theorem takeWhile_append_stop {p : Char → Bool} {run : List Char} (hrun : ∀ c ∈ run, p c = true)
    (hrest : ∀ c, rest.head? = some c → p c = false) : (run ++ rest).takeWhile p = run := by
  rw [List.takeWhile_append_of_pos hrun]
  cases rest with
  | nil => rw [List.takeWhile_nil, List.append_nil]
  | cons c rest =>
    rw [List.takeWhile_cons_of_neg (by rw [hrest c rfl]; exact Bool.false_ne_true), List.append_nil]

theorem dropWhile_append_stop {p : Char → Bool} {run : List Char} (hrun : ∀ c ∈ run, p c = true)
    (hrest : ∀ c, rest.head? = some c → p c = false) : (run ++ rest).dropWhile p = rest := by
  rw [List.dropWhile_append_of_pos hrun]
  cases rest with
  | nil => rfl
  | cons c rest =>
    rw [List.dropWhile_cons_of_neg (by rw [hrest c rfl]; exact Bool.false_ne_true)]

/-- A text without blanks at its ends stays as it is when they are left out. -/
theorem trim_eq_self {cs : List Char} (hhead : ∀ c, cs.head? = some c → isBlank c = false)
    (hlast : ∀ c, cs.getLast? = some c → isBlank c = false) : trim cs = cs := by
  have hdrop {ds : List Char} (h : ∀ c, ds.head? = some c → isBlank c = false) :
      ds.dropWhile isBlank = ds :=
    dropWhile_append_stop (fun _ hc => absurd hc List.not_mem_nil) h
  rw [trim, trimLeft, hdrop hhead, trimRight, hdrop, List.reverse_reverse]
  rwa [List.head?_reverse]

theorem trim_eq_self_of_forall {cs : List Char} (h : ∀ c ∈ cs, isBlank c = false) : trim cs = cs :=
  trim_eq_self (fun c hc => h c (List.mem_of_head? hc)) fun c hc => h c (List.mem_of_getLast? hc)

/-! ### First characters -/

/-- A text that does not start with a blank or a hyphen starts with its token. -/
theorem Spells.of_scan {c : Char} {more : List Char} {t : Token} (hblank : isBlank c = false)
    (hhyphen : c ≠ '-') (hscan : scanToken 0 c (more ++ rest) = (.ok t, rest)) :
    Spells (c :: more) t rest := by
  refine ⟨⟨c, more, rfl, hscan⟩, ?_⟩
  rw [List.cons_append, skipIgnored, if_neg Bool.false_ne_true, hblank, if_neg Bool.false_ne_true,
    beq_eq_false_iff_ne.2 hhyphen, Bool.false_and, if_neg Bool.false_ne_true]

/-! ### No identifier without braces -/

theorem isHyphenatedFrom_start {cs : List Char} :
    ∀ {offset count : Nat}, offset ≤ 8 → 8 < offset + count → 8 < offset + cs.length →
      Guid.isHyphenatedFrom offset (cs.take count) = true →
      (cs.takeWhile isHexDigit).length = 8 - offset ∧
        (cs.dropWhile isHexDigit).head? = some '-' := by
  induction cs with
  | nil => exact fun hle _ hlength _ => absurd hlength (Nat.not_lt.2 hle)
  | cons c cs ih =>
    intro offset count hle hcount hlength h
    obtain ⟨count, rfl⟩ : ∃ n, count = n + 1 := ⟨count - 1, by omega⟩
    rw [List.take_succ_cons, Guid.isHyphenatedFrom, Bool.and_eq_true] at h
    obtain ⟨hc, hrest⟩ := h
    rcases Nat.eq_or_lt_of_le hle with rfl | hlt
    · obtain rfl : c = '-' := by simpa [Guid.isHyphenAt] using hc
      exact ⟨rfl, rfl⟩
    · have hdigit : isHexDigit c = true := by
        have hat : Guid.isHyphenAt offset = false := by
          simp only [Guid.isHyphenAt, Bool.or_eq_false_iff, beq_eq_false_iff_ne]
          omega
        simpa [hat] using hc
      rw [List.length_cons] at hlength
      obtain ⟨hrun, hhead⟩ := ih hlt (by omega) (by omega) hrest
      rw [List.takeWhile_cons_of_pos hdigit, List.dropWhile_cons_of_pos hdigit, List.length_cons]
      exact ⟨by omega, hhead⟩

/-- An identifier without braces starts with eight digits and a hyphen. -/
theorem startsWithGuid_start {cs : List Char} (h : startsWithGuid cs = true) :
    (cs.takeWhile isHexDigit).length = 8 ∧ (cs.dropWhile isHexDigit).head? = some '-' := by
  rw [startsWithGuid, Guid.isHyphenated, Bool.and_eq_true, Bool.and_eq_true, beq_iff_eq,
    List.length_take] at h
  obtain ⟨⟨hlength, hform⟩, -⟩ := h
  rw [Guid.textLength] at hlength hform
  exact isHyphenatedFrom_start (by decide) (by decide) (by omega) hform

/-- No identifier starts where there is no hyphen up to the end of the token. -/
theorem startsWithGuid_run {run : List Char} (hrun : '-' ∉ run) (hrest : Separated rest) :
    startsWithGuid (run ++ rest) = false := by
  rw [← Bool.not_eq_true]
  intro h
  have hhead := (startsWithGuid_start h).2
  clear h
  induction run with
  | nil =>
    cases rest with
    | nil => cases hhead
    | cons c rest =>
      have hc : isHexDigit c = false := hrest.eq_false (by decide) rfl
      rw [List.nil_append, List.dropWhile_cons_of_neg (by rw [hc]; exact Bool.false_ne_true)]
        at hhead
      cases hhead
      exact absurd (hrest '-' rfl) (by decide)
  | cons c run ih =>
    rw [List.mem_cons, not_or] at hrun
    rw [List.cons_append, List.dropWhile_cons] at hhead
    split at hhead
    · exact ih hrun.2 hhead
    · exact hrun.1 (Option.some.inj hhead).symm

/-! ### Signs -/

/-- The characters that signs start with. -/
def symbolStarts : List Char :=
  ['=', '!', '<', '>', '&', '|', '+', '-', '*', '/', '%', '^', '~', '(', ')', ',', ';']

theorem scanSymbol?_eq_none {c : Char} (h : c ∉ symbolStarts) (cs : List Char) :
    scanSymbol? (c :: cs) = none := by
  unfold scanSymbol?
  split
  case h_29 => rfl
  all_goals
    next heq =>
      cases heq
      exact absurd (by decide) h

theorem spells_leftParen (rest : List Char) : Spells ['('] (.symbol .leftParen) rest :=
  ⟨⟨_, _, rfl, rfl⟩, rfl⟩

theorem spells_semicolon (rest : List Char) : Spells [';'] (.symbol .semicolon) rest :=
  ⟨⟨_, _, rfl, rfl⟩, rfl⟩

/-- A minus sign that starts no comment. -/
theorem spells_minus (h : rest.head? ≠ some '-') : Spells ['-'] (.symbol .minus) rest := by
  refine ⟨⟨_, _, rfl, rfl⟩, ?_⟩
  rw [List.cons_append, List.nil_append, skipIgnored, if_neg Bool.false_ne_true,
    if_neg (by decide), if_neg]
  simpa using h

/-! ### Words -/

/-- A character of a kind is none of some that are not of this kind. -/
theorem notMem_of_all {p : Char → Bool} {c : Char} {others : List Char} (h : p c = true)
    (hothers : (others.all fun d => !p d) = true) : c ∉ others := by
  intro hc
  have hnot := List.all_eq_true.1 hothers c hc
  simp [h] at hnot

theorem startsWord_isDigit {c : Char} (h : startsWord c = true) : isDigit c = false := by
  rw [← Bool.not_eq_true]
  intro hd
  have hrange : 48 ≤ c.toNat ∧ c.toNat ≤ 57 := by
    simpa only [isDigit, Bool.and_eq_true, decide_eq_true_eq] using hd
  rw [startsWord, isLetter, if_pos (by omega), Bool.or_eq_true, beq_iff_eq] at h
  rcases h with h | rfl
  · simp only [isAsciiLetter, Bool.or_eq_true, Bool.and_eq_true, decide_eq_true_eq] at h
    omega
  · exact absurd hrange (by decide)

/-- The blanks beyond ASCII are no letters. -/
theorem inRanges_letterRanges_blank :
    ∀ n ∈ [0x85, 0xA0, 0x1680, 0x2000, 0x2001, 0x2002, 0x2003, 0x2004, 0x2005, 0x2006, 0x2007,
      0x2008, 0x2009, 0x200A, 0x2028, 0x2029, 0x202F, 0x205F, 0x3000],
      inRanges letterRanges n = false := by
  decide +kernel

theorem isLetter_isBlank {c : Char} (h : isLetter c = true) : isBlank c = false := by
  rw [← Bool.not_eq_true]
  intro hblank
  simp only [isBlank, Bool.or_eq_true, Bool.and_eq_true, decide_eq_true_eq, beq_iff_eq] at hblank
  rw [isLetter] at h
  split at h
  · simp only [isAsciiLetter, Bool.or_eq_true, Bool.and_eq_true, decide_eq_true_eq] at h
    omega
  · refine absurd h (Bool.not_eq_true _ ▸ inRanges_letterRanges_blank c.toNat ?_)
    simp only [List.mem_cons, List.not_mem_nil]
    omega

theorem startsWord_isBlank {c : Char} (h : startsWord c = true) : isBlank c = false := by
  rw [startsWord, Bool.or_eq_true, beq_iff_eq] at h
  rcases h with h | rfl
  · exact isLetter_isBlank h
  · decide

/-- What is scanned where a word starts. -/
theorem scanToken_word {c : Char} {cs : List Char} (h : startsWord c = true)
    (hguid : startsWithGuid (c :: cs) = false) (position : Nat) :
    scanToken position c cs = (.ok (scanWord (c :: cs)).1, (scanWord (c :: cs)).2) := by
  have hne (d : Char) (hd : startsWord d = false) : (c == d) = false :=
    beq_eq_false_iff_ne.2 fun heq => Bool.false_ne_true (hd.symm.trans (heq ▸ h))
  rw [scanToken, hguid, Bool.and_false, if_neg Bool.false_ne_true,
    scanSymbol?_eq_none (notMem_of_all h (by decide))]
  dsimp only
  rw [hne '\'' (by decide), hne '"' (by decide), hne '#' (by decide), hne '\x7b' (by decide),
    startsWord_isDigit h, hne '.' (by decide), h]
  rfl

/-- A name: characters of names, the first of which can start one. -/
def IsWord (word : List Char) : Prop :=
  (∀ c ∈ word, isWordChar c = true) ∧ ∃ c, word.head? = some c ∧ startsWord c = true

/-- The token for a word. -/
def wordToken (word : List Char) : Token :=
  match Keyword.ofName? word with
  | some k => .keyword k
  | none => .identifier (String.ofList word)

theorem scanWord_append {word : List Char} (hword : ∀ c ∈ word, isWordChar c = true)
    (hrest : Separated rest) : scanWord (word ++ rest) = (wordToken word, rest) := by
  have hstop := fun c => hrest.eq_false (p := isWordChar) (by decide) (c := c)
  rw [scanWord, takeWhile_append_stop hword hstop, dropWhile_append_stop hword hstop]
  dsimp only
  split
  · exact absurd (hrest ':' rfl) (by decide)
  · rfl

/-- A word before a separator. -/
theorem spells_word {word : List Char} (h : IsWord word) (hrest : Separated rest) :
    Spells word (wordToken word) rest := by
  obtain ⟨hword, c, hhead, hc⟩ := h
  obtain ⟨more, rfl⟩ := List.head?_eq_some_iff.1 hhead
  have hhyphen : '-' ∉ c :: more := fun hmem => absurd (hword _ hmem) (by decide)
  refine .of_scan (startsWord_isBlank hc) (fun h => hhyphen (h ▸ .head _)) ?_
  have hguid : startsWithGuid (c :: (more ++ rest)) = false := startsWithGuid_run hhyphen hrest
  rw [scanToken_word hc hguid]
  exact congrArg (fun r : Token × List Char => (Except.ok r.1, r.2)) (scanWord_append hword hrest)

/-- A keyword before a separator. -/
theorem spells_keyword (k : Keyword) (hrest : Separated rest) :
    Spells k.text.toList (.keyword k) rest := by
  have hword : IsWord k.text.toList := by
    cases k <;> exact ⟨List.all_eq_true.1 rfl, _, rfl, rfl⟩
  have htoken : wordToken k.text.toList = .keyword k := by
    cases k <;> rfl
  exact htoken ▸ spells_word hword hrest

/-! ### Numbers -/

theorem isDigit_isHexDigit {c : Char} (h : isDigit c = true) : isHexDigit c = true := by
  rw [isHexDigit, h]
  rfl

theorem isHexDigit_isBlank {c : Char} (h : isHexDigit c = true) : isBlank c = false := by
  rw [← Bool.not_eq_true]
  simp only [isHexDigit, isDigit, isBlank, Bool.or_eq_true, Bool.and_eq_true, decide_eq_true_eq,
    beq_iff_eq] at *
  omega

/-- What is scanned where a digit starts a number. -/
theorem scanToken_number {c : Char} {cs : List Char} (h : isDigit c = true)
    (hguid : startsWithGuid (c :: cs) = false) (position : Nat) :
    scanToken position c cs = (.ok (scanNumber (c :: cs)).1, (scanNumber (c :: cs)).2) := by
  have hne (d : Char) (hd : isDigit d = false) : (c == d) = false :=
    beq_eq_false_iff_ne.2 fun heq => Bool.false_ne_true (hd.symm.trans (heq ▸ h))
  rw [scanToken, hguid, Bool.and_false, if_neg Bool.false_ne_true,
    scanSymbol?_eq_none (notMem_of_all h (by decide))]
  dsimp only
  rw [hne '\'' (by decide), hne '"' (by decide), hne '#' (by decide), hne '\x7b' (by decide), h]
  rfl

/-- Digits of base ten, at least one. -/
def IsDigits (digits : List Char) : Prop := digits ≠ [] ∧ ∀ c ∈ digits, isDigit c = true

/-- A text that digits of base ten cannot go on with. -/
def StopsDigits (rest : List Char) : Prop := ∀ c, rest.head? = some c → isDigit c = false

theorem IsDigits.isEmpty {digits : List Char} (h : IsDigits digits) : digits.isEmpty = false :=
  List.isEmpty_eq_false_iff.2 h.1

theorem Separated.stopsDigits (h : Separated rest) : StopsDigits rest := fun _ =>
  h.eq_false (by decide)

theorem IsDigits.ne_of_head {digits : List Char} (h : IsDigits digits) {c d : Char}
    (hc : digits.head? = some c) (hd : isDigit d = false) : c ≠ d := by
  rintro rfl
  exact Bool.false_ne_true (hd.symm.trans (h.2 c (List.mem_of_head? hc)))

theorem IsDigits.hyphen_notMem {digits : List Char} (h : IsDigits digits) : '-' ∉ digits :=
  fun hm => absurd (h.2 _ hm) (by decide)

/-- A fraction: nothing, or a point and digits. -/
inductive IsFraction : List Char → Prop
  | none : IsFraction []
  | places {digits : List Char} : IsDigits digits → IsFraction ('.' :: digits)

/-- An exponent: nothing, or its mark and digits with an optional minus sign. -/
inductive IsExponent : List Char → Prop
  | none : IsExponent []
  | power (negative : Bool) {digits : List Char} : IsDigits digits →
      IsExponent ('e' :: signed negative digits)

theorem stopsDigits_exponent {exponent : List Char} (h : IsExponent exponent)
    (hrest : Separated rest) : StopsDigits (exponent ++ rest) := by
  cases h with
  | none => exact hrest.stopsDigits
  | power =>
    rintro _ ⟨⟩
    decide

theorem stopsDigits_fraction {fraction : List Char} (h : IsFraction fraction)
    (hrest : StopsDigits rest) : StopsDigits (fraction ++ rest) := by
  cases h with
  | none => exact hrest
  | places =>
    rintro _ ⟨⟩
    decide

theorem scanFraction_append {fraction : List Char} (h : IsFraction fraction)
    (hrest : StopsDigits rest) (hpoint : rest.head? ≠ some '.') :
    scanFraction (fraction ++ rest) = (fraction, rest) := by
  cases h with
  | none =>
    rw [List.nil_append]
    unfold scanFraction
    split
    · exact absurd rfl hpoint
    · rfl
  | places hdigits =>
    rw [List.cons_append, scanFraction, takeWhile_append_stop hdigits.2 hrest,
      dropWhile_append_stop hdigits.2 hrest, hdigits.isEmpty, if_neg Bool.false_ne_true]

theorem scanExponent_append {exponent : List Char} (h : IsExponent exponent)
    (hrest : Separated rest) : scanExponent (exponent ++ rest) = (exponent, rest) := by
  cases h with
  | none =>
    rw [List.nil_append]
    unfold scanExponent
    split
    · rw [if_neg]
      rw [Bool.or_eq_true, beq_iff_eq, beq_iff_eq]
      rintro (rfl | rfl) <;> exact absurd (hrest _ rfl) (by decide)
    · rfl
  | @power negative digits hdigits =>
    have htake := takeWhile_append_stop hdigits.2 hrest.stopsDigits
    have hdrop := dropWhile_append_stop hdigits.2 hrest.stopsDigits
    cases negative with
    | true => simp [scanExponent, signed, htake, hdrop, hdigits.isEmpty]
    | false =>
      obtain ⟨c, more, rfl⟩ := List.exists_cons_of_ne_nil hdigits.1
      have hplus : c ≠ '+' := hdigits.ne_of_head rfl (by decide)
      have hminus : c ≠ '-' := hdigits.ne_of_head rfl (by decide)
      simp only [List.cons_append] at htake hdrop
      simp [scanExponent, signed, htake, hdrop, hplus, hminus]

/-- A number that starts with digits of base ten is not one of base sixteen. -/
theorem scanHex?_eq_none {digits : List Char} (hdigits : IsDigits digits)
    (hrest : ∀ c, rest.head? = some c → c ≠ 'x' ∧ c ≠ 'X') : scanHex? (digits ++ rest) = none := by
  unfold scanHex?
  split
  · next mark more heq =>
    have hmark : mark ≠ 'x' ∧ mark ≠ 'X' := by
      match digits, hdigits, heq with
      | [_], _, heq =>
        have htail : rest = mark :: more := (List.cons.inj heq).2
        exact hrest mark (by rw [htail]; rfl)
      | _ :: c :: _, hdigits, heq =>
        have hc : isDigit c = true := hdigits.2 c (.tail _ (.head _))
        obtain rfl : c = mark := (List.cons.inj (List.cons.inj heq).2).1
        constructor <;> rintro rfl <;> exact absurd hc (by decide)
    dsimp only
    rw [if_neg]
    simp [hmark]
  · rfl

/-- No identifier starts where a number does. The digits before an exponent are too few. -/
theorem startsWithGuid_number {whole fraction exponent : List Char} (hwhole : IsDigits whole)
    (hfraction : IsFraction fraction) (hexponent : IsExponent exponent)
    (hfew : fraction = [] → exponent ≠ [] → whole.length = 1) (hrest : Separated rest) :
    startsWithGuid (whole ++ fraction ++ exponent ++ rest) = false := by
  rw [← Bool.not_eq_true]
  intro h
  obtain ⟨hlength, hhead⟩ := startsWithGuid_start h
  have hhex : ∀ c ∈ whole, isHexDigit c = true := fun c hc => isDigit_isHexDigit (hwhole.2 c hc)
  cases hfraction with
  | places hdigits =>
    -- The digits end at the point.
    rw [List.append_assoc, List.append_assoc, dropWhile_append_stop hhex (by rintro _ ⟨⟩; decide)]
      at hhead
    cases hhead
  | none =>
    rw [List.append_nil] at *
    cases hexponent with
    | none =>
      rw [List.append_nil] at h
      exact Bool.false_ne_true ((startsWithGuid_run hwhole.hyphen_notMem hrest).symm.trans h)
    | @power negative digits hdigits =>
      cases negative with
      | false =>
        have hrun : '-' ∉ whole ++ 'e' :: signed false digits := by
          simp [signed, hwhole.hyphen_notMem, hdigits.hyphen_notMem]
        exact Bool.false_ne_true ((startsWithGuid_run hrun hrest).symm.trans h)
      | true =>
        obtain ⟨d, rfl⟩ := List.length_eq_one_iff.1 (hfew rfl (List.cons_ne_nil _ _))
        have hd : isHexDigit d = true := hhex d (.head _)
        simp [signed, hd, show isHexDigit 'e' = true from rfl, show isHexDigit '-' = false from rfl]
          at hlength

/-- The token for a number. -/
def numberToken (whole fraction exponent : List Char) : Token :=
  if fraction.isEmpty && exponent.isEmpty then .integer (String.ofList whole)
  else .real (String.ofList (whole ++ fraction ++ exponent))

/-- A number before a separator. -/
theorem spells_number {whole fraction exponent : List Char} (hwhole : IsDigits whole)
    (hfraction : IsFraction fraction) (hexponent : IsExponent exponent)
    (hfew : fraction = [] → exponent ≠ [] → whole.length = 1) (hrest : Separated rest) :
    Spells (whole ++ fraction ++ exponent) (numberToken whole fraction exponent) rest := by
  have hguid := startsWithGuid_number hwhole hfraction hexponent hfew hrest
  have hstop : StopsDigits (fraction ++ (exponent ++ rest)) :=
    stopsDigits_fraction hfraction (stopsDigits_exponent hexponent hrest)
  have hpoint : (exponent ++ rest).head? ≠ some '.' := by
    cases hexponent with
    | none => exact fun h => absurd (hrest '.' h) (by decide)
    | power => exact fun h => by cases h
  have hmark : ∀ c, (fraction ++ (exponent ++ rest)).head? = some c → c ≠ 'x' ∧ c ≠ 'X' := by
    intro c hc
    cases hfraction with
    | places => cases hc; decide
    | none =>
      cases hexponent with
      | power => cases hc; decide
      | none => constructor <;> rintro rfl <;> exact absurd (hrest _ hc) (by decide)
  have hscan : scanNumber (whole ++ fraction ++ exponent ++ rest) =
      (numberToken whole fraction exponent, rest) := by
    rw [List.append_assoc, List.append_assoc, scanNumber, scanHex?_eq_none hwhole hmark,
      takeWhile_append_stop hwhole.2 hstop, dropWhile_append_stop hwhole.2 hstop,
      scanFraction_append hfraction (stopsDigits_exponent hexponent hrest) hpoint]
    dsimp only
    rw [scanExponent_append hexponent hrest]
    unfold numberToken
    dsimp only
    split <;> rfl
  obtain ⟨c, more, rfl⟩ := List.exists_cons_of_ne_nil hwhole.1
  have hc : isDigit c = true := hwhole.2 c (.head _)
  change Spells (c :: (more ++ fraction ++ exponent)) _ _
  refine .of_scan (isHexDigit_isBlank (isDigit_isHexDigit hc))
    (hwhole.ne_of_head rfl (by decide)) ?_
  have hguid : startsWithGuid (c :: (more ++ fraction ++ exponent ++ rest)) = false := hguid
  rw [scanToken_number hc hguid]
  exact congrArg (fun r : Token × List Char => (Except.ok r.1, r.2)) hscan

/-- Digits before a separator. -/
theorem spells_integer {digits : List Char} (h : IsDigits digits) (hrest : Separated rest) :
    Spells digits (.integer (String.ofList digits)) rest := by
  have hspells := spells_number h .none .none (fun _ h => absurd rfl h) hrest
  rw [List.append_nil, List.append_nil] at hspells
  exact hspells

/-! ### Delimited texts -/

theorem takeQuoted?_doubleQuotes (cs : List Char) (h : rest.head? ≠ some '\'') :
    takeQuoted? (Value.doubleQuotes cs ++ '\'' :: rest) = some (cs, rest) := by
  induction cs with
  | nil =>
    rw [Value.doubleQuotes, List.nil_append]
    unfold takeQuoted?
    split
    · next heq => cases heq
    · next heq =>
      cases heq
      exact absurd rfl h
    · next heq =>
      cases heq
      rfl
  | cons c cs ih =>
    rw [Value.doubleQuotes]
    split
    · next hc =>
      obtain rfl := beq_iff_eq.1 hc
      rw [List.cons_append, List.cons_append, takeQuoted?, ih]
      rfl
    · next hc =>
      have hne : c ≠ '\'' := fun heq => hc (beq_iff_eq.2 heq)
      rw [List.cons_append, takeQuoted?, if_neg hc, ih]
      · rfl
      · exact fun _ heq => absurd heq hne

theorem takeUntil?_append {delimiter : Char} {cs : List Char} (h : delimiter ∉ cs)
    (rest : List Char) : takeUntil? delimiter (cs ++ delimiter :: rest) = some (cs, rest) := by
  induction cs with
  | nil => rw [List.nil_append, takeUntil?, if_pos (beq_self_eq_true _)]
  | cons c cs ih =>
    rw [List.mem_cons, not_or] at h
    rw [List.cons_append, takeUntil?, if_neg, ih h.2]
    · rfl
    · exact fun heq => h.1 (beq_iff_eq.1 heq).symm

/-- A text in single quotes before a text that does not start with one. -/
theorem spells_string (cs : List Char) (hrest : rest.head? ≠ some '\'') :
    Spells (Value.enclosed '\'' (Value.doubleQuotes cs)) (stringToken cs) rest := by
  have htext : takeQuoted? (Value.doubleQuotes cs ++ ['\''] ++ rest) = some (cs, rest) := by
    rw [List.append_assoc]
    exact takeQuoted?_doubleQuotes cs hrest
  refine .of_scan (by decide) (by decide) ?_
  change scanDelimited .string 0 (takeQuoted? (Value.doubleQuotes cs ++ ['\''] ++ rest)) _ = _
  rw [htext]
  rfl

theorem spells_guid {cs : List Char} (h : '\x7d' ∉ cs) (rest : List Char) :
    Spells ('\x7b' :: cs ++ ['\x7d']) (.guid (String.ofList cs)) rest := by
  have htext : takeUntil? '\x7d' (cs ++ ['\x7d'] ++ rest) = some (cs, rest) := by
    rw [List.append_assoc]
    exact takeUntil?_append h rest
  refine .of_scan (by decide) (by decide) ?_
  change scanDelimited .guid 0 (takeUntil? '\x7d' (cs ++ ['\x7d'] ++ rest)) _ = _
  rw [htext]
  rfl

theorem spells_dateTime {cs : List Char} (h : '#' ∉ cs) (rest : List Char) :
    Spells (Value.enclosed '#' cs) (.dateTime (String.ofList cs)) rest := by
  have htext : takeUntil? '#' (cs ++ ['#'] ++ rest) = some (cs, rest) := by
    rw [List.append_assoc]
    exact takeUntil?_append h rest
  refine .of_scan (by decide) (by decide) ?_
  change scanDelimited .dateTime 0 (takeUntil? '#' (cs ++ ['#'] ++ rest)) _ = _
  rw [htext]
  rfl

/-! ### Names -/

/-- A text that is a name and nothing else. -/
def IsName (name : String) : Prop := Token.listOfText name = .ok [.identifier name, .eof]

theorem scanWord_identifier {cs : List Char} {name : String}
    (h : (scanWord cs).1 = .identifier name) :
    name.toList = cs.takeWhile isWordChar ∧ Keyword.ofName? name.toList = none := by
  have hword (h : wordToken (cs.takeWhile isWordChar) = .identifier name) :
      name.toList = cs.takeWhile isWordChar ∧ Keyword.ofName? name.toList = none := by
    unfold wordToken at h
    split at h
    · cases h
    · next hnone =>
      cases h
      rw [String.toList_ofList]
      exact ⟨rfl, hnone⟩
  unfold scanWord at h
  dsimp only at h
  split at h
  · split at h
    · exact hword h
    · cases h
  · exact hword h

/-- A name is scanned only where a word starts. -/
theorem scanToken_identifier {position : Nat} {c : Char} {cs : List Char} {name : String}
    (h : scanToken position c cs = (.ok (.identifier name), rest)) :
    startsWord c = true ∧ (scanWord (c :: cs)).1 = .identifier name := by
  unfold scanToken at h
  split at h
  · cases h
  · split at h
    · cases h
    · split at h
      · obtain ⟨text, -, heq⟩ := scanDelimited_ok h
        unfold stringToken at heq
        split at heq <;> cases heq
      · iterate 3
          split at h
          · obtain ⟨text, -, heq⟩ := scanDelimited_ok h
            cases heq
        split at h
        · have heq : (scanNumber (c :: cs)).1 = .identifier name := Except.ok.inj (Prod.mk.inj h).1
          unfold scanNumber at heq
          split at heq
          · cases heq
          · dsimp only at heq
            split at heq <;> cases heq
        · split at h
          · next hword => exact ⟨hword, Except.ok.inj (Prod.mk.inj h).1⟩
          · cases h

theorem IsName.isWord {name : String} (h : IsName name) :
    IsWord name.toList ∧ wordToken name.toList = .identifier name := by
  cases listOfText_eq_ok.1 h with
  | @token _ more rest c _ _ skip scan _ =>
    obtain ⟨hstart, hscan⟩ := scanToken_identifier (scan 0)
    obtain ⟨hname, hnone⟩ := scanWord_identifier hscan
    refine ⟨⟨fun d hd => ?_, c, ?_, hstart⟩, ?_⟩
    · rw [hname] at hd
      exact List.all_eq_true.1 List.all_takeWhile d hd
    · rw [hname, List.takeWhile_cons_of_pos (startsWord_isWordChar hstart)]
      rfl
    · rw [wordToken, hnone, String.ofList_toList]

theorem IsName.isEmpty {name : String} (h : IsName name) : name.isEmpty = false := by
  obtain ⟨⟨-, c, hhead, -⟩, -⟩ := h.isWord
  rw [← Bool.not_eq_true, String.isEmpty_iff]
  rintro rfl
  cases hhead

/-- A name before a separator. -/
theorem IsName.spells {name : String} (h : IsName name) (hrest : Separated rest) :
    Spells name.toList (.identifier name) rest := by
  obtain ⟨hword, htoken⟩ := h.isWord
  exact htoken ▸ spells_word hword hrest

end

end TableFilter
