import TableFilter.Proofs.Guid
import TableFilter.Proofs.Token.Spelling

/-!
# Texts on lines of their own

The tokens of two texts with a line end between them are those of the first and then those of the
second. Each kind of token looks ahead, a bare identifier by thirty-six characters, and none of them
goes past a line end that comes after the token: it is a blank, it stands in no word, in no number
and in no bare identifier, and a comment ends with it.

So a token that is scanned from a text is scanned as well if a further line follows, and what it
leaves has the further line at its end.

## Main results

* `skipIgnored_line`: what is left out before a further line
* `scanToken_line`: a token does not change if a line is added
* `Lexes.line`: the tokens of a text with a line after it
-/

namespace TableFilter

open TableFilter.Text

section

variable {next cs text rest : List Char} {c : Char} {position : Nat} {t : Token}

/-! ### Runs of characters -/

theorem takeWhile_line {p : Char → Bool} (hp : p '\n' = false) (cs next : List Char) :
    (cs ++ '\n' :: next).takeWhile p = cs.takeWhile p := by
  induction cs with
  | nil => rw [List.nil_append, List.takeWhile_cons_of_neg (by simp [hp]), List.takeWhile_nil]
  | cons c cs ih => rw [List.cons_append, List.takeWhile_cons, List.takeWhile_cons, ih]

theorem dropWhile_line {p : Char → Bool} (hp : p '\n' = false) (cs next : List Char) :
    (cs ++ '\n' :: next).dropWhile p = cs.dropWhile p ++ '\n' :: next := by
  induction cs with
  | nil => rw [List.nil_append, List.dropWhile_cons_of_neg (by simp [hp]), List.dropWhile_nil,
      List.nil_append]
  | cons c cs ih =>
    rw [List.cons_append, List.dropWhile_cons, List.dropWhile_cons, ih]
    split <;> rfl

/-- A test that a line end fails has the same answer at the end of the text and at the end of the
line. -/
theorem any_head?_line {p : Char → Bool} (hp : p '\n' = false) (cs next : List Char) :
    (cs ++ '\n' :: next).head?.any p = cs.head?.any p := by
  cases cs with
  | nil => exact hp
  | cons => rfl

theorem head?_line {d : Char} (hd : d ≠ '\n') (cs next : List Char) :
    ((cs ++ '\n' :: next).head? == some d) = (cs.head? == some d) := by
  cases cs with
  | nil => simpa using hd.symm
  | cons => rfl

/-! ### Between tokens -/

/-- What is left out before a further line: if all of the text is, a comment ends with it and the
rest of what is left out starts in the next line. -/
theorem skipIgnored_line (inComment : Bool) (cs next : List Char) :
    skipIgnored inComment (cs ++ '\n' :: next) =
      if skipIgnored inComment cs = [] then skipIgnored false next
      else skipIgnored inComment cs ++ '\n' :: next := by
  fun_induction skipIgnored inComment cs with
  | case1 inComment => cases inComment <;> rfl
  | case2 c cs ih => rw [List.cons_append, skipIgnored, if_pos rfl, ih]
  | case3 inComment c cs hcomment hblank ih =>
    rw [List.cons_append, skipIgnored, if_neg hcomment, if_pos hblank, ih]
  | case4 inComment c cs hcomment hblank hstart ih =>
    rw [List.cons_append, skipIgnored, if_neg hcomment, if_neg hblank, head?_line (by decide),
      if_pos hstart, ih]
  | case5 inComment c cs hcomment hblank hstart =>
    rw [List.cons_append, skipIgnored, if_neg hcomment, if_neg hblank, head?_line (by decide),
      if_neg hstart, if_neg (List.cons_ne_nil _ _)]

/-! ### Bare identifiers -/

theorem isHyphenatedFrom_mem {cs : List Char} {offset : Nat}
    (h : Guid.isHyphenatedFrom offset cs = true) (hc : c ∈ cs) : c = '-' ∨ isHexDigit c = true := by
  induction cs generalizing offset with
  | nil => cases hc
  | cons d cs ih =>
    rw [Guid.isHyphenatedFrom, Bool.and_eq_true] at h
    cases hc with
    | head =>
      have hd := h.1
      split at hd
      · exact .inl (beq_iff_eq.1 hd)
      · exact .inr hd
    | tail _ hc => exact ih h.2 hc

theorem startsWithGuid_length (h : startsWithGuid cs = true) : Guid.textLength ≤ cs.length := by
  rw [startsWithGuid, Guid.isHyphenated, List.length_take] at h
  simp only [Bool.and_eq_true, beq_iff_eq] at h
  omega

/-- The text of an identifier has no line end in it, so it is not found across the end of a line. -/
theorem startsWithGuid_line (cs next : List Char) :
    startsWithGuid (cs ++ '\n' :: next) = startsWithGuid cs := by
  rcases Nat.lt_or_ge cs.length Guid.textLength with hshort | hlong
  · have hfalse : startsWithGuid cs = false := Bool.eq_false_iff.2 fun h =>
      Nat.not_lt.2 (startsWithGuid_length h) hshort
    rw [hfalse, ← Bool.not_eq_true]
    intro h
    have hmem : '\n' ∈ (cs ++ '\n' :: next).take Guid.textLength := by
      obtain ⟨k, hk⟩ := Nat.exists_eq_add_of_lt hshort
      rw [List.take_append, hk, show cs.length + k + 1 - cs.length = k + 1 by omega,
        List.take_succ_cons]
      simp
    rw [startsWithGuid, Guid.isHyphenated, Bool.and_eq_true, Bool.and_eq_true] at h
    rcases isHyphenatedFrom_mem h.1.2 hmem with h | h <;> exact absurd h (by decide)
  · rw [startsWithGuid, startsWithGuid, List.take_append_of_le_length hlong,
      List.drop_append_of_le_length hlong, any_head?_line (by decide)]

/-! ### Signs -/

/-- What does not start with a character other than a line end does not if a line is added. -/
theorem line_ne_cons {d : Char} (hd : '\n' ≠ d) (h : ∀ more, rest = d :: more → False)
    (more : List Char) : rest ++ '\n' :: next = d :: more → False := by
  intro heq
  cases rest with
  | nil => exact hd (List.cons.inj heq).1
  | cons e es =>
    obtain ⟨rfl, -⟩ := List.cons.inj heq
    exact h es rfl

/-- Where a further character could make a sign longer, the line end does not. -/
theorem scanSymbol?_line {s : Symbol} (h : scanSymbol? cs = some (s, rest)) :
    scanSymbol? (cs ++ '\n' :: next) = some (s, rest ++ '\n' :: next) := by
  unfold scanSymbol? at h
  split at h <;> cases h
  case h_2.refl hequal | h_5.refl hequal =>
    rw [List.cons_append, List.cons_append, scanSymbol?]
    exact line_ne_cons (by decide) hequal
  case h_3.refl _ hequal | h_6.refl _ hequal =>
    rw [List.cons_append, scanSymbol?]
    · exact fun more => line_ne_cons (by decide) hequal _
    · exact line_ne_cons (by decide) hequal
  case h_10.refl hequal hless hgreater =>
    rw [List.cons_append, scanSymbol?]
    · exact line_ne_cons (by decide) hequal
    · exact line_ne_cons (by decide) hless
    · exact line_ne_cons (by decide) hgreater
  case h_13.refl hequal hgreater =>
    rw [List.cons_append, scanSymbol?]
    · exact line_ne_cons (by decide) hequal
    · exact line_ne_cons (by decide) hgreater
  case h_15.refl hsame | h_17.refl hsame =>
    rw [List.cons_append, scanSymbol?]
    exact line_ne_cons (by decide) hsame
  all_goals rfl

theorem notMem_symbolStarts (h : scanSymbol? (c :: cs) = none) : c ∉ symbolStarts := by
  intro hmem
  simp only [symbolStarts, List.mem_cons, List.not_mem_nil, or_false] at hmem
  unfold scanSymbol? at h
  split at h
  case h_29 _ _ equal _ _ bang _ _ _ less _ _ greater _ ampersand _ pipe plus minus star slash
      percent caret tilde leftParen rightParen comma semicolon =>
    rcases hmem with rfl | rfl | rfl | rfl | rfl | rfl | rfl | rfl | rfl | rfl | rfl | rfl | rfl |
      rfl | rfl | rfl | rfl
    exacts [equal _ rfl, bang _ rfl, less _ rfl, greater _ rfl, ampersand _ rfl, pipe _ rfl,
      plus _ rfl, minus _ rfl, star _ rfl, slash _ rfl, percent _ rfl, caret _ rfl, tilde _ rfl,
      leftParen _ rfl, rightParen _ rfl, comma _ rfl, semicolon _ rfl]
  all_goals cases h

/-! ### Delimited texts -/

theorem takeUntil?_line {delimiter : Char} (h : takeUntil? delimiter cs = some (text, rest)) :
    takeUntil? delimiter (cs ++ '\n' :: next) = some (text, rest ++ '\n' :: next) := by
  induction cs generalizing text with
  | nil => cases h
  | cons c cs ih =>
    rw [takeUntil?] at h
    rw [List.cons_append, takeUntil?]
    split at h
    · next hc =>
      cases h
      rw [if_pos hc]
    · next hc =>
      obtain ⟨⟨text', rest'⟩, hmore, heq⟩ := Option.map_eq_some_iff.1 h
      cases heq
      rw [if_neg hc, ih hmore]
      rfl

/-- The quote that ends a text is not doubled by the line after it. -/
theorem takeQuoted?_line (h : takeQuoted? cs = some (text, rest)) :
    takeQuoted? (cs ++ '\n' :: next) = some (text, rest ++ '\n' :: next) := by
  fun_induction takeQuoted? cs generalizing text with
  | case1 => cases h
  | case2 cs ih =>
    obtain ⟨⟨text', rest'⟩, hmore, heq⟩ := Option.map_eq_some_iff.1 h
    cases heq
    rw [List.cons_append, List.cons_append, takeQuoted?, ih hmore]
    rfl
  | case3 c cs hquotes hc =>
    cases h
    obtain rfl := beq_iff_eq.1 hc
    rw [List.cons_append, takeQuoted?, if_pos (beq_self_eq_true _)]
    rintro more - heq
    cases rest <;> cases heq
    exact hquotes _ rfl rfl
  | case4 c cs hquotes hc ih =>
    obtain ⟨⟨text', rest'⟩, hmore, heq⟩ := Option.map_eq_some_iff.1 h
    cases heq
    rw [List.cons_append, takeQuoted?, if_neg hc, ih hmore]
    · rfl
    · rintro more rfl
      exact absurd rfl hc

theorem scanDelimited_line {part : Delimited} {taken longer : Option (List Char × List Char)}
    {token : List Char → Token} (h : scanDelimited part position taken token = (.ok t, rest))
    (hlonger : ∀ text, taken = some (text, rest) → longer = some (text, rest ++ '\n' :: next)) :
    scanDelimited part position longer token = (.ok t, rest ++ '\n' :: next) := by
  obtain ⟨text, htaken, rfl⟩ := scanDelimited_ok h
  rw [hlonger text htaken, scanDelimited]

/-! ### Words and numbers -/

theorem scanWord_line (cs next : List Char) :
    scanWord (cs ++ '\n' :: next) = ((scanWord cs).1, (scanWord cs).2 ++ '\n' :: next) := by
  rw [scanWord, scanWord, takeWhile_line (by decide), dropWhile_line (by decide)]
  cases cs.dropWhile isWordChar with
  | nil => rfl
  | cons c more =>
    by_cases hcolon : c = ':'
    · subst hcolon
      simp only [List.cons_append]
      rw [takeWhile_line (by decide), dropWhile_line (by decide)]
      split <;> rfl
    · simp [hcolon]

theorem scanFraction_line (cs next : List Char) :
    scanFraction (cs ++ '\n' :: next) =
      ((scanFraction cs).1, (scanFraction cs).2 ++ '\n' :: next) := by
  match cs with
  | [] => rfl
  | c :: more =>
    by_cases hpoint : c = '.'
    · subst hpoint
      simp only [List.cons_append, scanFraction]
      rw [takeWhile_line (by decide), dropWhile_line (by decide)]
      split <;> rfl
    · simp [scanFraction, hpoint]

theorem scanExponent_line (cs next : List Char) :
    scanExponent (cs ++ '\n' :: next) =
      ((scanExponent cs).1, (scanExponent cs).2 ++ '\n' :: next) := by
  have hdigit : isDigit '\n' = false := by decide
  match cs with
  | [] => rfl
  | [mark] => simp [scanExponent, hdigit]
  | mark :: c :: more =>
    have htake (cs : List Char) := takeWhile_line hdigit cs next
    have hdrop (cs : List Char) := dropWhile_line hdigit cs next
    have hsign : c = '+' ∨ c = '-' ∨ c ≠ '+' ∧ c ≠ '-' := by tauto
    rcases hsign with rfl | rfl | ⟨hplus, hminus⟩
    · simp only [scanExponent, List.cons_append, List.nil_append, List.length_cons, List.length_nil,
        zero_add, List.drop_succ_cons, List.drop_zero, htake, hdrop]
      split_ifs <;> rfl
    · simp only [scanExponent, List.cons_append, List.nil_append, List.length_cons, List.length_nil,
        zero_add, List.drop_succ_cons, List.drop_zero, htake, hdrop]
      split_ifs <;> rfl
    · have htake := htake (c :: more)
      have hdrop := hdrop (c :: more)
      rw [List.cons_append] at htake hdrop
      simp only [scanExponent, List.cons_append, List.nil_append, List.length_nil, List.drop_zero,
        List.cons.injEq, hplus, hminus, false_and, imp_self, implies_true, htake, hdrop]
      split_ifs <;> rfl

theorem scanHex?_line (cs next : List Char) :
    scanHex? (cs ++ '\n' :: next) =
      (scanHex? cs).map fun found => (found.1, found.2 ++ '\n' :: next) := by
  match cs with
  | [] => rfl
  | [c] =>
    by_cases hzero : c = '0'
    · subst hzero
      rfl
    · simp [scanHex?, hzero]
  | c :: mark :: more =>
    by_cases hzero : c = '0'
    · subst hzero
      simp only [scanHex?, List.cons_append]
      rw [takeWhile_line (by decide), dropWhile_line (by decide)]
      split <;> rfl
    · simp [scanHex?, hzero]

theorem scanNumber_line (cs next : List Char) :
    scanNumber (cs ++ '\n' :: next) = ((scanNumber cs).1, (scanNumber cs).2 ++ '\n' :: next) := by
  rw [scanNumber, scanNumber, scanHex?_line]
  cases scanHex? cs with
  | some found => rfl
  | none =>
    simp only [Option.map_none]
    rw [takeWhile_line (by decide), dropWhile_line (by decide), scanFraction_line,
      scanExponent_line]
    split <;> rfl

/-! ### All tokens -/

/-- A token does not change if a line is added to the text. -/
theorem scanToken_line (h : scanToken position c cs = (.ok t, rest)) :
    scanToken position c (cs ++ '\n' :: next) = (.ok t, rest ++ '\n' :: next) := by
  unfold scanToken at h ⊢
  rw [← List.cons_append, startsWithGuid_line]
  split at h
  · next hguid =>
    have hlength := startsWithGuid_length (Bool.and_eq_true _ _ ▸ hguid).2
    rw [if_pos hguid, List.take_append_of_le_length hlength, List.drop_append_of_le_length hlength]
    cases h
    rfl
  · next hguid =>
    rw [if_neg hguid]
    split at h
    · next heq =>
      cases h
      rw [scanSymbol?_line heq]
    · next heq =>
      rw [List.cons_append, scanSymbol?_eq_none (notMem_symbolStarts heq),
        any_head?_line (by decide), ← List.cons_append, scanNumber_line, scanWord_line]
      dsimp only
      split_ifs at h ⊢ with hstring htag hdate hguid hnumber hword
      · exact scanDelimited_line h fun _ => takeQuoted?_line
      · exact scanDelimited_line h fun _ => takeUntil?_line
      · exact scanDelimited_line h fun _ => takeUntil?_line
      · exact scanDelimited_line h fun _ => takeUntil?_line
      · cases h
        rfl
      · cases h
        rfl
      · cases h

theorem Lexes.ne_nil {ts : List Token} (h : Lexes cs ts) : ts ≠ [] := by
  cases h <;> exact List.cons_ne_nil _ _

/-- The tokens of a text with a line after it are those of the text without its end and then those
of the line. -/
theorem Lexes.line {ts us : List Token} (h : Lexes cs ts) (hnext : Lexes next us) :
    Lexes (cs ++ '\n' :: next) (ts.dropLast ++ us) := by
  induction h with
  | @done cs skip =>
    have hskip : skipIgnored false (cs ++ '\n' :: next) = skipIgnored false next := by
      rw [skipIgnored_line, if_pos skip]
    cases hnext with
    | done skip => exact .done (hskip.trans skip)
    | token skip scan next => exact .token (hskip.trans skip) scan next
  | @token cs more rest c t ts skip scan hrest ih =>
    have hskip : skipIgnored false (cs ++ '\n' :: next) = c :: (more ++ '\n' :: next) := by
      rw [skipIgnored_line, skip, if_neg (List.cons_ne_nil _ _), List.cons_append]
    rw [List.dropLast_cons_of_ne_nil hrest.ne_nil, List.cons_append]
    exact .token hskip (fun position => scanToken_line (scan position)) ih

end

end TableFilter
