import TableFilter.Proofs.Result
import TableFilter.Token.Scan

/-!
# The tokens of a text

What the tokens of a text are, said without positions and without a bound: blanks and comments are
left out, the token that stands there is taken off, and so on to the end of the text. Positions
matter to errors only. A token leaves a shorter text, so the bound is never reached.

## Main definitions

* `Lexes`: the tokens of a text
* `Spells`: a text that is one token before another text

## Main results

* `scanToken_suffix`: a token leaves an end of the text after its first character
* `listOfText_eq_ok`: the tokens that are read from a text are the tokens of the text
* `Spells.cons`: a text that spells a token puts this token first
-/

namespace TableFilter

open TableFilter.Text

/-- The tokens of a text, the end included. -/
inductive Lexes : List Char → List Token → Prop
  | done {cs : List Char} (skip : skipIgnored false cs = []) : Lexes cs [.eof]
  | token {cs more rest : List Char} {c : Char} {t : Token} {ts : List Token}
      (skip : skipIgnored false cs = c :: more)
      (scan : ∀ position, scanToken position c more = (.ok t, rest)) (next : Lexes rest ts) :
      Lexes cs (t :: ts)

/-! ### What a token leaves -/

section Suffixes

variable {position : Nat} {c : Char} {cs text rest : List Char} {t : Token}

theorem skipIgnored_suffix (inComment : Bool) (cs : List Char) :
    skipIgnored inComment cs <:+ cs := by
  fun_induction skipIgnored inComment cs with
  | case1 => exact List.suffix_rfl
  | case2 _ _ ih => exact ih.trans (List.suffix_cons _ _)
  | case3 _ _ _ _ _ ih => exact ih.trans (List.suffix_cons _ _)
  | case4 _ _ _ _ _ _ ih => exact ih.trans (List.suffix_cons _ _)
  | case5 => exact List.suffix_rfl

theorem scanSymbol?_suffix {s : Symbol} (h : scanSymbol? (c :: cs) = some (s, rest)) :
    rest <:+ cs := by
  have hone := List.suffix_cons (α := Char)
  unfold scanSymbol? at h
  split at h <;> cases h
  all_goals
    next heq =>
      cases heq
      first
      | exact List.suffix_rfl
      | exact hone _ _
      | exact (hone _ _).trans (hone _ _)

theorem takeUntil?_suffix {delimiter : Char} :
    ∀ {cs text : List Char}, takeUntil? delimiter cs = some (text, rest) → rest <:+ cs
  | [], _, h => nomatch h
  | c :: cs, text, h => by
    rw [takeUntil?] at h
    split at h
    · cases h
      exact List.suffix_cons _ _
    · obtain ⟨⟨text', rest'⟩, hrest, heq⟩ := Option.map_eq_some_iff.1 h
      cases heq
      exact (takeUntil?_suffix hrest).trans (List.suffix_cons _ _)

theorem takeQuoted?_suffix (h : takeQuoted? cs = some (text, rest)) : rest <:+ cs := by
  have hone := List.suffix_cons (α := Char)
  fun_induction takeQuoted? cs generalizing text with
  | case1 => cases h
  | case2 cs ih =>
    obtain ⟨⟨text', rest'⟩, hrest, heq⟩ := Option.map_eq_some_iff.1 h
    cases heq
    exact (ih hrest).trans ((hone _ _).trans (hone _ _))
  | case3 =>
    cases h
    exact hone _ _
  | case4 c cs _ _ ih =>
    obtain ⟨⟨text', rest'⟩, hrest, heq⟩ := Option.map_eq_some_iff.1 h
    cases heq
    exact (ih hrest).trans (hone _ _)

theorem dropWhile_cons_suffix {p : Char → Bool} (h : p c = true) :
    (c :: cs).dropWhile p <:+ cs := by
  rw [List.dropWhile_cons_of_pos h]
  exact List.dropWhile_suffix p

theorem scanWord_suffix (h : isWordChar c = true) : (scanWord (c :: cs)).2 <:+ cs := by
  have hword : (c :: cs).dropWhile isWordChar <:+ cs := dropWhile_cons_suffix h
  unfold scanWord
  dsimp only
  split
  · next more heq =>
    rw [heq] at hword
    split
    · exact heq ▸ hword
    · exact (List.dropWhile_suffix _).trans ((List.suffix_cons _ _).trans hword)
  · exact hword

theorem scanFraction_suffix (cs : List Char) : (scanFraction cs).2 <:+ cs := by
  unfold scanFraction
  split
  · dsimp only
    split
    · exact List.suffix_rfl
    · exact (List.dropWhile_suffix _).trans (List.suffix_cons _ _)
  · exact List.suffix_rfl

theorem scanExponent_suffix (cs : List Char) : (scanExponent cs).2 <:+ cs := by
  unfold scanExponent
  split
  · split
    · extract_lets sign unsigned digits
      split
      · exact List.suffix_rfl
      · exact (List.dropWhile_suffix _).trans
          ((List.drop_suffix _ _).trans (List.suffix_cons _ _))
    · exact List.suffix_rfl
  · exact List.suffix_rfl

theorem scanHex?_suffix {digits : List Char} (h : scanHex? (c :: cs) = some (digits, rest)) :
    rest <:+ cs := by
  unfold scanHex? at h
  split at h
  · next heq =>
    cases heq
    dsimp only at h
    split at h
    · cases h
      exact (List.dropWhile_suffix _).trans (List.suffix_cons _ _)
    · cases h
  · cases h

/-- What a number leaves if it starts with its fraction. -/
theorem scanFraction_point_suffix (h : cs.head?.any isDigit = true) :
    (scanFraction ('.' :: cs)).2 <:+ cs := by
  obtain ⟨d, more, rfl⟩ : ∃ d more, cs = d :: more := by
    cases cs with
    | nil => cases h
    | cons d more => exact ⟨d, more, rfl⟩
  have hd : isDigit d = true := h
  rw [scanFraction, List.takeWhile_cons_of_pos hd]
  exact List.dropWhile_suffix _

theorem scanNumber_suffix (h : isDigit c = true ∨ c = '.' ∧ cs.head?.any isDigit = true) :
    (scanNumber (c :: cs)).2 <:+ cs := by
  have hrest : (scanFraction ((c :: cs).dropWhile isDigit)).2 <:+ cs := by
    rcases h with hdigit | ⟨rfl, hnext⟩
    · exact (scanFraction_suffix _).trans (dropWhile_cons_suffix hdigit)
    · rw [List.dropWhile_cons_of_neg (by decide)]
      exact scanFraction_point_suffix hnext
  unfold scanNumber
  split
  · next heq => exact scanHex?_suffix heq
  · dsimp only
    split <;> exact (scanExponent_suffix _).trans hrest

theorem startsWord_isWordChar (h : startsWord c = true) : isWordChar c = true := by
  simp only [startsWord, isWordChar, isLetterOrNumeral, Bool.or_eq_true] at *
  exact h.imp_left .inl

theorem scanDelimited_ok {part : Delimited} {taken : Option (List Char × List Char)}
    {token : List Char → Token} (h : scanDelimited part position taken token = (.ok t, rest)) :
    ∃ text, taken = some (text, rest) ∧ t = token text := by
  unfold scanDelimited at h
  split at h
  · cases h
    exact ⟨_, rfl, rfl⟩
  · cases h

/-- A token leaves an end of the text after its first character. -/
theorem scanToken_suffix (h : scanToken position c cs = (.ok t, rest)) : rest <:+ cs := by
  unfold scanToken at h
  split at h
  · cases h
    rw [Guid.textLength, List.drop_succ_cons]
    exact List.drop_suffix _ _
  · split at h
    · next heq =>
      cases h
      exact scanSymbol?_suffix heq
    · split at h
      · obtain ⟨text, htext, -⟩ := scanDelimited_ok h
        exact takeQuoted?_suffix htext
      · iterate 3
          split at h
          · obtain ⟨text, htext, -⟩ := scanDelimited_ok h
            exact takeUntil?_suffix htext
        split at h
        · next hnumber =>
          cases h
          simp only [Bool.or_eq_true, Bool.and_eq_true, beq_iff_eq] at hnumber
          exact scanNumber_suffix hnumber
        · split at h
          · next hword =>
            cases h
            exact scanWord_suffix (startsWord_isWordChar hword)
          · cases h

theorem scanDelimited_position (part : Delimited) (position other : Nat)
    (taken : Option (List Char × List Char)) (token : List Char → Token) :
    scanDelimited part other taken token = scanDelimited part position taken token ∨
      ∃ e rest, scanDelimited part position taken token = (.error e, rest) := by
  unfold scanDelimited
  split
  · exact .inl rfl
  · exact .inr ⟨_, _, rfl⟩

theorem scanToken_eq_or_error (position other : Nat) (c : Char) (cs : List Char) :
    scanToken other c cs = scanToken position c cs ∨
      ∃ e rest, scanToken position c cs = (.error e, rest) := by
  unfold scanToken
  split
  · exact .inl rfl
  · split
    · exact .inl rfl
    · iterate 4
        split
        · exact scanDelimited_position ..
      split
      · exact .inl rfl
      · split
        · exact .inl rfl
        · exact .inr ⟨_, _, rfl⟩

/-- Where a token stands does not matter. -/
theorem scanToken_position (h : scanToken position c cs = (.ok t, rest)) (other : Nat) :
    scanToken other c cs = (.ok t, rest) := by
  rcases scanToken_eq_or_error position other c cs with heq | ⟨e, rest', herror⟩
  · rw [heq, h]
  · exact nomatch h.symm.trans herror

theorem stringToken_ne_eof (text : List Char) : stringToken text ≠ .eof := by
  unfold stringToken
  split <;> exact Token.noConfusion

theorem scanNumber_ne_eof (cs : List Char) : (scanNumber cs).1 ≠ .eof := by
  unfold scanNumber
  split
  · exact Token.noConfusion
  · dsimp only
    split <;> exact Token.noConfusion

theorem scanWord_ne_eof (cs : List Char) : (scanWord cs).1 ≠ .eof := by
  unfold scanWord
  dsimp only
  split
  · split
    · split <;> exact Token.noConfusion
    · exact Token.noConfusion
  · split <;> exact Token.noConfusion

/-- The end of the text is no token that is scanned. -/
theorem scanToken_ne_eof (h : scanToken position c cs = (.ok t, rest)) : t ≠ .eof := by
  unfold scanToken at h
  split at h
  · cases h
    exact Token.noConfusion
  · split at h
    · cases h
      exact Token.noConfusion
    · split at h
      · obtain ⟨text, -, rfl⟩ := scanDelimited_ok h
        exact stringToken_ne_eof text
      · iterate 3
          split at h
          · obtain ⟨text, -, rfl⟩ := scanDelimited_ok h
            exact Token.noConfusion
        split at h
        · cases h
          exact scanNumber_ne_eof _
        · split at h
          · cases h
            exact scanWord_ne_eof _
          · cases h

end Suffixes

/-! ### All tokens -/

theorem length_lt_of_scan {position : Nat} {cs more rest : List Char} {c : Char} {t : Token}
    (skip : skipIgnored false cs = c :: more) (scan : scanToken position c more = (.ok t, rest)) :
    rest.length < cs.length := by
  have hskip := (skipIgnored_suffix false cs).length_le
  have hscan := (scanToken_suffix scan).length_le
  rw [skip, List.length_cons] at hskip
  omega

/-- The token that comes next, before those from the place after it. -/
theorem Scanner.tokens_of_next {s u : Scanner} {t : Token} (next : s.next = (.ok t, u))
    (hne : t ≠ .eof) (fuel : Nat) : s.tokens (fuel + 1) = (u.tokens fuel).map (t :: ·) := by
  rw [Scanner.tokens, next]
  split
  · next heq => exact absurd (congrArg Prod.fst heq) (by simp)
  · next heq =>
    cases heq
    exact absurd rfl hne
  · next heq =>
    cases heq
    cases u.tokens fuel <;> rfl

/-- The token that comes first, before those of the text after it. -/
theorem Scanner.tokens_of_scan {cs more rest : List Char} {c : Char} {t : Token}
    (skip : skipIgnored false cs = c :: more)
    (scan : ∀ position, scanToken position c more = (.ok t, rest)) (length fuel : Nat) :
    Scanner.tokens (fuel + 1) ⟨length, cs⟩ =
      (Scanner.tokens fuel ⟨length, rest⟩).map (t :: ·) := by
  refine Scanner.tokens_of_next ?_ (scanToken_ne_eof (scan 0)) fuel
  rw [Scanner.next, skip]
  dsimp only
  rw [scan]

theorem Scanner.tokens_eq_of_lexes {cs : List Char} {ts : List Token} (h : Lexes cs ts) :
    ∀ (length : Nat) {fuel : Nat}, cs.length < fuel →
      Scanner.tokens fuel ⟨length, cs⟩ = .ok ts := by
  induction h with
  | done skip =>
    intro length fuel hfuel
    obtain ⟨fuel, rfl⟩ := Nat.exists_eq_succ_of_ne_zero (Nat.ne_of_gt (Nat.zero_lt_of_lt hfuel))
    rw [Scanner.tokens, Scanner.next, skip]
  | @token cs more rest c t ts skip scan _ ih =>
    intro length fuel hfuel
    obtain ⟨fuel, rfl⟩ := Nat.exists_eq_succ_of_ne_zero (Nat.ne_of_gt (Nat.zero_lt_of_lt hfuel))
    have hshorter : rest.length < fuel :=
      Nat.lt_of_lt_of_le (length_lt_of_scan skip (scan 0)) (Nat.le_of_lt_succ hfuel)
    rw [Scanner.tokens_of_scan skip scan, ih length hshorter]
    rfl

theorem Scanner.lexes_of_tokens {fuel : Nat} : ∀ {length : Nat} {cs : List Char} {ts : List Token},
    cs.length < fuel → Scanner.tokens fuel ⟨length, cs⟩ = .ok ts → Lexes cs ts := by
  induction fuel with
  | zero => exact fun h _ => absurd h (Nat.not_lt_zero _)
  | succ fuel ih =>
    intro length cs ts hfuel h
    match hskip : skipIgnored false cs with
    | [] =>
      rw [Scanner.tokens, Scanner.next, hskip] at h
      cases h
      exact .done hskip
    | c :: more =>
      match hscan : scanToken (length - (more.length + 1)) c more with
      | (.error e, rest) =>
        rw [Scanner.tokens, Scanner.next, hskip] at h
        dsimp only at h
        rw [hscan] at h
        cases h
      | (.ok t, rest) =>
        have hshorter : rest.length < fuel :=
          Nat.lt_of_lt_of_le (length_lt_of_scan hskip hscan) (Nat.le_of_lt_succ hfuel)
        rw [Scanner.tokens_of_scan hskip (scanToken_position hscan)] at h
        obtain ⟨ts, hmore, rfl⟩ := Result.map_eq_ok.1 h
        exact .token hskip (scanToken_position hscan) (ih hshorter hmore)

/-- The tokens that are read from a text are the tokens of the text. -/
theorem listOfText_eq_ok {text : String} {ts : List Token} :
    Token.listOfText text = .ok ts ↔ Lexes text.toList ts :=
  ⟨Scanner.lexes_of_tokens (Nat.lt_succ_self _),
    fun h => Scanner.tokens_eq_of_lexes h _ (Nat.lt_succ_self _)⟩

/-! ### Texts of single tokens -/

/-- A text that is one token before another text. -/
structure Spells (cs : List Char) (t : Token) (rest : List Char) : Prop where
  starts : ∃ c more, cs = c :: more ∧ scanToken 0 c (more ++ rest) = (.ok t, rest)
  shows : skipIgnored false (cs ++ rest) = cs ++ rest

theorem Spells.cons {cs rest : List Char} {t : Token} {ts : List Token} (h : Spells cs t rest)
    (next : Lexes rest ts) : Lexes (cs ++ rest) (t :: ts) := by
  obtain ⟨c, more, rfl, hscan⟩ := h.starts
  exact .token h.shows (scanToken_position hscan) next

/-- A blank before the tokens is left out. -/
theorem Lexes.cons_blank {cs : List Char} {ts : List Token} {c : Char} (blank : isBlank c = true)
    (h : Lexes cs ts) : Lexes (c :: cs) ts := by
  have hskip : skipIgnored false (c :: cs) = skipIgnored false cs := by
    rw [skipIgnored, if_neg Bool.false_ne_true, if_pos blank]
  cases h with
  | done skip => exact .done (hskip.trans skip)
  | token skip scan next => exact .token (hskip.trans skip) scan next

end TableFilter
