import TableFilter.Proofs.Token.Recasing

/-!
# What a text is cut into

Taking off one token after the other cuts a text into spans: those of its tokens, and between them
blanks and comments. No character is passed over. Each span is a written form of its token, so what
the token does not keep of it are delimiters, the mark of base sixteen and the second of two quotes.

A comment that no line end closes goes on to the end of the text, so it may only stand after the
last token.

## Main definitions

* `Ignored`: runs of blanks and comments
* `Token.Written`: the written forms of tokens
* `Lexeme`: a token with its span and what is left out before it
* `Scanner.Advances`: what one step from a place comes to
* `Scanner.Reads`: lexemes that are read one after the other

## Main results

* `skipIgnored_ignored`: what is left out between tokens
* `scanToken_written`: what a token is read from
* `Scanner.next_advances`: the next token, the end or an error
* `Scanner.tokens_reads`: all tokens from a place on
* `spans_cover_text`: the spans of a text
-/

namespace TableFilter

open TableFilter.Text

/-! ### Between tokens -/

/-- A run of blanks and comments. A comment goes from two hyphens to the end of its line. If the run
is at the end of the text, its last comment may have no line end. -/
inductive Ignored : Bool → List Char → Prop
  | nil (atEnd : Bool) : Ignored atEnd []
  | blank {atEnd : Bool} {c : Char} {cs : List Char} : isBlank c = true → Ignored atEnd cs →
      Ignored atEnd (c :: cs)
  | comment {atEnd : Bool} {line cs : List Char} : '\n' ∉ line → Ignored atEnd cs →
      Ignored atEnd ('-' :: '-' :: line ++ '\n' :: cs)
  | lastComment {line : List Char} : '\n' ∉ line → Ignored true ('-' :: '-' :: line)

/-- A comment is left out up to the end of its line, or of the text if this is its last line. -/
theorem skipIgnored_line_cases (cs : List Char) :
    ('\n' ∉ cs ∧ skipIgnored true cs = []) ∨
      ∃ line more, cs = line ++ '\n' :: more ∧ '\n' ∉ line ∧
        skipIgnored true cs = skipIgnored false more := by
  induction cs with
  | nil => exact .inl ⟨List.not_mem_nil, rfl⟩
  | cons c cs ih =>
    by_cases hc : c = '\n'
    · exact .inr ⟨[], cs, by rw [hc, List.nil_append], List.not_mem_nil, by rw [hc]; rfl⟩
    · have hskip : skipIgnored true (c :: cs) = skipIgnored true cs := by
        rw [skipIgnored, if_pos rfl, bne_iff_ne.2 hc]
      have hcons {line : List Char} (hline : '\n' ∉ line) : '\n' ∉ c :: line := by
        rw [List.mem_cons, not_or]
        exact ⟨fun h => hc h.symm, hline⟩
      rcases ih with ⟨hcs, hnil⟩ | ⟨line, more, rfl, hline, hmore⟩
      · exact .inl ⟨hcons hcs, hskip.trans hnil⟩
      · exact .inr ⟨c :: line, more, rfl, hcons hline, hskip.trans hmore⟩

/-- What is left out before the next token is a run of blanks and comments, which may end in an open
comment only if nothing is left. -/
theorem skipIgnored_ignored (cs : List Char) :
    ∃ gap, cs = gap ++ skipIgnored false cs ∧ Ignored (skipIgnored false cs).isEmpty gap := by
  induction hlength : cs.length using Nat.strong_induction_on generalizing cs with
  | _ n ih =>
    subst hlength
    cases cs with
    | nil => exact ⟨[], rfl, .nil _⟩
    | cons c cs =>
      rw [skipIgnored, if_neg Bool.false_ne_true]
      split
      · next hblank =>
        obtain ⟨gap, hgap, hignored⟩ := ih cs.length (by simp) cs rfl
        exact ⟨c :: gap, by rw [List.cons_append, ← hgap], .blank hblank hignored⟩
      · split
        · next hcomment =>
          rw [Bool.and_eq_true, beq_iff_eq, beq_iff_eq, List.head?_eq_some_iff] at hcomment
          obtain ⟨rfl, cs, rfl⟩ := hcomment
          have hhyphen : skipIgnored true ('-' :: cs) = skipIgnored true cs := rfl
          rw [hhyphen]
          rcases skipIgnored_line_cases cs with ⟨hcs, hnil⟩ | ⟨line, more, rfl, hline, hmore⟩
          · rw [hnil]
            exact ⟨'-' :: '-' :: cs, (List.append_nil _).symm, .lastComment hcs⟩
          · rw [hmore]
            obtain ⟨gap, hgap, hignored⟩ := ih more.length (by simp; omega) more rfl
            refine ⟨'-' :: '-' :: line ++ '\n' :: gap, ?_, .comment hline hignored⟩
            simp only [List.cons_append, List.append_assoc, ← hgap]
        · exact ⟨[], rfl, .nil _⟩

/-! ### Written forms -/

/-- How a sign may be written. Two signs have a second form. -/
def Symbol.spellings : Symbol → List String
  | .equal => ["=", "=="]
  | .notEqual => ["<>", "!="]
  | s => [s.text]

/-- An exponent as it may be written: nothing, or its mark and digits with an optional sign. -/
inductive IsWrittenExponent : List Char → Prop
  | none : IsWrittenExponent []
  | power {mark : Char} {sign digits : List Char} : mark ∈ ['e', 'E'] →
      sign ∈ [[], ['+'], ['-']] → IsDigits digits → IsWrittenExponent (mark :: (sign ++ digits))

/-- The written forms of tokens. -/
inductive Token.Written : Token → List Char → Prop
  | symbol {s : Symbol} {spelling : String} : spelling ∈ s.spellings →
      Written (.symbol s) spelling.toList
  /-- A name or a keyword. -/
  | word {word : List Char} : IsWord word → Written (wordToken word) word
  | measurementKey {word digits : List Char} : IsWord word → IsDigits digits →
      Written (.measurementKey (String.ofList (word ++ ':' :: digits))) (word ++ ':' :: digits)
  | integer {digits : List Char} : IsDigits digits →
      Written (.integer (String.ofList digits)) digits
  | hex {mark : Char} {digits : List Char} : mark ∈ ['x', 'X'] → digits ≠ [] →
      (∀ c ∈ digits, isHexDigit c = true) →
      Written (.hex (String.ofList digits)) ('0' :: mark :: digits)
  /-- Digits with a fraction or an exponent, whose mark the token has in lower case. -/
  | real {whole fraction exponent : List Char} : (∀ c ∈ whole, isDigit c = true) →
      IsFraction fraction → IsWrittenExponent exponent → ¬(fraction = [] ∧ exponent = []) →
      ¬(whole = [] ∧ fraction = []) →
      Written (.real (String.ofList (asciiLower (whole ++ fraction ++ exponent))))
        (whole ++ fraction ++ exponent)
  | bareGuid {text : List Char} : Guid.isHyphenated text = true →
      Written (.guid (String.ofList text)) text
  | bracedGuid {text : List Char} : '\x7d' ∉ text →
      Written (.guid (String.ofList text)) ('\x7b' :: text ++ ['\x7d'])
  /-- A text, or an identifier if the text stands for one. -/
  | quoted (text : List Char) :
      Written (stringToken text) (Value.enclosed '\'' (Value.doubleQuotes text))
  | pointTag {text : List Char} : '"' ∉ text →
      Written (.pointTag (String.ofList text)) (Value.enclosed '"' text)
  | dateTime {text : List Char} : '#' ∉ text →
      Written (.dateTime (String.ofList text)) (Value.enclosed '#' text)

section Written

variable {position : Nat} {c : Char} {cs text rest span : List Char} {t : Token}

theorem Token.Written.ne_nil (h : t.Written span) : span ≠ [] := by
  cases h with
  | @symbol s spelling hs =>
    have hnonempty : ∀ spelling ∈ s.spellings, spelling.toList ≠ [] := by
      cases s <;> decide
    exact hnonempty spelling hs
  | word h =>
    obtain ⟨-, c, hc, -⟩ := h
    rintro rfl
    cases hc
  | integer h => exact h.1
  | real _ _ _ hreal hpoint =>
    intro hnil
    obtain ⟨hwhole, -⟩ := List.append_eq_nil_iff.1 hnil
    exact hpoint (List.append_eq_nil_iff.1 hwhole)
  | bareGuid h =>
    rintro rfl
    cases h
  | measurementKey | hex | bracedGuid | quoted | pointTag | dateTime => simp [Value.enclosed]

theorem Token.Written.ne_eof (h : t.Written span) : t ≠ .eof := by
  cases h with
  | @word word =>
    unfold wordToken
    split <;> exact Token.noConfusion
  | quoted text => exact stringToken_ne_eof text
  | _ => exact Token.noConfusion

/-! ### Signs and words -/

theorem scanSymbol?_written {s : Symbol} (h : scanSymbol? cs = some (s, rest)) :
    ∃ spelling ∈ s.spellings, cs = spelling.toList ++ rest := by
  unfold scanSymbol? at h
  split at h <;> cases h
  all_goals
    first
    | exact ⟨_, .head _, rfl⟩
    | exact ⟨_, .tail _ (.head _), rfl⟩

theorem scanWord_written (hc : startsWord c = true) (h : scanWord (c :: cs) = (t, rest)) :
    ∃ span, c :: cs = span ++ rest ∧ t.Written span := by
  have hsplit := List.takeWhile_append_dropWhile (p := isWordChar) (l := c :: cs)
  have hword : IsWord ((c :: cs).takeWhile isWordChar) := by
    refine ⟨fun d hd => List.all_eq_true.1 List.all_takeWhile d hd, c, ?_, hc⟩
    rw [List.takeWhile_cons_of_pos (startsWord_isWordChar hc)]
    rfl
  by_cases hcolon : ∃ more, (c :: cs).dropWhile isWordChar = ':' :: more
  · obtain ⟨more, hmore⟩ := hcolon
    rw [scanWord_of_colon hmore] at h
    rw [hmore] at hsplit
    split at h <;> cases h
    · exact ⟨_, hsplit.symm, .word hword⟩
    · next hdigits =>
      refine ⟨_, ?_, .measurementKey hword ⟨?_, fun d hd => ?_⟩⟩
      · rw [List.append_assoc, List.cons_append, List.takeWhile_append_dropWhile, hsplit]
      · exact fun hnil => hdigits (List.isEmpty_iff.2 hnil)
      · exact List.all_eq_true.1 List.all_takeWhile d hd
  · rw [scanWord_of_ne (not_exists.1 hcolon)] at h
    cases h
    exact ⟨_, hsplit.symm, .word hword⟩

/-! ### Numbers -/

/-- Digits stay as they are in lower case. -/
theorem asciiLower_digits {digits : List Char} (h : ∀ c ∈ digits, isDigit c = true) :
    asciiLower digits = digits := by
  have hall : (digits ++ []).takeWhile isDigit = digits := takeWhile_append_stop h nofun
  rw [List.append_nil] at hall
  rw [← hall, asciiLower_takeWhile_isDigit]

theorem isDigits_takeWhile (h : ¬(cs.takeWhile isDigit).isEmpty) :
    IsDigits (cs.takeWhile isDigit) :=
  ⟨fun hnil => h (List.isEmpty_iff.2 hnil), fun c hc => List.all_eq_true.1 List.all_takeWhile c hc⟩

theorem scanFraction_written (cs : List Char) :
    cs = (scanFraction cs).1 ++ (scanFraction cs).2 ∧ IsFraction (scanFraction cs).1 := by
  unfold scanFraction
  split
  · dsimp only
    split
    · exact ⟨rfl, .none⟩
    · next hdigits =>
      refine ⟨?_, .places (isDigits_takeWhile hdigits)⟩
      rw [List.cons_append, List.takeWhile_append_dropWhile]
  · exact ⟨rfl, .none⟩

theorem IsFraction.asciiLower_eq {fraction : List Char} (h : IsFraction fraction) :
    asciiLower fraction = fraction := by
  cases h with
  | none => rfl
  | places hdigits => exact congrArg ('.' :: ·) (asciiLower_digits hdigits.2)

theorem scanExponent_written (cs : List Char) :
    ∃ span, cs = span ++ (scanExponent cs).2 ∧ IsWrittenExponent span ∧
      (scanExponent cs).1 = asciiLower span := by
  unfold scanExponent
  split
  · next mark more =>
    split
    · next hmark =>
      extract_lets sign unsigned digits
      split
      · exact ⟨[], rfl, .none, rfl⟩
      · next hdigits =>
        have hsign : sign ∈ [[], ['+'], ['-']] ∧ more = sign ++ unsigned := by
          simp only [sign, unsigned]
          split <;> simp
        have hmark : mark ∈ ['e', 'E'] := by simpa using hmark
        have hnumber := isDigits_takeWhile hdigits
        refine ⟨mark :: (sign ++ digits), ?_, .power hmark hsign.1 hnumber, ?_⟩
        · dsimp only
          rw [List.cons_append, List.append_assoc, List.takeWhile_append_dropWhile, ← hsign.2]
        · have lowerMark : ∀ mark ∈ ['e', 'E'], asciiLowerChar mark = 'e' := by
            simp only [List.forall_mem_cons]
            exact ⟨rfl, rfl, nofun⟩
          have lowerSign : ∀ sign ∈ [[], ['+'], ['-']], asciiLower sign = sign := by
            simp only [List.forall_mem_cons]
            exact ⟨rfl, rfl, rfl, nofun⟩
          rw [asciiLower_cons, asciiLower_append, asciiLower_digits hnumber.2, lowerMark _ hmark,
            lowerSign _ hsign.1]
    · exact ⟨[], rfl, .none, rfl⟩
  · exact ⟨[], rfl, .none, rfl⟩

theorem scanFraction_point_ne_nil (h : cs.head?.any isDigit = true) :
    (scanFraction ('.' :: cs)).1 ≠ [] := by
  cases cs with
  | nil => cases h
  | cons d more =>
    have hd : isDigit d = true := h
    rw [scanFraction, List.takeWhile_cons_of_pos hd]
    exact List.cons_ne_nil _ _

/-- Digits with a fraction and an exponent are a written form of a number. -/
theorem numberToken_written {whole fraction exponent : List Char}
    (hdigits : ∀ d ∈ whole, isDigit d = true) (isFraction : IsFraction fraction)
    (isExponent : IsWrittenExponent exponent) (hpoint : ¬(whole = [] ∧ fraction = [])) :
    (numberToken whole fraction (asciiLower exponent)).Written (whole ++ fraction ++ exponent) := by
  unfold numberToken
  split
  · next hempty =>
    rw [isEmpty_asciiLower, Bool.and_eq_true, List.isEmpty_iff, List.isEmpty_iff] at hempty
    obtain ⟨rfl, rfl⟩ := hempty
    rw [List.append_nil, List.append_nil]
    exact .integer ⟨fun hnil => hpoint ⟨hnil, rfl⟩, hdigits⟩
  · next hempty =>
    rw [isEmpty_asciiLower, Bool.and_eq_true, List.isEmpty_iff, List.isEmpty_iff] at hempty
    have hreal := Token.Written.real hdigits isFraction isExponent hempty hpoint
    rwa [asciiLower_append, asciiLower_append, asciiLower_digits hdigits,
      isFraction.asciiLower_eq] at hreal

theorem scanNumber_of_not_hex {cs : List Char} (h : scanHex? cs = none) :
    scanNumber cs =
      (numberToken (cs.takeWhile isDigit) (scanFraction (cs.dropWhile isDigit)).1
        (scanExponent (scanFraction (cs.dropWhile isDigit)).2).1,
        (scanExponent (scanFraction (cs.dropWhile isDigit)).2).2) := by
  rw [scanNumber, h]
  unfold numberToken
  dsimp only
  split <;> rfl

/-- A number is read from digits of base sixteen after their mark, or from digits with a fraction
and an exponent. -/
theorem scanNumber_written (hc : isDigit c = true ∨ c = '.' ∧ cs.head?.any isDigit = true)
    (h : scanNumber (c :: cs) = (t, rest)) : ∃ span, c :: cs = span ++ rest ∧ t.Written span := by
  cases hhex : scanHex? (c :: cs) with
  | some found =>
    rw [scanNumber, hhex] at h
    cases h
    obtain ⟨mark, hmark, heq, hne, hdigits⟩ := scanHex?_eq_some hhex
    exact ⟨'0' :: mark :: found.1, heq, .hex hmark hne hdigits⟩
  | none =>
    rw [scanNumber_of_not_hex hhex] at h
    obtain ⟨rfl, rfl⟩ := Prod.mk.inj h
    obtain ⟨hfraction, isFraction⟩ := scanFraction_written ((c :: cs).dropWhile isDigit)
    obtain ⟨span, hexponent, isExponent, hlower⟩ :=
      scanExponent_written (scanFraction ((c :: cs).dropWhile isDigit)).2
    rw [hlower]
    refine ⟨_, ?_, numberToken_written ?_ isFraction isExponent ?_⟩
    · rw [List.append_assoc, ← hexponent, List.append_assoc, ← hfraction,
        List.takeWhile_append_dropWhile]
    · exact fun d hd => List.all_eq_true.1 List.all_takeWhile d hd
    · -- A point that no digit comes before starts a fraction.
      rintro ⟨hnone, hnofraction⟩
      rcases hc with hc | ⟨rfl, hnext⟩
      · rw [List.takeWhile_cons_of_pos hc] at hnone
        cases hnone
      · rw [List.dropWhile_cons_of_neg (by decide)] at hnofraction
        exact scanFraction_point_ne_nil hnext hnofraction

/-! ### Tokens -/

theorem scanDelimited_written {part : Delimited} {delimiter : Char} {token : List Char → Token}
    (h : scanDelimited part position (takeUntil? delimiter cs) token = (.ok t, rest)) :
    ∃ text, cs = text ++ delimiter :: rest ∧ delimiter ∉ text ∧ t = token text := by
  obtain ⟨text, htext, rfl⟩ := scanDelimited_ok h
  obtain ⟨heq, hnot⟩ := takeUntil?_eq_some htext
  exact ⟨text, heq, hnot, rfl⟩

/-- What a token is read from is a written form of it, and nothing after it is passed over. -/
theorem scanToken_written (h : scanToken position c cs = (.ok t, rest)) :
    ∃ span, c :: cs = span ++ rest ∧ t.Written span := by
  unfold scanToken at h
  split at h
  · next hguid =>
    cases h
    simp only [startsWithGuid, Bool.and_eq_true] at hguid
    exact ⟨_, (List.take_append_drop _ _).symm, .bareGuid hguid.2.1⟩
  · split at h
    · next hsymbol =>
      cases h
      obtain ⟨spelling, hspelling, heq⟩ := scanSymbol?_written hsymbol
      exact ⟨_, heq, .symbol hspelling⟩
    · split_ifs at h with hstring htag hdate hbrace hnumber hword
      · obtain ⟨text, htext, rfl⟩ := scanDelimited_ok h
        rw [beq_iff_eq.1 hstring, takeQuoted?_eq_some htext]
        exact ⟨_, by simp [Value.enclosed], .quoted text⟩
      · obtain ⟨text, rfl, hnot, rfl⟩ := scanDelimited_written h
        rw [beq_iff_eq.1 htag]
        exact ⟨_, by simp [Value.enclosed], .pointTag hnot⟩
      · obtain ⟨text, rfl, hnot, rfl⟩ := scanDelimited_written h
        rw [beq_iff_eq.1 hdate]
        exact ⟨_, by simp [Value.enclosed], .dateTime hnot⟩
      · obtain ⟨text, rfl, hnot, rfl⟩ := scanDelimited_written h
        rw [beq_iff_eq.1 hbrace]
        exact ⟨_, by simp, .bracedGuid hnot⟩
      · cases h
        simp only [Bool.or_eq_true, Bool.and_eq_true, beq_iff_eq] at hnumber
        exact scanNumber_written hnumber rfl
      · cases h
        exact scanWord_written hword rfl
      · cases h

theorem scanDelimited_error {part : Delimited} {taken : Option (List Char × List Char)}
    {token : List Char → Token} {e : Error}
    (h : scanDelimited part position taken token = (.error e, rest)) :
    e = .malformed (.unterminated part position) ∧ rest = [] := by
  unfold scanDelimited at h
  split at h <;> cases h
  exact ⟨rfl, rfl⟩

/-- An error in a token is one of malformed text, and leaves an end of the text. -/
theorem scanToken_error {e : Error} (h : scanToken position c cs = (.error e, rest)) :
    (∃ cause, e = .malformed cause) ∧ rest <:+ c :: cs := by
  unfold scanToken at h
  split at h
  · cases h
  · split at h
    · cases h
    · split_ifs at h
      case neg =>
        cases h
        exact ⟨⟨_, rfl⟩, List.suffix_rfl⟩
      all_goals
        first
        | cases h
        | obtain ⟨rfl, rfl⟩ := scanDelimited_error h
          exact ⟨⟨_, rfl⟩, List.nil_suffix⟩

end Written

/-! ### Single steps -/

/-- A token with the span that it is read from, and the blanks and comments before it. -/
structure Lexeme where
  gap : List Char
  span : List Char
  token : Token
  ignored : Ignored false gap
  written : token.Written span

namespace Lexeme

/-- What a lexeme takes off a text. -/
def text (l : Lexeme) : List Char := l.gap ++ l.span

theorem span_ne_nil (l : Lexeme) : l.span ≠ [] := l.written.ne_nil

theorem token_ne_eof (l : Lexeme) : l.token ≠ .eof := l.written.ne_eof

theorem length_lt (l : Lexeme) (rest : List Char) : rest.length < (l.text ++ rest).length := by
  have hspan := List.length_pos_iff.2 l.span_ne_nil
  rw [text, List.length_append, List.length_append]
  omega

end Lexeme

namespace Scanner

/-- What one step from a place comes to: the end of the text, where no more than blanks and comments
are left; a token, which some of the text is taken off for; or an error, which may use up text but
does not go back in it. -/
inductive Advances (s : Scanner) : Result Token × Scanner → Prop
  | eof : Ignored true s.rest → Advances s (.ok .eof, { s with rest := [] })
  | token (l : Lexeme) {rest : List Char} : s.rest = l.text ++ rest →
      rest.length < s.rest.length → Advances s (.ok l.token, { s with rest })
  | error (cause : Malformed) {rest : List Char} : rest <:+ s.rest →
      Advances s (.error (.malformed cause), { s with rest })

theorem next_advances (s : Scanner) : s.Advances s.next := by
  obtain ⟨gap, hgap, hignored⟩ := skipIgnored_ignored s.rest
  unfold next
  split
  · next hskip =>
    rw [hskip, List.append_nil] at hgap
    rw [hskip] at hignored
    exact .eof (hgap ▸ hignored)
  · next c cs hskip =>
    rw [hskip] at hgap hignored
    dsimp only
    match hscan : scanToken (s.length - (cs.length + 1)) c cs with
    | (.ok t, rest) =>
      obtain ⟨span, hspan, hwritten⟩ := scanToken_written hscan
      rw [hspan] at hgap
      let l : Lexeme := ⟨gap, span, t, hignored, hwritten⟩
      have htext : s.rest = l.text ++ rest := by rw [hgap, Lexeme.text, List.append_assoc]
      exact .token l htext (htext ▸ l.length_lt rest)
    | (.error e, rest) =>
      obtain ⟨⟨cause, rfl⟩, hsuffix⟩ := scanToken_error hscan
      exact .error cause (hsuffix.trans (hgap ▸ List.suffix_append _ _))

/-! ### Whole texts -/

/-- Lexemes that are read one after the other, from one place to another. -/
inductive Reads : Scanner → List Lexeme → Scanner → Prop
  | nil (s : Scanner) : Reads s [] s
  | cons {s u v : Scanner} {l : Lexeme} {ls : List Lexeme} : s.next = (.ok l.token, u) →
      s.rest = l.text ++ u.rest → Reads u ls v → Reads s (l :: ls) v

variable {s u : Scanner} {ls : List Lexeme}

/-- The text before a place is that of the lexemes that are read up to it. -/
theorem Reads.rest_eq (h : s.Reads ls u) : s.rest = ls.flatMap Lexeme.text ++ u.rest := by
  induction h with
  | nil => rfl
  | cons _ hrest _ ih => rw [hrest, ih, List.flatMap_cons, List.append_assoc]

theorem Reads.length_eq (h : s.Reads ls u) : u.length = s.length := by
  induction h with
  | nil => rfl
  | @cons s u v l ls hnext _ _ ih =>
    have hlength : s.next.2.length = s.length := by
      unfold next
      split <;> rfl
    rw [ih, ← hlength, hnext]

/-- From each place lexemes are read up to the end of the text or to the first error. -/
theorem tokens_reads {fuel : Nat} (h : s.rest.length < fuel) :
    ∃ ls u, s.Reads ls u ∧
      ((u.next.1 = .ok .eof ∧ Ignored true u.rest ∧
          s.tokens fuel = .ok (ls.map Lexeme.token ++ [.eof])) ∨
        ∃ cause, u.next.1 = .error (.malformed cause) ∧
          s.tokens fuel = .error (.malformed cause)) := by
  induction fuel generalizing s with
  | zero => exact absurd h (Nat.not_lt_zero _)
  | succ fuel ih =>
    have hstep := next_advances s
    generalize hnext : s.next = step at hstep
    cases hstep with
    | eof hignored =>
      exact ⟨[], s, .nil s, .inl ⟨by rw [hnext], hignored, by rw [tokens, hnext]; rfl⟩⟩
    | error cause => exact ⟨[], s, .nil s, .inr ⟨cause, by rw [hnext], by rw [tokens, hnext]⟩⟩
    | @token l rest hrest hlt =>
      obtain ⟨ls, u, hreads, hend⟩ := ih (s := { s with rest }) (by dsimp only; omega)
      refine ⟨l :: ls, u, .cons hnext hrest hreads, ?_⟩
      rw [tokens_of_next hnext l.token_ne_eof]
      rcases hend with ⟨heof, hignored, htokens⟩ | ⟨cause, hcause, herror⟩
      · exact .inl ⟨heof, hignored, by rw [htokens]; rfl⟩
      · exact .inr ⟨cause, hcause, by rw [herror]; rfl⟩

end Scanner

/-- **No text is lost.** Reading a text ends with an error of malformed text, that of the first
place where no token can be read, or with tokens of which just the last one is the end. Then the
text is what is left out and taken for one token after the other, and what is left out after them,
and each token takes some of it. A step from any place comes to the end of the text, or reads a
token and goes ahead, or is such an error and does not go back. -/
theorem spans_cover_text :
    (∀ text : String,
      (∃ ls u cause, (Scanner.ofText text).Reads ls u ∧ u.next.1 = .error (.malformed cause) ∧
        Token.listOfText text = .error (.malformed cause)) ∨
      ∃ ls last, (Scanner.ofText text).Reads ls ⟨text.toList.length, last⟩ ∧
        Token.listOfText text = .ok (ls.map Lexeme.token ++ [.eof]) ∧
        text.toList = ls.flatMap Lexeme.text ++ last ∧ Ignored true last ∧
        ∀ l ∈ ls, l.token ≠ .eof ∧ l.span ≠ []) ∧
    ∀ s : Scanner, s.Advances s.next := by
  refine ⟨fun text => ?_, Scanner.next_advances⟩
  obtain ⟨ls, u, hreads, hend⟩ := (Scanner.ofText text).tokens_reads (Nat.lt_succ_self _)
  rcases hend with ⟨-, hignored, htokens⟩ | ⟨cause, hcause, herror⟩
  · have hlength : u.length = text.toList.length := hreads.length_eq
    have hu : u = ⟨text.toList.length, u.rest⟩ := by rw [← hlength]
    refine .inr ⟨ls, u.rest, hu ▸ hreads, htokens, hreads.rest_eq, hignored, fun l _ => ?_⟩
    exact ⟨l.token_ne_eof, l.span_ne_nil⟩
  · exact .inl ⟨ls, u, cause, hreads, hcause, herror⟩

end TableFilter
