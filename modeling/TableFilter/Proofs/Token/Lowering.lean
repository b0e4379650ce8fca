import TableFilter.Proofs.Text.LowerCase
import TableFilter.Proofs.Token.Joining

/-!
# Scanning lower text

Scanning the lower form of a text gives the tokens of the text with their letters made small. Each
class of characters that the scanner looks at holds a letter in both of its cases or in neither, and
so does each pair of letters that mark an exponent or a number of base sixteen.

## Main definitions

* `lowerName`: a name with its ASCII letters made small
* `Token.lowered`: a token with the letters of its text made small

## Main results

* `skipIgnored_asciiLower`: what is left out before a token
* `Guid.ofText?_asciiLower`: identifiers are read in any case
* `scanToken_asciiLower`: the token that starts with a character
-/

namespace TableFilter

open TableFilter.Text

/-! ### Words and keywords -/

@[simp] theorem isWordChar_asciiLowerChar (c : Char) :
    isWordChar (asciiLowerChar c) = isWordChar c := by
  rw [isWordChar, isWordChar, isLetterOrNumeral, isLetterOrNumeral, isLetter_asciiLowerChar,
    isNumeral_asciiLowerChar, beq_asciiLowerChar (by decide)]

theorem startsWord_asciiLowerChar (c : Char) : startsWord (asciiLowerChar c) = startsWord c := by
  rw [startsWord, startsWord, isLetter_asciiLowerChar, beq_asciiLowerChar (by decide)]

theorem Keyword.ofName?_asciiLower (word : List Char) :
    Keyword.ofName? (asciiLower word) = Keyword.ofName? word := by
  rw [ofName?, ofName?, upper_asciiLower]

/-! ### Identifiers -/

namespace Guid

theorem isHyphenatedFrom_asciiLower (cs : List Char) :
    ∀ offset, isHyphenatedFrom offset (asciiLower cs) = isHyphenatedFrom offset cs := by
  induction cs with
  | nil => exact fun _ => rfl
  | cons c cs ih =>
    intro offset
    rw [asciiLower_cons, isHyphenatedFrom, isHyphenatedFrom, ih, beq_asciiLowerChar (by decide),
      isHexDigit_asciiLowerChar]

theorem isHyphenated_asciiLower (cs : List Char) :
    isHyphenated (asciiLower cs) = isHyphenated cs := by
  rw [isHyphenated, isHyphenated, length_asciiLower, isHyphenatedFrom_asciiLower]

theorem unwrap_asciiLower {first last : Char} (hfirst : isAsciiLetter first = false)
    (hlast : isAsciiLetter last = false) (cs : List Char) :
    unwrap first last (asciiLower cs) = asciiLower (unwrap first last cs) := by
  cases cs with
  | nil => rfl
  | cons c cs =>
    have hend : ((asciiLower cs).getLast? == some last) = (cs.getLast? == some last) := by
      rw [asciiLower, List.getLast?_map]
      cases cs.getLast? with
      | none => rfl
      | some d => simpa using beq_asciiLowerChar hlast d
    rw [asciiLower_cons, unwrap, unwrap, beq_asciiLowerChar hfirst, hend]
    split
    · exact List.map_dropLast.symm
    · rfl

/-- Identifiers are read in any case. -/
theorem ofText?_asciiLower (cs : List Char) : ofText? (asciiLower cs) = ofText? cs := by
  have digits (cs : List Char) : natOfHex ((asciiLower cs).filter fun c => c != '-') =
      natOfHex (cs.filter fun c => c != '-') := by
    have hyphen : (fun c => c != '-') ∘ asciiLowerChar = fun c => c != '-' :=
      funext fun c => congrArg (!·) (beq_asciiLowerChar (by decide) c)
    rw [asciiLower, List.filter_map, hyphen, natOfHex, natOfHex, List.foldl_map]
    simp only [hexValue_asciiLowerChar]
  unfold ofText?
  dsimp only
  rw [trim_asciiLower, unwrap_asciiLower (by decide) (by decide),
    unwrap_asciiLower (by decide) (by decide), isHyphenated_asciiLower, digits]

end Guid

theorem startsWithGuid_asciiLower (cs : List Char) :
    startsWithGuid (asciiLower cs) = startsWithGuid cs := by
  rw [startsWithGuid, startsWithGuid, take_asciiLower, drop_asciiLower,
    Guid.isHyphenated_asciiLower, any_head?_asciiLower isWordChar_asciiLowerChar]

/-! ### Between tokens, signs and delimited texts -/

theorem skipIgnored_asciiLower (inComment : Bool) (cs : List Char) :
    skipIgnored inComment (asciiLower cs) = asciiLower (skipIgnored inComment cs) := by
  fun_induction skipIgnored inComment cs with
  | case1 => rfl
  | case2 c cs ih =>
    have hend : (asciiLowerChar c != '\n') = (c != '\n') :=
      congrArg (!·) (beq_asciiLowerChar (by decide) c)
    rw [asciiLower_cons, skipIgnored, if_pos rfl, hend, ih]
  | case3 inComment c cs hcomment hblank ih =>
    rw [asciiLower_cons, skipIgnored, if_neg hcomment, isBlank_asciiLowerChar, if_pos hblank, ih]
  | case4 inComment c cs hcomment hblank hstart ih =>
    rw [asciiLower_cons, skipIgnored, if_neg hcomment, isBlank_asciiLowerChar, if_neg hblank,
      beq_asciiLowerChar (by decide), head?_asciiLower (by decide), if_pos hstart, ih]
  | case5 inComment c cs hcomment hblank hstart =>
    rw [asciiLower_cons, skipIgnored, if_neg hcomment, isBlank_asciiLowerChar, if_neg hblank,
      beq_asciiLowerChar (by decide), head?_asciiLower (by decide), if_neg hstart]

/-- No sign has a letter in it. -/
theorem scanSymbol?_eq_some_asciiLower {cs rest : List Char} {s : Symbol}
    (h : scanSymbol? cs = some (s, rest)) :
    scanSymbol? (asciiLower cs) = some (s, asciiLower rest) := by
  unfold scanSymbol? at h
  split at h <;> cases h
  all_goals simp (disch := decide) only [asciiLower_cons, asciiLowerChar_eq_self]
  case h_2.refl hequal | h_5.refl hequal =>
    rw [scanSymbol?]
    exact asciiLower_ne_cons (by decide) hequal
  case h_3.refl _ hequal | h_6.refl _ hequal =>
    rw [scanSymbol?]
    · exact fun more => asciiLower_ne_cons (by decide) hequal _
    · exact asciiLower_ne_cons (by decide) hequal
  case h_10.refl hequal hless hgreater =>
    rw [scanSymbol?]
    · exact asciiLower_ne_cons (by decide) hequal
    · exact asciiLower_ne_cons (by decide) hless
    · exact asciiLower_ne_cons (by decide) hgreater
  case h_13.refl hequal hgreater =>
    rw [scanSymbol?]
    · exact asciiLower_ne_cons (by decide) hequal
    · exact asciiLower_ne_cons (by decide) hgreater
  case h_15.refl hsame | h_17.refl hsame =>
    rw [scanSymbol?]
    exact asciiLower_ne_cons (by decide) hsame
  all_goals rfl

theorem scanSymbol?_asciiLower (c : Char) (cs : List Char) :
    scanSymbol? (asciiLowerChar c :: asciiLower cs) =
      (scanSymbol? (c :: cs)).map fun found => (found.1, asciiLower found.2) := by
  cases h : scanSymbol? (c :: cs) with
  | some found => exact scanSymbol?_eq_some_asciiLower h
  | none =>
    have letters : (symbolStarts.all fun d => !isAsciiLetter d) = true := by decide
    refine scanSymbol?_eq_none (fun hmem => notMem_symbolStarts h ?_) _
    have hletter : isAsciiLetter (asciiLowerChar c) = false := by
      simpa using List.all_eq_true.1 letters _ hmem
    rwa [← (asciiLowerChar_eq_iff hletter).1 rfl] at hmem

theorem takeUntil?_asciiLower {delimiter : Char} (h : isAsciiLetter delimiter = false)
    (cs : List Char) : takeUntil? delimiter (asciiLower cs) =
      (takeUntil? delimiter cs).map fun found => (asciiLower found.1, asciiLower found.2) := by
  induction cs with
  | nil => rfl
  | cons c cs ih =>
    rw [asciiLower_cons, takeUntil?, takeUntil?, beq_asciiLowerChar h, ih]
    split
    · rfl
    · cases takeUntil? delimiter cs <;> rfl

theorem takeQuoted?_asciiLower (cs : List Char) : takeQuoted? (asciiLower cs) =
    (takeQuoted? cs).map fun found => (asciiLower found.1, asciiLower found.2) := by
  have hquote : isAsciiLetter '\'' = false := by decide
  fun_induction takeQuoted? cs with
  | case1 => rfl
  | case2 cs ih =>
    rw [asciiLower_cons, asciiLower_cons, asciiLowerChar_eq_self (by decide), takeQuoted?, ih]
    cases takeQuoted? cs <;> rfl
  | case3 c cs hquotes hc =>
    obtain rfl := beq_iff_eq.1 hc
    rw [asciiLower_cons, asciiLowerChar_eq_self (by decide), takeQuoted?,
      if_pos (beq_self_eq_true _)]
    · rfl
    · exact fun more _ => asciiLower_ne_cons hquote (fun more => hquotes more rfl) more
  | case4 c cs hquotes hc ih =>
    have hc' : ¬(asciiLowerChar c == '\'') = true := by rwa [beq_asciiLowerChar hquote]
    rw [asciiLower_cons, takeQuoted?, if_neg hc', ih]
    · cases takeQuoted? cs <;> rfl
    · exact fun more heq => absurd (beq_iff_eq.2 heq) hc'

/-! ### Tokens -/

/-- A name with its ASCII letters made small. -/
def lowerName (name : String) : String := String.ofList (asciiLower name.toList)

/-- A token with the letters of its text made small. A keyword, a sign and a number of base ten have
none of their own. -/
def Token.lowered : Token → Token
  | .identifier name => .identifier (lowerName name)
  | .hex digits => .hex (lowerName digits)
  | .string text => .string (lowerName text)
  | .dateTime text => .dateTime (lowerName text)
  | .guid text => .guid (lowerName text)
  | .measurementKey text => .measurementKey (lowerName text)
  | .pointTag text => .pointTag (lowerName text)
  | t => t

theorem lowerName_ofList (cs : List Char) :
    lowerName (String.ofList cs) = String.ofList (asciiLower cs) := by
  rw [lowerName, String.toList_ofList]

theorem stringToken_asciiLower (text : List Char) :
    stringToken (asciiLower text) = (stringToken text).lowered := by
  rw [stringToken, stringToken, Guid.ofText?_asciiLower]
  split <;> simp only [Token.lowered, lowerName_ofList]

theorem wordToken_asciiLower (word : List Char) :
    wordToken (asciiLower word) = (wordToken word).lowered := by
  rw [wordToken, wordToken, Keyword.ofName?_asciiLower]
  split <;> simp only [Token.lowered, lowerName_ofList]

/-- A word with a colon after it. -/
theorem scanWord_of_colon {cs more : List Char} (h : cs.dropWhile isWordChar = ':' :: more) :
    scanWord cs =
      if (more.takeWhile isDigit).isEmpty then
        (wordToken (cs.takeWhile isWordChar), ':' :: more)
      else
        (.measurementKey (String.ofList (cs.takeWhile isWordChar ++ ':' :: more.takeWhile isDigit)),
          more.dropWhile isDigit) := by
  rw [scanWord, h]
  rfl

/-- A word with something else after it. -/
theorem scanWord_of_ne {cs : List Char}
    (h : ∀ more, cs.dropWhile isWordChar = ':' :: more → False) :
    scanWord cs = (wordToken (cs.takeWhile isWordChar), cs.dropWhile isWordChar) := by
  unfold scanWord
  dsimp only
  split
  · next more heq => exact absurd heq (h more)
  · rfl

theorem scanWord_asciiLower (cs : List Char) :
    scanWord (asciiLower cs) = ((scanWord cs).1.lowered, asciiLower (scanWord cs).2) := by
  have htake := takeWhile_asciiLower isWordChar_asciiLowerChar cs
  have hdrop := dropWhile_asciiLower isWordChar_asciiLowerChar cs
  by_cases hcolon : ∃ more, cs.dropWhile isWordChar = ':' :: more
  · obtain ⟨more, hmore⟩ := hcolon
    have hlower : (asciiLower cs).dropWhile isWordChar = ':' :: asciiLower more := by
      rw [hdrop, hmore]
      rfl
    rw [scanWord_of_colon hmore, scanWord_of_colon hlower, htake,
      takeWhile_asciiLower isDigit_asciiLowerChar, dropWhile_asciiLower isDigit_asciiLowerChar,
      asciiLower_takeWhile_isDigit]
    split
    · rw [wordToken_asciiLower]
      rfl
    · rw [Token.lowered, lowerName_ofList, asciiLower_append, asciiLower_cons,
        asciiLower_takeWhile_isDigit]
      rfl
  · rw [not_exists] at hcolon
    have hlower : ∀ more, (asciiLower cs).dropWhile isWordChar = ':' :: more → False := by
      rw [hdrop]
      exact asciiLower_ne_cons (by decide) hcolon
    rw [scanWord_of_ne hcolon, scanWord_of_ne hlower, htake, hdrop, wordToken_asciiLower]

theorem scanFraction_asciiLower (cs : List Char) : scanFraction (asciiLower cs) =
    ((scanFraction cs).1, asciiLower (scanFraction cs).2) := by
  match cs with
  | [] => rfl
  | c :: more =>
    rw [asciiLower_cons]
    by_cases hpoint : c = '.'
    · subst hpoint
      simp (disch := decide) only [asciiLowerChar_eq_self, scanFraction]
      rw [takeWhile_asciiLower isDigit_asciiLowerChar, asciiLower_takeWhile_isDigit,
        dropWhile_asciiLower isDigit_asciiLowerChar]
      split <;> rfl
    · have hpoint' : asciiLowerChar c ≠ '.' := by rwa [Ne, asciiLowerChar_eq_iff (by decide)]
      simp [scanFraction, hpoint, hpoint']

theorem scanExponent_asciiLower (cs : List Char) : scanExponent (asciiLower cs) =
    ((scanExponent cs).1, asciiLower (scanExponent cs).2) := by
  have htake := takeWhile_asciiLower isDigit_asciiLowerChar
  have hdrop := dropWhile_asciiLower isDigit_asciiLowerChar
  match cs with
  | [] => rfl
  | mark :: more =>
    have hmark := asciiLowerChar_eq_or_eq 'e' 'E' (by decide) (by decide) mark
    have hsign : (∃ cs, more = '+' :: cs) ∨ (∃ cs, more = '-' :: cs) ∨
        ((∀ cs, more = '+' :: cs → False) ∧ ∀ cs, more = '-' :: cs → False) := by tauto
    rcases hsign with ⟨cs, rfl⟩ | ⟨cs, rfl⟩ | ⟨hplus, hminus⟩
    · simp (disch := decide) only [scanExponent, asciiLower_cons, asciiLowerChar_eq_self, hmark,
        List.length_cons, List.length_nil, zero_add, List.drop_succ_cons, List.drop_zero, htake,
        hdrop, asciiLower_takeWhile_isDigit]
      split_ifs <;> rfl
    · simp (disch := decide) only [scanExponent, asciiLower_cons, asciiLowerChar_eq_self, hmark,
        List.length_cons, List.length_nil, zero_add, List.drop_succ_cons, List.drop_zero, htake,
        hdrop, asciiLower_takeWhile_isDigit]
      split_ifs <;> rfl
    · rw [asciiLower_cons, scanExponent, scanExponent, hmark]
      · simp only [List.length_nil, List.drop_zero, htake, hdrop, asciiLower_takeWhile_isDigit]
        split_ifs <;> rfl
      · exact hplus
      · exact hminus
      · exact asciiLower_ne_cons (by decide) hplus
      · exact asciiLower_ne_cons (by decide) hminus

theorem scanHex?_asciiLower (cs : List Char) : scanHex? (asciiLower cs) =
    (scanHex? cs).map fun found => (asciiLower found.1, asciiLower found.2) := by
  have htake := takeWhile_asciiLower isHexDigit_asciiLowerChar
  have hdrop := dropWhile_asciiLower isHexDigit_asciiLowerChar
  match cs with
  | [] => rfl
  | [c] =>
    by_cases hzero : c = '0'
    · subst hzero
      rfl
    · have hzero' : asciiLowerChar c ≠ '0' := by rwa [Ne, asciiLowerChar_eq_iff (by decide)]
      simp [scanHex?, hzero']
  | c :: mark :: more =>
    rw [asciiLower_cons, asciiLower_cons]
    by_cases hzero : c = '0'
    · subst hzero
      have hmark := asciiLowerChar_eq_or_eq 'x' 'X' (by decide) (by decide) mark
      simp (disch := decide) only [asciiLowerChar_eq_self, scanHex?, hmark, htake, hdrop,
        isEmpty_asciiLower]
      split <;> rfl
    · have hzero' : asciiLowerChar c ≠ '0' := by rwa [Ne, asciiLowerChar_eq_iff (by decide)]
      simp [scanHex?, hzero, hzero']

theorem scanNumber_asciiLower (cs : List Char) :
    scanNumber (asciiLower cs) = ((scanNumber cs).1.lowered, asciiLower (scanNumber cs).2) := by
  rw [scanNumber, scanNumber, scanHex?_asciiLower]
  cases scanHex? cs with
  | some found => simp only [Option.map_some, Token.lowered, lowerName_ofList]
  | none =>
    simp only [Option.map_none]
    rw [takeWhile_asciiLower isDigit_asciiLowerChar, asciiLower_takeWhile_isDigit,
      dropWhile_asciiLower isDigit_asciiLowerChar, scanFraction_asciiLower,
      scanExponent_asciiLower]
    split <;> rfl

theorem scanDelimited_asciiLower {part : Delimited} {position : Nat}
    {taken : Option (List Char × List Char)} {token : List Char → Token}
    (h : ∀ text, token (asciiLower text) = (token text).lowered) :
    scanDelimited part position
        (taken.map fun found => (asciiLower found.1, asciiLower found.2)) token =
      ((scanDelimited part position taken token).1.map Token.lowered,
        asciiLower (scanDelimited part position taken token).2) := by
  cases taken with
  | none => rfl
  | some found => exact congrArg (fun t => (Except.ok t, asciiLower found.2)) (h found.1)

/-- What starts no word is no letter. -/
theorem asciiLowerChar_of_not_startsWord {c : Char} (h : ¬startsWord c = true) :
    asciiLowerChar c = c := by
  refine asciiLowerChar_of_isAsciiLetter (Bool.eq_false_iff.2 fun hc => h ?_)
  rw [startsWord, isLetter_of_isAsciiLetter hc, Bool.true_or]

/-- The token that starts with a character, and the text after it. -/
theorem scanToken_asciiLower (position : Nat) (c : Char) (cs : List Char) :
    scanToken position (asciiLowerChar c) (asciiLower cs) =
      ((scanToken position c cs).1.map Token.lowered, asciiLower (scanToken position c cs).2) := by
  unfold scanToken
  rw [isHexDigit_asciiLowerChar, isDigit_asciiLowerChar, startsWord_asciiLowerChar,
    scanSymbol?_asciiLower, any_head?_asciiLower isDigit_asciiLowerChar, ← asciiLower_cons,
    startsWithGuid_asciiLower, scanNumber_asciiLower, scanWord_asciiLower,
    takeQuoted?_asciiLower, takeUntil?_asciiLower (by decide), takeUntil?_asciiLower (by decide),
    takeUntil?_asciiLower (by decide), beq_asciiLowerChar (by decide),
    beq_asciiLowerChar (by decide), beq_asciiLowerChar (by decide), beq_asciiLowerChar (by decide),
    beq_asciiLowerChar (by decide)]
  split
  · rw [take_asciiLower, drop_asciiLower, ← lowerName_ofList]
    rfl
  · cases scanSymbol? (c :: cs) with
    | some found => rfl
    | none =>
      dsimp only [Option.map_none]
      split_ifs with hstring htag hdate hguid hnumber hword
      · exact scanDelimited_asciiLower stringToken_asciiLower
      · exact scanDelimited_asciiLower fun _ => congrArg Token.pointTag (lowerName_ofList _).symm
      · exact scanDelimited_asciiLower fun _ => congrArg Token.dateTime (lowerName_ofList _).symm
      · exact scanDelimited_asciiLower fun _ => congrArg Token.guid (lowerName_ofList _).symm
      · rfl
      · rfl
      · rw [asciiLowerChar_of_not_startsWord hword]
        rfl

end TableFilter
