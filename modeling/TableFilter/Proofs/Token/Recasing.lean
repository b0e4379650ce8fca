import TableFilter.Proofs.Token.Lowering

/-!
# Texts that differ in the case of their words

## Main definitions

* `Recased`: a text with some letters of its names and keywords in the other case

## Main results

* `Token.listOfText_recased`: the tokens of a text in another case differ in the case of names
-/

namespace TableFilter

open Result TableFilter.Text

/-! ### The text of a token -/

section

variable {cs more rest rest' text text' : List Char} {c : Char} {t t' : Token}

theorem takeUntil?_eq_some {delimiter : Char} (h : takeUntil? delimiter cs = some (text, rest)) :
    cs = text ++ delimiter :: rest ∧ delimiter ∉ text := by
  induction cs generalizing text with
  | nil => cases h
  | cons c cs ih =>
    rw [takeUntil?] at h
    split at h
    · next hc =>
      cases h
      exact ⟨by rw [List.nil_append, beq_iff_eq.1 hc], List.not_mem_nil⟩
    · next hc =>
      obtain ⟨⟨text', rest'⟩, hmore, heq⟩ := Option.map_eq_some_iff.1 h
      cases heq
      obtain ⟨rfl, hnot⟩ := ih hmore
      refine ⟨rfl, ?_⟩
      rw [List.mem_cons, not_or]
      exact ⟨fun heq => hc (beq_iff_eq.2 heq.symm), hnot⟩

theorem takeQuoted?_eq_some (h : takeQuoted? cs = some (text, rest)) :
    cs = Value.doubleQuotes text ++ '\'' :: rest := by
  fun_induction takeQuoted? cs generalizing text with
  | case1 => cases h
  | case2 cs ih =>
    obtain ⟨⟨text', rest'⟩, hmore, heq⟩ := Option.map_eq_some_iff.1 h
    cases heq
    rw [ih hmore]
    rfl
  | case3 c cs _ hc =>
    cases h
    rw [beq_iff_eq.1 hc]
    rfl
  | case4 c cs _ hc ih =>
    obtain ⟨⟨text', rest'⟩, hmore, heq⟩ := Option.map_eq_some_iff.1 h
    cases heq
    rw [Value.doubleQuotes, if_neg hc, ih hmore, List.cons_append]

theorem doubleQuotes_injective {cs cs' : List Char}
    (h : Value.doubleQuotes cs = Value.doubleQuotes cs') : cs = cs' := by
  have read (cs : List Char) : takeQuoted? (Value.doubleQuotes cs ++ ['\'']) = some (cs, []) :=
    takeQuoted?_doubleQuotes cs nofun
  have same := read cs
  rw [h, read cs'] at same
  exact (Prod.mk.inj (Option.some.inj same)).1.symm

/-- A word is a keyword, or its token has all of it as text. -/
theorem scanWord_cases (h : scanWord cs = (t, rest)) :
    (∃ k, t = .keyword k) ∨ ∃ name, (t = .identifier name ∨ t = .measurementKey name) ∧
      cs = name.toList ++ rest := by
  have word (hrest : cs.dropWhile isWordChar = rest)
      (ht : wordToken (cs.takeWhile isWordChar) = t) :
      (∃ k, t = .keyword k) ∨ ∃ name, (t = .identifier name ∨ t = .measurementKey name) ∧
        cs = name.toList ++ rest := by
    unfold wordToken at ht
    split at ht
    · exact .inl ⟨_, ht.symm⟩
    · refine .inr ⟨_, .inl ht.symm, ?_⟩
      rw [String.toList_ofList, ← hrest, List.takeWhile_append_dropWhile]
  by_cases hcolon : ∃ more, cs.dropWhile isWordChar = ':' :: more
  · obtain ⟨more, hmore⟩ := hcolon
    rw [scanWord_of_colon hmore] at h
    split at h
    · exact word (hmore.trans (Prod.mk.inj h).2) (Prod.mk.inj h).1
    · obtain ⟨rfl, rfl⟩ := Prod.mk.inj h
      refine .inr ⟨_, .inr rfl, ?_⟩
      rw [String.toList_ofList, List.append_assoc, List.cons_append,
        List.takeWhile_append_dropWhile, ← hmore, List.takeWhile_append_dropWhile]
  · rw [scanWord_of_ne (not_exists.1 hcolon)] at h
    exact word (Prod.mk.inj h).2 (Prod.mk.inj h).1

theorem scanHex?_eq_some (h : scanHex? cs = some (text, rest)) :
    ∃ mark ∈ ['x', 'X'], cs = '0' :: mark :: (text ++ rest) ∧ text ≠ [] ∧
      ∀ c ∈ text, isHexDigit c = true := by
  unfold scanHex? at h
  split at h
  · next mark more =>
    dsimp only at h
    split at h
    · next hmark =>
      cases h
      simp only [Bool.and_eq_true, Bool.or_eq_true, beq_iff_eq, Bool.not_eq_true',
        List.isEmpty_eq_false_iff] at hmark
      refine ⟨mark, by simpa using hmark.1, by rw [List.takeWhile_append_dropWhile], hmark.2, ?_⟩
      exact fun c hc => List.all_eq_true.1 List.all_takeWhile c hc
    · cases h
  · cases h

theorem scanNumber_cases (h : scanNumber cs = (t, rest)) :
    (∃ mark digits, t = .hex (String.ofList digits) ∧ cs = '0' :: mark :: (digits ++ rest)) ∨
      ∃ text, t = .integer text ∨ t = .real text := by
  unfold scanNumber at h
  split at h
  · next heq =>
    cases h
    obtain ⟨mark, -, hmark, -⟩ := scanHex?_eq_some heq
    exact .inl ⟨mark, _, rfl, hmark⟩
  · dsimp only at h
    split at h <;> cases h
    · exact .inr ⟨_, .inl rfl⟩
    · exact .inr ⟨_, .inr rfl⟩

/-! ### Letters after a token -/

theorem takeUntil?_unique {delimiter : Char}
    (h : takeUntil? delimiter (more ++ rest) = some (text, rest))
    (h' : takeUntil? delimiter (more ++ rest') = some (text', rest')) : text' = text := by
  have before {text rest : List Char}
      (h : takeUntil? delimiter (more ++ rest) = some (text, rest)) :
      more = text ++ [delimiter] := by
    have heq := (takeUntil?_eq_some h).1
    rw [List.append_cons] at heq
    exact List.append_cancel_right heq
  exact List.append_cancel_right ((before h').symm.trans (before h))

theorem takeQuoted?_unique (h : takeQuoted? (more ++ rest) = some (text, rest))
    (h' : takeQuoted? (more ++ rest') = some (text', rest')) : text' = text := by
  have before {text rest : List Char} (h : takeQuoted? (more ++ rest) = some (text, rest)) :
      more = Value.doubleQuotes text ++ ['\''] := by
    have heq := takeQuoted?_eq_some h
    rw [List.append_cons] at heq
    exact List.append_cancel_right heq
  exact doubleQuotes_injective (List.append_cancel_right ((before h').symm.trans (before h)))

theorem scanNumber_unique (h : scanNumber (more ++ rest) = (t, rest))
    (h' : scanNumber (more ++ rest') = (t', rest')) (same : t'.lowered = t.lowered) : t' = t := by
  rcases scanNumber_cases h with ⟨mark, digits, rfl, hcs⟩ | ⟨text, rfl | rfl⟩ <;>
    rcases scanNumber_cases h' with ⟨mark', digits', rfl, hcs'⟩ | ⟨text', rfl | rfl⟩
  case inl.inl =>
    have hmore : more = '0' :: mark :: digits := List.append_cancel_right hcs
    have hmore' : more = '0' :: mark' :: digits' := List.append_cancel_right hcs'
    cases hmore.symm.trans hmore'
    rfl
  case inr.inl.inr.inl | inr.inr.inr.inr => exact same
  all_goals cases same

theorem scanWord_unique (h : scanWord (more ++ rest) = (t, rest))
    (h' : scanWord (more ++ rest') = (t', rest')) (same : t'.lowered = t.lowered) : t' = t := by
  rcases scanWord_cases h with ⟨k, rfl⟩ | ⟨name, ht, hcs⟩ <;>
    rcases scanWord_cases h' with ⟨k', rfl⟩ | ⟨name', ht', hcs'⟩
  case inl.inl => exact same
  case inr.inr =>
    have hname : name' = name := String.toList_injective
      ((List.append_cancel_right hcs').symm.trans (List.append_cancel_right hcs))
    rcases ht with rfl | rfl <;> rcases ht' with rfl | rfl <;> cases hname
    all_goals first | rfl | cases same
  case inl.inr => rcases ht' with rfl | rfl <;> cases same
  case inr.inl => rcases ht with rfl | rfl <;> cases same

/-- What is scanned before texts of the same letters is one token, whatever the case of the letters
after it. -/
theorem scanToken_unique (letters : asciiLower rest' = asciiLower rest)
    (h : scanToken 0 c (more ++ rest) = (.ok t, rest))
    (h' : scanToken 0 c (more ++ rest') = (.ok t', rest')) (same : t'.lowered = t.lowered) :
    t' = t := by
  have after : asciiLower (more ++ rest') = asciiLower (more ++ rest) := by
    rw [asciiLower_append, asciiLower_append, letters]
  have hguid : startsWithGuid (c :: (more ++ rest')) = startsWithGuid (c :: (more ++ rest)) := by
    rw [← startsWithGuid_asciiLower, asciiLower_cons, after, ← asciiLower_cons,
      startsWithGuid_asciiLower]
  have hdigit : (more ++ rest').head?.any isDigit = (more ++ rest).head?.any isDigit := by
    rw [← any_head?_asciiLower isDigit_asciiLowerChar, after,
      any_head?_asciiLower isDigit_asciiLowerChar]
  have hsymbol : (scanSymbol? (c :: (more ++ rest'))).map (·.1) =
      (scanSymbol? (c :: (more ++ rest))).map (·.1) := by
    have sign (cs : List Char) := congrArg (Option.map (·.1)) (scanSymbol?_asciiLower c cs)
    simp only [Option.map_map, Function.comp_def] at sign
    rw [← sign, after, sign]
  have pair {found : Token × List Char} {t : Token} {rest : List Char}
      (h : ((.ok found.1, found.2) : Result Token × List Char) = (.ok t, rest)) :
      found = (t, rest) :=
    Prod.ext (Except.ok.inj (Prod.mk.inj h).1) (Prod.mk.inj h).2
  unfold scanToken at h h'
  rw [hguid, hdigit] at h'
  split at h
  · next hstart =>
    have before {rest : List Char} (hrest : (c :: (more ++ rest)).drop Guid.textLength = rest) :
        (c :: (more ++ rest)).take Guid.textLength = c :: more := by
      have heq := List.take_append_drop Guid.textLength (c :: (more ++ rest))
      rw [hrest, ← List.cons_append] at heq
      exact List.append_cancel_right heq
    rw [if_pos hstart] at h'
    obtain ⟨ht, hrest⟩ := Prod.mk.inj h
    obtain ⟨ht', hrest'⟩ := Prod.mk.inj h'
    rw [← Except.ok.inj ht, ← Except.ok.inj ht', before hrest, before hrest']
  · next hstart =>
    rw [if_neg hstart] at h'
    cases hfound : scanSymbol? (c :: (more ++ rest)) with
    | some found =>
      rw [hfound] at h hsymbol
      obtain ⟨found', hfound', hs⟩ := Option.map_eq_some_iff.1 hsymbol
      rw [hfound'] at h'
      cases h
      cases h'
      rw [hs]
    | none =>
      rw [hfound] at h hsymbol
      rw [Option.map_eq_none_iff.1 hsymbol] at h'
      dsimp only at h h'
      split_ifs at h h' with hstring htag hdate hbrace hnumber hword
      · obtain ⟨text, htext, rfl⟩ := scanDelimited_ok h
        obtain ⟨text', htext', rfl⟩ := scanDelimited_ok h'
        rw [takeQuoted?_unique htext htext']
      · obtain ⟨text, htext, rfl⟩ := scanDelimited_ok h
        obtain ⟨text', htext', rfl⟩ := scanDelimited_ok h'
        rw [takeUntil?_unique htext htext']
      · obtain ⟨text, htext, rfl⟩ := scanDelimited_ok h
        obtain ⟨text', htext', rfl⟩ := scanDelimited_ok h'
        rw [takeUntil?_unique htext htext']
      · obtain ⟨text, htext, rfl⟩ := scanDelimited_ok h
        obtain ⟨text', htext', rfl⟩ := scanDelimited_ok h'
        rw [takeUntil?_unique htext htext']
      · have hscan : scanNumber (c :: more ++ rest) = (t, rest) := pair h
        have hscan' : scanNumber (c :: more ++ rest') = (t', rest') := pair h'
        exact scanNumber_unique hscan hscan' same
      · have hscan : scanWord (c :: more ++ rest) = (t, rest) := pair h
        have hscan' : scanWord (c :: more ++ rest') = (t', rest') := pair h'
        exact scanWord_unique hscan hscan' same
      · cases h

/-! ### Words in another case -/

/-- Whether a token is a name or a keyword. -/
def Token.isName : Token → Bool
  | .identifier _ | .keyword _ => true
  | _ => false

/-- A token with the letters of its name made small, if it is a name. -/
def Token.lowerNames : Token → Token
  | .identifier name => .identifier (lowerName name)
  | t => t

theorem Token.lowerNames_eq_of_lowered (name : t.isName = true) (same : t'.lowered = t.lowered) :
    t'.lowerNames = t.lowerNames := by
  cases t with
  | identifier _ | keyword _ => cases t' <;> first | exact same | cases same
  | _ => cases name

/-- Two ends of a text that have the same letters are one. -/
theorem eq_of_suffix {a b cs : List Char} (ha : a <:+ cs) (hb : b <:+ cs)
    (letters : asciiLower a = asciiLower b) : a = b := by
  have hlength : a.length = b.length := by rw [← length_asciiLower, letters, length_asciiLower]
  exact (List.suffix_of_suffix_length_le ha hb hlength.le).eq_of_length hlength

theorem skipIgnored_recased (ignored : List Char) {cs cs' : List Char}
    (h : skipIgnored false (ignored ++ cs) = cs) (letters : asciiLower cs' = asciiLower cs) :
    skipIgnored false (ignored ++ cs') = cs' := by
  refine eq_of_suffix (skipIgnored_suffix _ _) (List.suffix_append _ _) ?_
  rw [← skipIgnored_asciiLower, asciiLower_append, letters, ← asciiLower_append,
    skipIgnored_asciiLower, h]

/-- A name or a keyword in another case is a token that differs in the case of its name only, and
other tokens stay, if letters after them are in another case. -/
theorem Spells.recased {word word' : List Char} (h : Spells word t rest)
    (letters : asciiLower word' = asciiLower word) (fixed : t.isName = false → word' = word)
    (after : asciiLower rest' = asciiLower rest) :
    ∃ t', Spells word' t' rest' ∧ t'.lowerNames = t.lowerNames := by
  obtain ⟨⟨c, more, rfl, hscan⟩, hshows⟩ := h
  obtain ⟨c', more', rfl⟩ : ∃ c' more', word' = c' :: more' := by
    cases word' with
    | nil => cases letters
    | cons c' more' => exact ⟨c', more', rfl⟩
  have hc : asciiLowerChar c' = asciiLowerChar c := (List.cons.inj letters).1
  have hmore : asciiLower more' = asciiLower more := (List.cons.inj letters).2
  have all : asciiLower (more' ++ rest') = asciiLower (more ++ rest) := by
    rw [asciiLower_append, asciiLower_append, hmore, after]
  have found : ((scanToken 0 c' (more' ++ rest')).1.map Token.lowered,
      asciiLower (scanToken 0 c' (more' ++ rest')).2) = (.ok t.lowered, asciiLower rest) := by
    rw [← scanToken_asciiLower, hc, all, scanToken_asciiLower, hscan]
    rfl
  match hscan' : scanToken 0 c' (more' ++ rest') with
  | (.error e, _) =>
    rw [hscan'] at found
    cases (Prod.mk.inj found).1
  | (.ok t', left) =>
    rw [hscan'] at found
    obtain ⟨ht, hleft⟩ := Prod.mk.inj found
    have same : t'.lowered = t.lowered := Except.ok.inj ht
    obtain rfl : left = rest' :=
      eq_of_suffix (scanToken_suffix hscan') (List.suffix_append _ _) (hleft.trans after.symm)
    refine ⟨t', ⟨⟨c', more', rfl, hscan'⟩, ?_⟩, ?_⟩
    · exact skipIgnored_recased [] hshows (congrArg₂ List.cons hc all)
    · cases hname : t.isName with
      | true => exact Token.lowerNames_eq_of_lowered hname same
      | false =>
        obtain ⟨rfl, rfl⟩ := List.cons.inj (fixed hname)
        rw [scanToken_unique after hscan hscan' same]

/-- A text with letters of its names and keywords in the other case. What is no token, and what
comes after an error, stays. -/
inductive Recased : List Char → List Char → Prop
  | same (cs : List Char) : Recased cs cs
  | token (ignored : List Char) {word word' rest rest' : List Char} {t : Token}
      (ignores : skipIgnored false (ignored ++ (word ++ rest)) = word ++ rest)
      (spells : Spells word t rest) (letters : asciiLower word' = asciiLower word)
      (fixed : t.isName = false → word' = word) (more : Recased rest rest') :
      Recased (ignored ++ (word ++ rest)) (ignored ++ (word' ++ rest'))

/-- A name or a keyword in another case. -/
theorem Recased.word (ignored : List Char) {word word' rest rest' : List Char} {t : Token}
    (ignores : skipIgnored false (ignored ++ (word ++ rest)) = word ++ rest)
    (spells : Spells word t rest) (letters : asciiLower word' = asciiLower word)
    (name : t.isName = true) (more : Recased rest rest') :
    Recased (ignored ++ (word ++ rest)) (ignored ++ (word' ++ rest')) :=
  .token ignored ignores spells letters (fun h => absurd (name.symm.trans h) (by decide)) more

theorem Recased.letters {cs cs' : List Char} (h : Recased cs cs') :
    asciiLower cs' = asciiLower cs := by
  induction h with
  | same => rfl
  | token ignored _ _ letters _ _ ih => simp only [asciiLower_append, letters, ih]

theorem Scanner.tokens_of_spells {ignored word : List Char} (spells : Spells word t rest)
    (ignores : skipIgnored false (ignored ++ (word ++ rest)) = word ++ rest) (length fuel : Nat) :
    Scanner.tokens (fuel + 1) ⟨length, ignored ++ (word ++ rest)⟩ =
      (Scanner.tokens fuel ⟨length, rest⟩).map (t :: ·) := by
  obtain ⟨⟨c, more, rfl, hscan⟩, -⟩ := spells
  exact Scanner.tokens_of_scan ignores (scanToken_position hscan) length fuel

theorem Recased.tokens_eq {cs cs' : List Char} (h : Recased cs cs') (length : Nat) :
    ∀ fuel, (Scanner.tokens fuel ⟨length, cs'⟩).map (List.map Token.lowerNames) =
      (Scanner.tokens fuel ⟨length, cs⟩).map (List.map Token.lowerNames) := by
  induction h with
  | same => exact fun _ => rfl
  | @token ignored word word' rest rest' t ignores spells letters fixed more ih =>
    intro fuel
    cases fuel with
    | zero => rfl
    | succ fuel =>
      obtain ⟨t', spells', ht⟩ := spells.recased letters fixed more.letters
      have all : asciiLower (word' ++ rest') = asciiLower (word ++ rest) := by
        rw [asciiLower_append, asciiLower_append, letters, more.letters]
      rw [Scanner.tokens_of_spells spells ignores,
        Scanner.tokens_of_spells spells' (skipIgnored_recased ignored ignores all)]
      have cons (t : Token) (r : Result (List Token)) :
          (r.map (t :: ·)).map (List.map Token.lowerNames) =
            (r.map (List.map Token.lowerNames)).map (t.lowerNames :: ·) := by
        cases r <;> rfl
      rw [cons, cons, ih, ht]

/-- The tokens of a text in another case differ in the case of names only. -/
theorem Token.listOfText_recased {text text' : String} (h : Recased text.toList text'.toList) :
    (Token.listOfText text').map (List.map Token.lowerNames) =
      (Token.listOfText text).map (List.map Token.lowerNames) := by
  have hlength : text'.toList.length = text.toList.length := by
    rw [← length_asciiLower, h.letters, length_asciiLower]
  rw [Token.listOfText, Token.listOfText, Scanner.ofText, Scanner.ofText, hlength]
  exact h.tokens_eq _ _

end

end TableFilter
