import TableFilter.Proofs.Guid
import TableFilter.Proofs.Literal.Numbers
import TableFilter.Proofs.Rereading.Basic
import TableFilter.Proofs.Term.Operands

/-!
# Literals as operands

The literal of a value is an operand wherever it stands, and is evaluated to the value that it reads
back as. A number is one token after its sign. The doubles without digits have no token and are
written as a call, whose arguments are literals again.

## Main results

* `Value.exists_operand`: the tokens of the literal of a value
* `evalText_literal_eq`: what the literal of a value is evaluated to
-/

namespace TableFilter

open Grammar Number

namespace Grammar

variable {t : Token} {v : Value} {negative : Bool}

theorem LiteralValue.isOperand (h : LiteralValue t v) : IsOperand [t] (.literal v) := by
  refine ⟨.literal h, _, _, rfl, ?_⟩
  rintro (_ | _) <;> cases h <;> contradiction

theorem NumberValue.isOperand (h : NumberValue negative t v) :
    IsOperand (signedTokens negative t) (.literal v) := by
  cases negative with
  | false => exact (LiteralValue.number h).isOperand
  | true => exact ⟨.negativeNumber h, _, _, rfl, nofun⟩

end Grammar

/-! ### Numbers -/

/-- The literal of an integer is one of the smaller type that holds it. -/
theorem integerLiteral_natText {i : Int} (h : fitsInt64 i = true) :
    integerLiteral (String.ofList (natText i.natAbs)) (i < 0) = .ok (Value.ofInt i) := by
  rw [integerLiteral, toList_signedText, String.toList_ofList, ← intText_eq, intOfText?_intText h]

theorem exists_operand_intText {i : Int} (h : fitsInt64 i = true) :
    ∃ ts, Writes (intText i) ts ∧ IsOperand ts (.literal (Value.ofInt i)) :=
  ⟨intTokens i, fun _ _ => lexes_intText i,
    (NumberValue.integer (integerLiteral_natText h)).isOperand⟩

theorem exists_operand_decimal (d : Decimal) :
    ∃ ts, Writes (Value.decimalLiteral d) ts ∧ IsOperand ts (.literal (.decimal d.reread)) := by
  refine ⟨d.literalTokens, fun _ _ => d.lexes_literal, NumberValue.isOperand ?_⟩
  rw [← d.realLiteral_literalDigits]
  exact .real _

/-- A double with digits is one token after its sign. -/
theorem exists_operand_finite {x : Float} (h : Binary64.isFinite x = true) :
    ∃ ts, Writes (exponentText x) ts ∧ IsOperand ts (.literal (.double x)) := by
  obtain ⟨negative, m, e, hparts⟩ : ∃ negative m e, Binary64.parts x = .finite negative m e := by
    unfold Binary64.isFinite at h
    split at h
    · exact ⟨_, _, _, ‹_›⟩
    · cases h
  obtain ⟨c, cs, htext, hc, hvalue, hspells⟩ := exists_doubleLiteral hparts
  refine ⟨signedTokens negative (.real (String.ofList (c :: cs))), ?_, NumberValue.isOperand ?_⟩
  · intro rest us hrest next
    rw [htext]
    exact lexes_signed negative rfl hc (hspells hrest) next
  · rw [← hvalue]
    exact .real _

/-! ### Texts -/

/-- A text in quotes, one that is that of an identifier and one that is not. -/
theorem exists_operand_string (s : String) :
    ∃ ts, Writes (Value.enclosed '\'' (Value.doubleQuotes s.toList)) ts ∧
      IsOperand ts (.literal ((Guid.ofText? s.toList).elim (.string s) .guid)) := by
  have hquote {rest : List Char} (hrest : Separated rest) : rest.head? ≠ some '\'' := fun h =>
    absurd (hrest _ h) (by decide)
  refine ⟨[stringToken s.toList], .of_spells fun hrest => spells_string _ (hquote hrest),
    LiteralValue.isOperand ?_⟩
  unfold stringToken
  rw [String.ofList_toList]
  cases h : Guid.ofText? s.toList with
  | none => exact .string s
  | some g => exact .guid (by rw [guidLiteral, h])

/-- The words for the doubles without digits are neither identifiers nor hold quotes. -/
theorem infinite_word {x : Float} (h : Binary64.isFinite x = false) :
    Guid.ofText? (exponentText x) = none ∧
      Value.doubleQuotes (exponentText x) = exponentText x := by
  unfold Binary64.isFinite at h
  unfold exponentText
  split at h
  · cases h
  · cases hparts : Binary64.parts x with
    | nan => exact ⟨by decide, rfl⟩
    | infinite negative => cases negative <;> exact ⟨by decide, rfl⟩
    | finite negative m e => exact absurd hparts (by simp_all)

/-- A double without digits is converted from the word for it. -/
theorem exists_operand_infinite {x : Float} (h : Binary64.isFinite x = false) :
    ∃ ts, Writes (Value.doubleLiteral x) ts ∧ IsOperand ts (Value.double x).reread.term := by
  obtain ⟨hguid, hquotes⟩ := infinite_word h
  obtain ⟨ts, hword, word⟩ := exists_operand_string (String.ofList (exponentText x))
  obtain ⟨us, htype, type⟩ := exists_operand_string "Double"
  rw [String.toList_ofList, hguid] at word
  rw [String.toList_ofList, hquotes] at hword
  have all : DerivesAll (ts ++ .symbol .comma :: us)
      [.literal (.string (String.ofList (exponentText x))), .literal (.string "Double")] :=
    .cons word.negation.disjunction (.one type.negation.disjunction)
  obtain ⟨vs, hcall, call⟩ := Builtin.exists_callTokens .convert
    (hword.append rfl (.cons spells_comma htype.blank)) all
  refine ⟨vs, ?_, ?_⟩
  · rw [Value.doubleLiteral, h, if_neg Bool.false_ne_true]
    simpa [Value.enclosed, Value.doubleQuotes, Builtin.name] using hcall
  · rw [Value.reread, h, if_neg Bool.false_ne_true]
    exact call

/-! ### All values -/

/-- **Literals are operands.** The literal of a value, with a separator after it, has the tokens of
an operand. -/
theorem Value.exists_operand (v : Value) :
    ∃ ts, Writes v.literal.toList ts ∧ IsOperand ts v.reread.term := by
  cases v with
  | null => exact ⟨_, .keyword .null, LiteralValue.null.isOperand⟩
  | boolean b =>
    have hword : IsWord (booleanText b) := by
      cases b <;> exact ⟨List.all_eq_true.1 rfl, _, rfl, rfl⟩
    rw [literal, String.toList_ofList]
    refine ⟨_, .of_spells (spells_word hword), LiteralValue.isOperand ?_⟩
    cases b with
    | false => exact .false_
    | true => exact .true_
  | int32 i =>
    rw [literal, String.toList_ofList]
    exact exists_operand_intText (fitsInt64_toInt32 i)
  | int64 i =>
    rw [literal, String.toList_ofList]
    exact exists_operand_intText (fitsInt64_toInt64 i)
  | decimal d =>
    rw [literal, String.toList_ofList]
    exact exists_operand_decimal d
  | double x =>
    rw [literal, String.toList_ofList]
    cases hfinite : Binary64.isFinite x with
    | false => exact exists_operand_infinite hfinite
    | true =>
      rw [doubleLiteral, reread, hfinite, if_pos rfl, if_pos rfl]
      exact exists_operand_finite hfinite
  | string s =>
    rw [literal, String.toList_ofList]
    exact exists_operand_string s
  | guid g =>
    rw [literal, String.toList_ofList]
    exact ⟨_, .of_spells fun _ => g.spells_braced _,
      (LiteralValue.guid g.guidLiteral_text).isOperand⟩
  | dateTime t =>
    have hmark : '#' ∉ t.text := fun hmem => absurd (Instant.mem_text hmem) (by decide)
    have hvalue : dateTimeLiteral (String.ofList t.text) = .ok (.dateTime t.toMilliseconds) := by
      rw [dateTimeLiteral, String.toList_ofList, Instant.ofText?_text]
    rw [literal, String.toList_ofList]
    exact ⟨_, .of_spells fun _ => spells_dateTime hmark _, (LiteralValue.dateTime hvalue).isOperand⟩

/-- The literal of a value is read as the term of what it reads back as. -/
theorem Value.ofText_literal (v : Value) : Term.ofText v.literal = .ok v.reread.term := by
  obtain ⟨ts, hwrites, operand⟩ := v.exists_operand
  have hbefore := hwrites.lexes.eq_beforeEnd
  exact term_ofText_iff.2 ⟨_, hwrites.lexes,
    List.append_cancel_right hbefore ▸ operand.negation.disjunction⟩

/-- The literal of a value is evaluated to the value of what it reads back as. -/
theorem evalText_literal_eq (clock : Clock) (v : Value) :
    evalText clock v.literal = evalFree clock v.reread := by
  have hbind : v.reread.term.bindFree = .ok v.reread := by
    cases v with
    | double x =>
      rw [Value.reread]
      split <;> rfl
    | _ => rfl
  rw [evalText, v.ofText_literal, Result.ok_bind, hbind, Result.ok_bind]

end TableFilter
