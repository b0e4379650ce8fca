import TableFilter.Operation
import TableFilter.Proofs.Operation.Types
import TableFilter.Proofs.Text.UpperCase

/-!
# The language of a pattern

A pattern is an optional wildcard, a core, and another optional wildcard, each of which is taken
where there is one. The texts that are like it are those that the core stands in, with nothing
before it unless a wildcard was taken at the start, and nothing after it unless one was taken at the
end. Further wildcards belong to the core and stand for themselves.

## Main definitions

* `WildcardParts`: a pattern taken apart
* `LikePattern.Matches`: the texts of a pattern's form

## Main results

* `LikePattern.accepts_iff`: which texts are accepted
* `isLike_iff`: which texts are like a pattern
* `likeness_language`: the tests `LIKE` and `NOT LIKE` on values
-/

namespace TableFilter

open TableFilter.Text

/-! ### Patterns taken apart -/

/-- A pattern taken apart: an optional wildcard at the start, a core, and an optional wildcard at
the end of what the first one leaves. -/
structure WildcardParts (pattern : List Char) (leading : Option Char) (core : List Char)
    (trailing : Option Char) : Prop where
  whole : pattern = leading.toList ++ core ++ trailing.toList
  leading_isWildcard : ∀ c, leading = some c → isWildcard c = true
  trailing_isWildcard : ∀ c, trailing = some c → isWildcard c = true
  /-- A wildcard at the start is taken. -/
  leading_taken : leading = none → ∀ c, pattern.head? = some c → isWildcard c = false
  /-- A wildcard at the end of what is left is taken. -/
  trailing_taken : trailing = none → ∀ c, core.getLast? = some c → isWildcard c = false

theorem any_isWildcard_eq_false {last : Option Char}
    (h : ∀ c, last = some c → isWildcard c = false) : last.any isWildcard = false := by
  cases last with
  | none => rfl
  | some c => exact h c rfl

/-- A wildcard at the start of a text, if there is one, and what it leaves. -/
theorem exists_leading (cs : List Char) : ∃ (leading : Option Char) (rest : List Char),
    cs = leading.toList ++ rest ∧ (∀ c, leading = some c → isWildcard c = true) ∧
      (leading = none → ∀ c, cs.head? = some c → isWildcard c = false) := by
  cases hhead : cs.head?.any isWildcard with
  | true =>
    obtain ⟨c, hc, hwildcard⟩ := Option.any_eq_true _ _ |>.1 hhead
    obtain ⟨rest, rfl⟩ := List.head?_eq_some_iff.1 hc
    exact ⟨some c, rest, rfl, fun d hd => Option.some.inj hd ▸ hwildcard, nofun⟩
  | false =>
    refine ⟨none, cs, rfl, nofun, fun _ c hc => ?_⟩
    rwa [hc] at hhead

/-- A wildcard at the end of a text, if there is one, and what it leaves. -/
theorem exists_trailing (cs : List Char) : ∃ (trailing : Option Char) (rest : List Char),
    cs = rest ++ trailing.toList ∧ (∀ c, trailing = some c → isWildcard c = true) ∧
      (trailing = none → ∀ c, cs.getLast? = some c → isWildcard c = false) := by
  obtain ⟨trailing, rest, heq, htrailing, hlast⟩ := exists_leading cs.reverse
  refine ⟨trailing, rest.reverse, ?_, htrailing, fun hnone c hc => hlast hnone c ?_⟩
  · rw [List.reverse_eq_iff.1 heq, List.reverse_append]
    cases trailing <;> rfl
  · rwa [List.head?_reverse]

namespace WildcardParts

variable {pattern core : List Char} {leading trailing : Option Char}

/-- The parts of a pattern are those it is read as. -/
theorem ofText_eq (h : WildcardParts pattern leading core trailing) :
    LikePattern.ofText pattern = ⟨leading.isSome, core, trailing.isSome⟩ := by
  have hhead : pattern.head?.any isWildcard = leading.isSome := by
    cases leading with
    | none => exact any_isWildcard_eq_false (h.leading_taken rfl)
    | some c =>
      rw [h.whole]
      exact h.leading_isWildcard c rfl
  have hrest : (if leading.isSome then pattern.tail else pattern) = core ++ trailing.toList := by
    rw [h.whole]
    cases leading <;> rfl
  have hlast : (core ++ trailing.toList).getLast?.any isWildcard = trailing.isSome := by
    cases trailing with
    | none =>
      rw [Option.toList_none, List.append_nil]
      exact any_isWildcard_eq_false (h.trailing_taken rfl)
    | some c =>
      rw [Option.toList_some, List.getLast?_concat]
      exact h.trailing_isWildcard c rfl
  have hcore : (if trailing.isSome then (core ++ trailing.toList).dropLast
      else core ++ trailing.toList) = core := by
    cases trailing with
    | none => exact List.append_nil core
    | some c => exact List.dropLast_concat
  rw [LikePattern.ofText, hhead, hrest, hlast, hcore]

/-- Every pattern can be taken apart. -/
theorem exists_parts (pattern : List Char) :
    ∃ leading core trailing, WildcardParts pattern leading core trailing := by
  obtain ⟨leading, rest, hwhole, hleading, hhead⟩ := exists_leading pattern
  obtain ⟨trailing, core, hrest, htrailing, hlast⟩ := exists_trailing rest
  refine ⟨leading, core, trailing, ?_, hleading, htrailing, hhead, fun hnone c hc => ?_⟩
  · rw [hwhole, hrest, List.append_assoc]
  · rw [hnone, Option.toList_none, List.append_nil] at hrest
    exact hlast hnone c (hrest ▸ hc)

end WildcardParts

/-! ### Texts of a pattern's form -/

namespace LikePattern

/-- The texts of a pattern's form: its core, with other text before it only where its start is open,
and after it only where its end is. -/
def Matches (p : LikePattern) (text : List Char) : Prop :=
  ∃ before after, text = before ++ p.core ++ after ∧ (p.openStart = false → before = []) ∧
    (p.openEnd = false → after = [])

theorem accepts_iff {p : LikePattern} {text : List Char} :
    p.accepts text = true ↔ p.Matches text := by
  obtain ⟨openStart, core, openEnd⟩ := p
  cases openStart <;> cases openEnd
  case false.false => simp [accepts, Matches]
  case false.true =>
    rw [accepts, startsWith_iff, List.prefix_iff_exists_append_eq]
    simp [Matches, eq_comm]
  case true.false =>
    rw [accepts, endsWith_iff]
    simp [Matches, List.IsSuffix, eq_comm]
  case true.true =>
    rw [accepts, contains_iff]
    simp [Matches, List.IsInfix, eq_comm]

end LikePattern

/-- A text in the form that is compared: its upper form, unless the test is exact. -/
def comparedForm (exact : Bool) (text : List Char) : List Char :=
  if exact then text else upper text

/-- A text is like a pattern exactly if the core of the pattern, in the form that is compared,
stands in it at a place that the wildcards allow. -/
theorem isLike_iff {exact : Bool} {text pattern : String} {leading trailing : Option Char}
    {core : List Char} (h : WildcardParts pattern.toList leading core trailing) :
    isLike exact text pattern = true ↔
      ∃ before after,
        comparedForm exact text.toList = before ++ comparedForm exact core ++ after ∧
          (leading = none → before = []) ∧ (trailing = none → after = []) := by
  have hform : isLike exact text pattern = true ↔
      LikePattern.Matches ⟨leading.isSome, comparedForm exact core, trailing.isSome⟩
        (comparedForm exact text.toList) := by
    rw [← LikePattern.accepts_iff]
    cases exact with
    | true =>
      rw [isLike, if_pos rfl, h.ofText_eq]
      rfl
    | false =>
      rw [isLike, if_neg Bool.false_ne_true, LikePattern.ofText_upper, h.ofText_eq]
      rfl
  rw [hform]
  simp only [LikePattern.Matches, Option.isSome_eq_false_iff, Option.isNone_iff_eq_none]

/-! ### Tests on values -/

/-- A test on a null, where both types are that of texts or none, gives a null. -/
theorem like_of_isNull {a b : Value} (negated exact : Bool)
    (ha : a.dataType ∈ [DataType.string, .undefined])
    (hb : b.dataType ∈ [DataType.string, .undefined]) (hnull : (a.isNull || b.isNull) = true) :
    (Operator.binary (.like negated exact)).apply a b = .ok (.null .boolean) := by
  obtain ⟨type, htype⟩ : ∃ type,
      (BinaryOperator.like negated exact).operationType a.dataType b.dataType = .ok type := by
    simp only [List.mem_cons, List.not_mem_nil, or_false] at ha hb
    rcases ha with ha | ha <;> rcases hb with hb | hb <;> rw [ha, hb] <;> exact ⟨_, rfl⟩
  rw [Operator.apply, BinaryOperator.apply_of_type rfl htype, if_pos hnull]
  rfl

/-- **The language of a pattern.** Every pattern can be taken apart into an optional wildcard, a
core, and an optional wildcard at the end of what the first one leaves. However this is done, a text
is like the pattern exactly if it is the core with other text before it only if there is the first
wildcard, and after it only if there is the second, where text and core are in upper form unless the
test is exact. On texts the tests `LIKE` and `NOT LIKE` give opposite truth values, and on nulls
they give a null. -/
theorem likeness_language :
    (∀ pattern : String, ∃ leading core trailing,
      WildcardParts pattern.toList leading core trailing) ∧
    (∀ (text pattern : String) (leading : Option Char) (core : List Char) (trailing : Option Char),
      WildcardParts pattern.toList leading core trailing → ∀ exact : Bool,
        (isLike exact text pattern = true ↔
          ∃ before after,
            comparedForm exact text.toList = before ++ comparedForm exact core ++ after ∧
              (leading = none → before = []) ∧ (trailing = none → after = []))) ∧
    (∀ (text pattern : String) (exact : Bool),
      (Operator.binary (.like false exact)).apply (.string text) (.string pattern) =
          .ok (.boolean (isLike exact text pattern)) ∧
        (Operator.binary (.like true exact)).apply (.string text) (.string pattern) =
          .ok (.boolean !isLike exact text pattern)) ∧
    ∀ (a b : Value) (negated exact : Bool), a.dataType ∈ [DataType.string, .undefined] →
      b.dataType ∈ [DataType.string, .undefined] → (a.isNull || b.isNull) = true →
        (Operator.binary (.like negated exact)).apply a b = .ok (.null .boolean) := by
  refine ⟨fun pattern => WildcardParts.exists_parts _, fun text pattern leading core trailing h
    exact => isLike_iff h, fun text pattern exact => ?_,
    fun a b negated exact => like_of_isNull _ _⟩
  have apply (negated : Bool) :
      (Operator.binary (.like negated exact)).apply (.string text) (.string pattern) =
        .ok (.boolean (isLike exact text pattern != negated)) := rfl
  rw [apply, apply, Bool.bne_false, Bool.bne_true]
  exact ⟨rfl, rfl⟩

/-- A pattern with a wildcard in its core: it starts with two of them. A pattern that is a wildcard
alone has an empty core and no wildcard at its end. The upper form of `ß` is longer than this
letter. -/
theorem sharp_s_likeness :
    WildcardParts "*%ß".toList (some '*') ['%', 'ß'] none ∧
      isLike false "a%SS" "*%ß" = true ∧
      WildcardParts "%".toList (some '%') [] none ∧
      (Operator.binary (.like false true)).apply (.string "x") (.string "%") =
        .ok (.boolean true) ∧
      (Operator.binary (.like true true)).apply (.string "x") (.null .undefined) =
        .ok (.null .boolean) := by
  obtain ⟨-, language, texts, nulls⟩ := likeness_language
  have twice : WildcardParts "*%ß".toList (some '*') ['%', 'ß'] none :=
    ⟨rfl, by rintro _ ⟨⟩; rfl, nofun, nofun, by rintro - _ ⟨⟩; rfl⟩
  have alone : WildcardParts "%".toList (some '%') [] none :=
    ⟨rfl, by rintro _ ⟨⟩; rfl, nofun, nofun, nofun⟩
  have anything : isLike true "x" "%" = true :=
    (language "x" "%" _ _ _ alone true).2 ⟨['x'], [], rfl, nofun, fun _ => rfl⟩
  exact ⟨twice, (language _ _ _ _ _ twice false).2 ⟨['A'], [], rfl, nofun, fun _ => rfl⟩, alone,
    anything ▸ (texts "x" "%" true).1, nulls _ _ true true (by decide) (by decide) rfl⟩

end TableFilter
