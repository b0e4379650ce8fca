import TableFilter.Proofs.Evaluation.Membership
import TableFilter.Proofs.Text.UpperCase

/-!
# Matching exactly and in any case

Texts can be matched in five ways, each of them exactly or with case ignored: by an operator for
equality or for inequality, with a pattern, in a list, and by a function that looks for one text in
another. What matches exactly does so with case ignored, and what does not match with case ignored
does not match exactly.

A test for membership may stop at an earlier item if case is ignored. It meets no failure then that
it would not meet exactly, as whether two values can be compared does not depend on case.

## Main definitions

* `Entails`: one result is true only if another is

## Main results

* `Value.compare_relaxes`: values that are equal exactly
* `like_gives_iff`: what a test for a pattern gives
* `membership_relaxes`, `membership_tightens`: tests for membership
* `Builtin.callTest_relaxes`: tests of one text for another
* `exact_entails_any_case`: all ways of matching
-/

namespace TableFilter

open Result Text

/-- If a result is true, another is true as well. -/
def Entails (r r' : Result Value) : Prop := r = .ok (.boolean true) → r' = .ok (.boolean true)

/-! ### Equality -/

section Equality

variable {a b : Value}

theorem compareText_eq_eq {exact : Bool} {a b : String} :
    compareText exact a b = .eq ↔ Value.collated exact a = Value.collated exact b := by
  constructor
  · intro h
    have notLess : ¬Value.collated exact a < Value.collated exact b := fun hless =>
      nomatch h.symm.trans (compareText_eq_lt.2 hless)
    have notGreater : ¬Value.collated exact b < Value.collated exact a := fun hgreater =>
      nomatch h.symm.trans (compareText_eq_gt.2 hgreater)
    exact le_antisymm (not_lt.1 notGreater) (not_lt.1 notLess)
  · intro h
    cases horder : compareText exact a b with
    | eq => rfl
    | lt => exact absurd h (compareText_eq_lt.1 horder).ne
    | gt => exact absurd h (compareText_eq_gt.1 horder).ne'

theorem Value.comparePresent_relaxes {v w : Value} (h : comparePresent true v w = some .eq) :
    comparePresent false v w = some .eq := by
  cases v <;> cases w
  case string.string a b =>
    have equal : a.toList = b.toList := compareText_eq_eq.1 (Option.some.inj h)
    exact congrArg some (compareText_eq_eq.2 (congrArg upper equal))
  all_goals exact h

/-- Values that are equal exactly are equal in any case. -/
theorem Value.compare_relaxes (h : a.compare true b = .ok (some .eq)) :
    a.compare false b = .ok (some .eq) := by
  obtain ⟨p, halign, hp⟩ := compare_eq_ok_iff.1 h
  obtain ⟨q, rfl, hq⟩ := Option.bind_eq_some_iff.1 hp
  exact compare_eq_ok_iff.2 ⟨some q, halign, comparePresent_relaxes hq⟩

/-- Whether values can be compared does not depend on case. -/
theorem Value.exists_compare {exact : Bool} {o : Option Ordering} (h : a.compare exact b = .ok o)
    (exact' : Bool) : ∃ o', a.compare exact' b = .ok o' := by
  obtain ⟨p, halign, -⟩ := compare_eq_ok_iff.1 h
  exact ⟨_, compare_eq_ok_iff.2 ⟨p, halign, rfl⟩⟩

theorem equal_relaxes (h : (Comparison.equal true).Gives a b true) :
    (Comparison.equal false).Gives a b true :=
  gives_equal_iff.2 (Value.compare_relaxes (gives_equal_iff.1 h))

theorem notEqual_tightens (h : (Comparison.notEqual false).Gives a b true) :
    (Comparison.notEqual true).Gives a b true := by
  obtain ⟨present, o, ho, unequal⟩ := h.compares
  obtain ⟨o', ho'⟩ := Value.exists_compare ho true
  -- If the values were equal exactly, they would be equal in any case.
  refine (Comparison.gives_iff (.notEqual true) rfl present ho' true).2 (bne_iff_ne.2 ?_)
  rintro rfl
  have equal : o = some .eq := Except.ok.inj (ho.symm.trans (Value.compare_relaxes ho'))
  exact bne_iff_ne.1 unequal equal

end Equality

/-! ### Patterns -/

section Patterns

variable {a b : Value}

theorem Value.exists_string (htype : a.dataType = .string) (hnull : a.isNull = false) :
    ∃ text, a = .string text := by
  cases a with
  | string text => exact ⟨text, rfl⟩
  | null type => exact nomatch hnull
  | _ => exact nomatch htype

/-- A test for a pattern gives a truth value exactly if both values are texts. -/
theorem like_gives_iff {negated exact t : Bool} :
    (Operator.binary (.like negated exact)).apply a b = .ok (.boolean t) ↔
      ∃ text pattern, a = .string text ∧ b = .string pattern ∧
        (isLike exact text pattern != negated) = t := by
  constructor
  · intro h
    cases htype : (BinaryOperator.like negated exact).operationType a.dataType b.dataType with
    | error e =>
      rw [Operator.apply, BinaryOperator.apply_of_refusal rfl htype] at h
      cases h
    | ok type =>
      rw [Operator.apply, BinaryOperator.apply_of_type rfl htype] at h
      cases hnull : a.isNull || b.isNull with
      | true =>
        rw [hnull, if_pos rfl] at h
        cases h
      | false =>
        obtain ⟨ha, hb⟩ := Bool.or_eq_false_iff.1 hnull
        have defined : ∀ {v : Value}, v.isNull = false → v.dataType ≠ .undefined := fun hv h =>
          Bool.false_ne_true (hv.symm.trans (Value.isNull_of_undefined h))
        rw [BinaryOperator.operationType_of_defined (defined ha) (defined hb)] at htype
        obtain ⟨htext, hpattern, rfl⟩ := BinaryOperator.likeType_eq_ok htype
        obtain ⟨text, rfl⟩ := Value.exists_string htext ha
        obtain ⟨pattern, rfl⟩ := Value.exists_string hpattern hb
        exact ⟨text, pattern, rfl, rfl, Value.boolean.inj (Except.ok.inj h)⟩
  · rintro ⟨text, pattern, rfl, rfl, rfl⟩
    rfl

theorem like_relaxes (a b : Value) :
    Entails ((Operator.binary (.like false true)).apply a b)
      ((Operator.binary (.like false false)).apply a b) := by
  intro h
  obtain ⟨text, pattern, ha, hb, hlike⟩ := like_gives_iff.1 h
  rw [Bool.bne_false] at hlike
  refine like_gives_iff.2 ⟨text, pattern, ha, hb, ?_⟩
  rw [Bool.bne_false, isLike_of_isLike_exact hlike]

theorem notLike_tightens (a b : Value) :
    Entails ((Operator.binary (.like true false)).apply a b)
      ((Operator.binary (.like true true)).apply a b) := by
  intro h
  obtain ⟨text, pattern, ha, hb, hlike⟩ := like_gives_iff.1 h
  refine like_gives_iff.2 ⟨text, pattern, ha, hb, bne_iff_ne.2 fun exactly => ?_⟩
  exact bne_iff_ne.1 hlike (isLike_of_isLike_exact exactly)

end Patterns

/-! ### Membership -/

section Membership

variable {p : Value} {rs : List (Result Value)} {i : Nat}

theorem compareItem_relaxes {r : Result Value} (h : compareItem true p r = .ok (some .eq)) :
    compareItem false p r = .ok (some .eq) := by
  obtain ⟨v, hv, h⟩ := compareItem_eq_ok.1 h
  exact compareItem_eq_ok.2 ⟨v, hv, Value.compare_relaxes h⟩

/-- Whether an item can be compared with a value does not depend on case. -/
theorem exists_compareItem {exact : Bool} {r : Result Value} {o : Option Ordering}
    (h : compareItem exact p r = .ok o) (exact' : Bool) :
    ∃ o', compareItem exact' p r = .ok o' := by
  obtain ⟨v, hv, h⟩ := compareItem_eq_ok.1 h
  obtain ⟨o', ho'⟩ := Value.exists_compare h exact'
  exact ⟨o', compareItem_eq_ok.2 ⟨v, hv, ho'⟩⟩

theorem PassesTo.exactness {exact : Bool} (h : PassesTo exact p rs i) (exact' : Bool) :
    PassesTo exact' p rs i := by
  intro j hj
  obtain ⟨v, o, hv, ho⟩ := h j hj
  obtain ⟨o', ho'⟩ := Value.exists_compare ho exact'
  exact ⟨v, o', hv, ho'⟩

/-- A value that is found exactly is found in any case, perhaps earlier. -/
theorem membership_relaxes (h : membership true p rs = .ok true) :
    membership false p rs = .ok true := by
  obtain ⟨i, ⟨v, hv, equal⟩, before⟩ := membership_eq_true_iff.1 h
  exact membership_eq_true_iff.2 ⟨i, ⟨v, hv, equal_relaxes equal⟩, before.exactness false⟩

/-- A value that is not found in any case is not found exactly. -/
theorem membership_tightens (h : membership false p rs = .ok false) :
    membership true p rs = .ok false := by
  rw [membership_eq_false_iff] at h ⊢
  intro r hr
  obtain ⟨o, ho, unequal⟩ := h r hr
  obtain ⟨o', ho'⟩ := exists_compareItem ho true
  refine ⟨o', ho', ?_⟩
  rintro rfl
  exact unequal (Except.ok.inj (ho.symm.trans (compareItem_relaxes ho')))

theorem inList_relaxes (s : Surroundings) (e : Expr) (es : List Expr) (known : KnownValues) :
    Entails ((Expr.eval s (.inList false true e es)).run known).1
      ((Expr.eval s (.inList false false e es)).run known).1 := by
  intro h
  obtain ⟨p, hp, present, found⟩ := inList_eq_true_iff.1 h
  exact inList_eq_true_iff.2 ⟨p, hp, present, membership_relaxes found⟩

theorem notInList_tightens (s : Surroundings) (e : Expr) (es : List Expr) (known : KnownValues) :
    Entails ((Expr.eval s (.inList true false e es)).run known).1
      ((Expr.eval s (.inList true true e es)).run known).1 := by
  intro h
  obtain ⟨p, hp, present, missed⟩ := inList_eq_true_iff.1 h
  exact inList_eq_true_iff.2 ⟨p, hp, present, membership_tightens missed⟩

end Membership

/-! ### Functions -/

namespace Builtin

/-- A test of one text for another that holds where case is ignored if it holds at all. -/
theorem callTest_relaxes (f : Builtin) (test : List Char → List Char → Bool)
    (relaxes : ∀ wanted s, test wanted s = true → test (Text.upper wanted) (Text.upper s) = true)
    {a b flag : Value} (hflag : flag.convert .boolean = .ok (.boolean true)) (flags : List Value) :
    Entails (callTest f test (a :: b :: flags)) (callTest f test [a, b, flag]) := by
  intro h
  obtain ⟨s, hs, h⟩ := bind_eq_ok.1 h
  obtain ⟨wanted, hwanted, h⟩ := bind_eq_ok.1 h
  have ignores : ignoreCaseArgument f [a, b, flag] 2 = .ok true := by
    have typed : typedArgument f [a, b, flag] 2 .boolean = .ok (.boolean true) :=
      mapError_eq_ok.2 hflag
    rw [ignoreCaseArgument, booleanArgument, typed]
    rfl
  refine bind_eq_ok.2 ⟨s, hs, bind_eq_ok.2 ⟨wanted, hwanted, ?_⟩⟩
  match s, wanted with
  | none, _ | some _, none => exact nomatch h
  | some s, some wanted =>
    obtain ⟨ignoreCase, -, h⟩ := bind_eq_ok.1 h
    have holds := Value.boolean.inj (Except.ok.inj h)
    dsimp only
    rw [ignores]
    refine congrArg (fun found => Except.ok (Value.boolean found)) ?_
    cases ignoreCase with
    | true => exact holds
    | false => exact relaxes _ _ holds

theorem call_relaxes {f : Builtin} (hf : f ∈ [startsWith, endsWith, contains]) (clock : Clock)
    {a b flag : Value} (hflag : flag.convert .boolean = .ok (.boolean true)) (flags : List Value) :
    Entails (f.call clock (a :: b :: flags)) (f.call clock [a, b, flag]) := by
  intro h
  obtain ⟨-, -, h⟩ := bind_eq_ok.1 h
  simp only [List.mem_cons, List.not_mem_nil, or_false] at hf
  rcases hf with rfl | rfl | rfl
  · exact callTest_relaxes .startsWith (Text.startsWith (· == ·)) (fun _ _ => startsWith_upper)
      hflag
      flags h
  · exact callTest_relaxes .endsWith (Text.endsWith (· == ·)) (fun _ _ => endsWith_upper) hflag
      flags h
  · exact callTest_relaxes .contains (Text.contains (· == ·)) (fun _ _ => contains_upper) hflag
      flags h

end Builtin

/-! ### All ways of matching -/

/-- **What matches exactly matches in any case.** Texts that are equal exactly are equal in any
case, and what differs in any case differs exactly. The same holds of patterns and of membership in
a list, where the probe and the items may be of any types, fail or be nulls, and of functions that
look for one text in another, whatever is passed to them behind the two texts. -/
theorem exact_entails_any_case :
    (∀ a b : Value, Entails ((Operator.binary (.comparison (.equal true))).apply a b)
      ((Operator.binary (.comparison (.equal false))).apply a b)) ∧
    (∀ a b : Value, Entails ((Operator.binary (.comparison (.notEqual false))).apply a b)
      ((Operator.binary (.comparison (.notEqual true))).apply a b)) ∧
    (∀ a b : Value, Entails ((Operator.binary (.like false true)).apply a b)
      ((Operator.binary (.like false false)).apply a b)) ∧
    (∀ a b : Value, Entails ((Operator.binary (.like true false)).apply a b)
      ((Operator.binary (.like true true)).apply a b)) ∧
    (∀ (s : Surroundings) (e : Expr) (es : List Expr) (known : KnownValues),
      Entails ((Expr.eval s (.inList false true e es)).run known).1
        ((Expr.eval s (.inList false false e es)).run known).1) ∧
    (∀ (s : Surroundings) (e : Expr) (es : List Expr) (known : KnownValues),
      Entails ((Expr.eval s (.inList true false e es)).run known).1
        ((Expr.eval s (.inList true true e es)).run known).1) ∧
    ∀ f ∈ [Builtin.startsWith, .endsWith, .contains], ∀ (clock : Clock) (a b flag : Value),
      flag.convert .boolean = .ok (.boolean true) → ∀ flags : List Value,
        Entails (f.call clock (a :: b :: flags)) (f.call clock [a, b, flag]) :=
  ⟨fun _ _ => equal_relaxes, fun _ _ => notEqual_tightens, like_relaxes, notLike_tightens,
    inList_relaxes, notInList_tightens,
    fun _ hf clock _ _ _ hflag flags => Builtin.call_relaxes hf clock hflag flags⟩

/-- A text in capitals, looked for among itself in small letters, itself, and a quotient that
fails. -/
def capitalAmong (exact : Bool) : Expr :=
  .inList false exact (.literal (.string "B"))
    [.literal (.string "b"), .literal (.string "B"), failingQuotient]

/-- The upper form of `ß` is longer than this letter, and is found where the letter is. In a list
a text is found earlier in any case than it is exactly. -/
theorem sharp_s_in_any_case :
    (Operator.binary (.like false false)).apply (.string "Straße") (.string "*ße") =
        .ok (.boolean true) ∧
      (Operator.binary (.like true true)).apply (.string "Gase") (.string "*ße") =
        .ok (.boolean true) ∧
      (capitalAmong true).evalOn whereTwo = .ok (.boolean true) ∧
      (capitalAmong false).evalOn whereTwo = .ok (.boolean true) ∧
      Builtin.contains.call whereTwo.clock [.string "Straße", .string "ß", .int32 1] =
        .ok (.boolean true) := by
  obtain ⟨-, -, like, notLike, inList, -, call⟩ := exact_entails_any_case
  have exactly : (capitalAmong true).evalOn whereTwo = .ok (.boolean true) := rfl
  exact ⟨like _ _ rfl, notLike _ _ rfl, exactly, inList _ _ _ _ exactly,
    call .contains (by decide) _ _ _ (.int32 1) rfl [] rfl⟩

end TableFilter
