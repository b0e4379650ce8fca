import TableFilter.Proofs.Evaluation.Cache
import TableFilter.Proofs.Operation.Comparisons

/-!
# Membership tests

A test for membership compares a value with the items of a list, one after the other, and stops at
the first that is equal. What stands behind that item cannot make the test fail. An item that fails
before that does, and an item that is a null is equal to nothing.

The items are evaluated one after the other, each with the values of computed columns kept that the
items before it came by. So all that is said of a test is said of the results of its items in turn.

## Main definitions

* `MatchesAt`, `FailsAt`: an item is equal to a value, or fails
* `membership`: what a test reads off the results of its items
* `ShortCircuits`: a test is a chain of equalities

## Main results

* `holdsAny_eq_membership`: a test reads off the results of its items
* `membership_eq_true_iff`, `membership_eq_false_iff`, `membership_eq_error_iff`: when it finds an
  equal item, when it finds none, and when it fails
* `membership_perm`: the order of items that do not fail makes no difference
* `inList_shortCircuits`: the whole test
-/

namespace TableFilter

open Result

/-! ### Items -/

/-- None of the first items fails, and neither does comparing a value with it. -/
def PassesTo (exact : Bool) (p : Value) (rs : List (Result Value)) (i : Nat) : Prop :=
  ∀ j < i, ∃ v o, rs[j]? = some (.ok v) ∧ p.compare exact v = .ok o

/-- An item is equal to a value by the operator, and none before it fails. -/
structure MatchesAt (exact : Bool) (p : Value) (rs : List (Result Value)) (i : Nat) : Prop where
  equal : ∃ v, rs[i]? = some (.ok v) ∧ (Comparison.equal exact).Gives p v true
  before : PassesTo exact p rs i

/-- An item is the first that fails, by itself or where a value is compared with it. -/
structure FailsAt (exact : Bool) (p : Value) (rs : List (Result Value)) (i : Nat) (e : Error) :
    Prop where
  fails : rs[i]? = some (.error e) ∨ ∃ v, rs[i]? = some (.ok v) ∧ p.compare exact v = .error e
  before : PassesTo exact p rs i

/-- The result of comparing a value with an item, which fails if the item does. -/
def compareItem (exact : Bool) (p : Value) (r : Result Value) : Result (Option Ordering) :=
  r >>= p.compare exact

/-- What a test for membership reads off the results of its items. -/
def membership (exact : Bool) (p : Value) : List (Result Value) → Result Bool
  | [] => .ok false
  | r :: rs => do
    if (← compareItem exact p r) == some .eq then .ok true else membership exact p rs

section Items

variable {exact : Bool} {p v : Value} {r : Result Value} {rs rs' : List (Result Value)} {i : Nat}
  {e : Error} {o : Option Ordering}

theorem compareItem_eq_ok :
    compareItem exact p r = .ok o ↔ ∃ v, r = .ok v ∧ p.compare exact v = .ok o := bind_eq_ok

theorem compareItem_eq_error : compareItem exact p r = .error e ↔
    r = .error e ∨ ∃ v, r = .ok v ∧ p.compare exact v = .error e := by
  cases r <;> simp [compareItem]

theorem passesTo_zero : PassesTo exact p rs 0 := fun _ hj => absurd hj (Nat.not_lt_zero _)

theorem passesTo_succ : PassesTo exact p (r :: rs) (i + 1) ↔
    (∃ o, compareItem exact p r = .ok o) ∧ PassesTo exact p rs i := by
  constructor
  · intro h
    refine ⟨?_, fun j hj => h (j + 1) (Nat.succ_lt_succ hj)⟩
    obtain ⟨v, o, hv, ho⟩ := h 0 (Nat.succ_pos i)
    exact ⟨o, compareItem_eq_ok.2 ⟨v, Option.some.inj hv, ho⟩⟩
  · rintro ⟨⟨o, ho⟩, hrest⟩ j hj
    cases j with
    | zero =>
      obtain ⟨v, rfl, hv⟩ := compareItem_eq_ok.1 ho
      exact ⟨v, o, rfl, hv⟩
    | succ j => exact hrest j (Nat.lt_of_succ_lt_succ hj)

theorem matchesAt_zero :
    MatchesAt exact p (r :: rs) 0 ↔ compareItem exact p r = .ok (some .eq) := by
  rw [compareItem_eq_ok]
  constructor
  · rintro ⟨⟨v, hv, h⟩, -⟩
    exact ⟨v, Option.some.inj hv, gives_equal_iff.1 h⟩
  · rintro ⟨v, rfl, h⟩
    exact ⟨⟨v, rfl, gives_equal_iff.2 h⟩, passesTo_zero⟩

theorem matchesAt_succ : MatchesAt exact p (r :: rs) (i + 1) ↔
    (∃ o, compareItem exact p r = .ok o) ∧ MatchesAt exact p rs i := by
  constructor
  · rintro ⟨h, before⟩
    obtain ⟨first, rest⟩ := passesTo_succ.1 before
    exact ⟨first, h, rest⟩
  · rintro ⟨first, h, rest⟩
    exact ⟨h, passesTo_succ.2 ⟨first, rest⟩⟩

theorem failsAt_zero : FailsAt exact p (r :: rs) 0 e ↔ compareItem exact p r = .error e := by
  rw [compareItem_eq_error]
  constructor
  · rintro ⟨h, -⟩
    exact h.imp Option.some.inj fun ⟨v, hv, h⟩ => ⟨v, Option.some.inj hv, h⟩
  · intro h
    exact ⟨h.imp (congrArg some) fun ⟨v, hv, h⟩ => ⟨v, congrArg some hv, h⟩, passesTo_zero⟩

theorem failsAt_succ : FailsAt exact p (r :: rs) (i + 1) e ↔
    (∃ o, compareItem exact p r = .ok o) ∧ FailsAt exact p rs i e := by
  constructor
  · rintro ⟨h, before⟩
    obtain ⟨first, rest⟩ := passesTo_succ.1 before
    exact ⟨first, h, rest⟩
  · rintro ⟨first, h, rest⟩
    exact ⟨h, passesTo_succ.2 ⟨first, rest⟩⟩

theorem not_matchesAt_nil : ¬MatchesAt exact p [] i := by
  rintro ⟨⟨v, hv, -⟩, -⟩
  exact nomatch hv

theorem not_failsAt_nil : ¬FailsAt exact p [] i e := by
  rintro ⟨h | ⟨v, hv, -⟩, -⟩
  · exact nomatch h
  · exact nomatch hv

/-! ### Reading a test off its items -/

/-- A value is found exactly if an item is equal to it and no item before that fails. -/
theorem membership_eq_true_iff :
    membership exact p rs = .ok true ↔ ∃ i, MatchesAt exact p rs i := by
  induction rs with
  | nil => exact ⟨nofun, fun ⟨_, h⟩ => absurd h not_matchesAt_nil⟩
  | cons r rs ih =>
    rw [membership]
    cases hr : compareItem exact p r with
    | error e =>
      refine ⟨nofun, ?_⟩
      rintro ⟨_ | i, h⟩
      · exact nomatch hr.symm.trans (matchesAt_zero.1 h)
      · obtain ⟨⟨o, ho⟩, -⟩ := matchesAt_succ.1 h
        exact nomatch hr.symm.trans ho
    | ok o =>
      rw [ok_bind]
      by_cases ho : o = some .eq
      · subst ho
        exact ⟨fun _ => ⟨0, matchesAt_zero.2 hr⟩, fun _ => rfl⟩
      · rw [if_neg (by simpa using ho), ih]
        constructor
        · rintro ⟨i, h⟩
          exact ⟨i + 1, matchesAt_succ.2 ⟨⟨o, hr⟩, h⟩⟩
        · rintro ⟨_ | i, h⟩
          · exact absurd (Except.ok.inj (hr.symm.trans (matchesAt_zero.1 h))) ho
          · exact ⟨i, (matchesAt_succ.1 h).2⟩

/-- A test fails exactly with the first item that fails, if no item before that is equal. -/
theorem membership_eq_error_iff :
    membership exact p rs = .error e ↔
      ∃ i, FailsAt exact p rs i e ∧ ∀ k < i, ¬MatchesAt exact p rs k := by
  induction rs with
  | nil => exact ⟨nofun, fun ⟨_, h, _⟩ => absurd h not_failsAt_nil⟩
  | cons r rs ih =>
    rw [membership]
    cases hr : compareItem exact p r with
    | error e' =>
      constructor
      · intro h
        obtain rfl := Except.error.inj h
        exact ⟨0, failsAt_zero.2 hr, fun k hk => absurd hk (Nat.not_lt_zero k)⟩
      · rintro ⟨_ | i, h, -⟩
        · obtain rfl := Except.error.inj (hr.symm.trans (failsAt_zero.1 h))
          rfl
        · obtain ⟨⟨o, ho⟩, -⟩ := failsAt_succ.1 h
          exact nomatch hr.symm.trans ho
    | ok o =>
      rw [ok_bind]
      by_cases ho : o = some .eq
      · subst ho
        refine ⟨nofun, ?_⟩
        rintro ⟨_ | i, h, unmatched⟩
        · exact nomatch hr.symm.trans (failsAt_zero.1 h)
        · exact absurd (matchesAt_zero.2 hr) (unmatched 0 (Nat.succ_pos i))
      · rw [if_neg (by simpa using ho), ih]
        constructor
        · rintro ⟨i, h, unmatched⟩
          refine ⟨i + 1, failsAt_succ.2 ⟨⟨o, hr⟩, h⟩, ?_⟩
          rintro (_ | k) hk hmatch
          · exact ho (Except.ok.inj (hr.symm.trans (matchesAt_zero.1 hmatch)))
          · exact unmatched k (Nat.lt_of_succ_lt_succ hk) (matchesAt_succ.1 hmatch).2
        · rintro ⟨_ | i, h, unmatched⟩
          · exact nomatch hr.symm.trans (failsAt_zero.1 h)
          · refine ⟨i, (failsAt_succ.1 h).2, fun k hk hmatch => ?_⟩
            exact unmatched (k + 1) (Nat.succ_lt_succ hk) (matchesAt_succ.2 ⟨⟨o, hr⟩, hmatch⟩)

/-- A value is not found exactly if each item can be compared with it and none is equal. -/
theorem membership_eq_false_iff : membership exact p rs = .ok false ↔
    ∀ r ∈ rs, ∃ o, compareItem exact p r = .ok o ∧ o ≠ some .eq := by
  induction rs with
  | nil => exact ⟨fun _ => List.forall_mem_nil _, fun _ => rfl⟩
  | cons r rs ih =>
    rw [List.forall_mem_cons, ← ih, membership, bind_eq_ok, ← exists_and_right]
    refine exists_congr fun o => ?_
    rw [and_assoc]
    refine and_congr_right fun _ => ?_
    by_cases ho : o = some .eq
    · simp [ho]
    · simp [ho]

/-- No item fails, by itself or in a comparison, exactly if each can be compared. -/
theorem passesTo_length : PassesTo exact p rs rs.length ↔
    ∀ r ∈ rs, ∃ o, compareItem exact p r = .ok o := by
  induction rs with
  | nil => exact ⟨fun _ => List.forall_mem_nil _, fun _ => passesTo_zero⟩
  | cons r rs ih => rw [List.length_cons, passesTo_succ, ih, List.forall_mem_cons]

/-- The order of items that do not fail makes no difference. -/
theorem membership_perm (h : PassesTo exact p rs rs.length) (hperm : rs.Perm rs') :
    membership exact p rs = membership exact p rs' := by
  rw [passesTo_length] at h
  induction hperm with
  | nil => rfl
  | cons r _ ih => rw [membership, membership, ih (List.forall_mem_cons.1 h).2]
  | swap r r' rs =>
    obtain ⟨⟨o, ho⟩, h⟩ := List.forall_mem_cons.1 h
    obtain ⟨⟨o', ho'⟩, -⟩ := List.forall_mem_cons.1 h
    simp only [membership, ho, ho', ok_bind]
    cases o == some .eq <;> cases o' == some .eq <;> rfl
  | trans hperm _ ih ih' =>
    exact (ih h).trans (ih' fun r hr => h r (hperm.mem_iff.2 hr))

end Items

/-! ### Expressions as items -/

section Expressions

variable {s : Surroundings} {exact : Bool} {p : Value} {es : List Expr} {known : KnownValues}

theorem evalInTurn_cons (s : Surroundings) (e : Expr) (es : List Expr) (known : KnownValues) :
    (evalInTurn s (e :: es)).run known =
      (((e.eval s).run known).1 :: ((evalInTurn s es).run ((e.eval s).run known).2).1,
        ((evalInTurn s es).run ((e.eval s).run known).2).2) := rfl

/-- Looking at a first item: a failure or an equality ends the test. -/
theorem run_holdsAny_cons (s : Surroundings) (exact : Bool) (p : Value) (e : Expr)
    (es : List Expr) (known : KnownValues) :
    (Expr.holdsAny s exact p (e :: es)).run known =
      match compareItem exact p ((e.eval s).run known).1 with
      | .error err => (.error err, ((e.eval s).run known).2)
      | .ok o =>
        if o == some .eq then (.ok true, ((e.eval s).run known).2)
        else (Expr.holdsAny s exact p es).run ((e.eval s).run known).2 := by
  rw [Expr.holdsAny, run_bind]
  cases ((e.eval s).run known).1 with
  | error err => rfl
  | ok v =>
    dsimp only [compareItem]
    rw [ok_bind, run_bind]
    cases p.compare exact v with
    | error err => rfl
    | ok o => exact apply_ite (fun m : Evaluation Bool => m.run ((e.eval s).run known).2) _ _ _

/-- A test reads off the results of its items, evaluated one after the other. -/
theorem holdsAny_eq_membership (s : Surroundings) (exact : Bool) (p : Value) (es : List Expr)
    (known : KnownValues) :
    ((Expr.holdsAny s exact p es).run known).1 =
      membership exact p ((evalInTurn s es).run known).1 := by
  induction es generalizing known with
  | nil => rfl
  | cons e es ih =>
    rw [run_holdsAny_cons, evalInTurn_cons, membership]
    cases compareItem exact p ((e.eval s).run known).1 with
    | error err => rfl
    | ok o =>
      dsimp only
      rw [ok_bind]
      split
      · rfl
      · exact ih _

/-- Behind the first item that is equal, none is evaluated. -/
theorem holdsAny_stops {i : Nat} (h : MatchesAt exact p ((evalInTurn s es).run known).1 i)
    (first : ∀ k < i, ¬MatchesAt exact p ((evalInTurn s es).run known).1 k) :
    ((Expr.holdsAny s exact p es).run known).2 =
      ((evalInTurn s (es.take (i + 1))).run known).2 := by
  induction es generalizing i known with
  | nil => exact absurd h not_matchesAt_nil
  | cons e es ih =>
    rw [evalInTurn_cons] at h first
    rw [run_holdsAny_cons, List.take_succ_cons, evalInTurn_cons]
    cases i with
    | zero =>
      rw [matchesAt_zero.1 h]
      rfl
    | succ i =>
      obtain ⟨⟨o, ho⟩, h⟩ := matchesAt_succ.1 h
      have unequal : o ≠ some .eq := fun heq =>
        first 0 (Nat.succ_pos i) (matchesAt_zero.2 (heq ▸ ho))
      rw [ho]
      dsimp only
      rw [if_neg (by simpa using unequal)]
      exact ih h fun k hk hmatch =>
        first (k + 1) (Nat.succ_lt_succ hk) (matchesAt_succ.2 ⟨⟨o, ho⟩, hmatch⟩)

/-- A test for membership, plain or negated, of a value that its probe has. -/
theorem run_inList {e : Expr} {kept : KnownValues} (negated : Bool)
    (h : (e.eval s).run known = (.ok p, kept)) :
    (Expr.eval s (.inList negated exact e es)).run known =
      if p.isNull then (.ok (.null .boolean), kept)
      else (((Expr.holdsAny s exact p es).run kept).1.map fun found =>
        .boolean (found != negated), ((Expr.holdsAny s exact p es).run kept).2) := by
  rw [Expr.eval, run_bind, h]
  dsimp only
  cases p.isNull with
  | true => rfl
  | false =>
    rw [if_neg Bool.false_ne_true, if_neg Bool.false_ne_true, run_bind]
    cases ((Expr.holdsAny s exact p es).run kept).1 <;> rfl

/-- A test is true exactly if its probe has a value, no null, that is found or, if the test is
negated, not found. -/
theorem inList_eq_true_iff {e : Expr} {negated : Bool} :
    ((Expr.eval s (.inList negated exact e es)).run known).1 = .ok (.boolean true) ↔
      ∃ p, ((e.eval s).run known).1 = .ok p ∧ p.isNull = false ∧
        membership exact p ((evalInTurn s es).run ((e.eval s).run known).2).1 = .ok !negated := by
  cases hr : ((e.eval s).run known).1 with
  | error err =>
    rw [Expr.eval, run_bind, hr]
    constructor
    · intro h
      cases h
    · rintro ⟨p, hp, -⟩
      cases hp
  | ok p =>
    have hprobe : (e.eval s).run known = (.ok p, ((e.eval s).run known).2) := Prod.ext hr rfl
    rw [run_inList negated hprobe]
    cases hnull : p.isNull with
    | true =>
      constructor
      · intro h
        cases h
      · rintro ⟨q, hq, hpresent, -⟩
        obtain rfl := Except.ok.inj hq
        exact absurd hnull (Bool.eq_false_iff.1 hpresent)
    | false =>
      rw [if_neg Bool.false_ne_true, holdsAny_eq_membership, map_eq_ok]
      constructor
      · rintro ⟨found, hfound, h⟩
        obtain rfl : found = !negated := Bool.eq_not.2 (bne_iff_ne.1 (Value.boolean.inj h))
        exact ⟨p, rfl, hnull, hfound⟩
      · rintro ⟨q, hq, -, hfound⟩
        obtain rfl := Except.ok.inj hq
        exact ⟨_, hfound, by simp⟩

end Expressions

/-! ### The whole test -/

/-- A test for membership of a value that is no null, plain or negated, is a chain of equalities
with the results of its items. -/
structure ShortCircuits (exact : Bool) (p : Value) (rs : List (Result Value))
    (test : Bool → Result Value) : Prop where
  true_iff : test false = .ok (.boolean true) ↔ ∃ i, MatchesAt exact p rs i
  error_iff : ∀ e, test false = .error e ↔
    ∃ i, FailsAt exact p rs i e ∧ ∀ k < i, ¬MatchesAt exact p rs k
  otherwise : test false ≠ .ok (.boolean true) → (∀ e, test false ≠ .error e) →
    test false = .ok (.boolean false)
  present : ∀ i v, MatchesAt exact p rs i → rs[i]? = some (.ok v) → v.isNull = false
  negated_error_iff : ∀ e, test true = .error e ↔ test false = .error e
  complement : ∀ b, test true = .ok (.boolean b) ↔ test false = .ok (.boolean !b)

/-- What a test reads off its items, with the truth value reversed if it is negated. -/
theorem shortCircuits_membership (exact : Bool) (p : Value) (rs : List (Result Value)) :
    ShortCircuits exact p rs fun negated =>
      (membership exact p rs).map fun found => .boolean (found != negated) where
  true_iff := by
    rw [← membership_eq_true_iff]
    rcases membership exact p rs with e | _ | _ <;> simp
  error_iff e := by
    rw [← membership_eq_error_iff]
    rcases membership exact p rs with e | _ | _ <;> simp
  otherwise := by rcases membership exact p rs with e | _ | _ <;> simp
  present i v h hv := by
    obtain ⟨⟨w, hw, hequal⟩, -⟩ := h
    obtain rfl := Except.ok.inj (Option.some.inj (hv.symm.trans hw))
    have present := Value.present_of_compare (gives_equal_iff.1 hequal)
    exact (Bool.or_eq_false_iff.1 present).2
  negated_error_iff e := by rcases membership exact p rs with e | _ | _ <;> simp
  complement b := by rcases membership exact p rs with e | _ | _ <;> cases b <;> simp

/-- **A test for membership is a chain of equalities.** If its probe fails, the test fails with the
same error, and if the probe is a null, so is the test. No item is evaluated then. Otherwise the
test is a chain of equalities with the items that stops at the first equal one. The order of items
of which none fails makes no difference, where expressions were bound on a table and what was kept
before are values of its computed columns. -/
theorem inList_shortCircuits {s : Surroundings} (exact : Bool) {e : Expr} (es : List Expr)
    {known kept : KnownValues} {r : Result Value} (h : (e.eval s).run known = (r, kept)) :
    (∀ err, r = .error err → ∀ negated,
      (Expr.eval s (.inList negated exact e es)).run known = (.error err, kept)) ∧
    (∀ p, r = .ok p → p.isNull = true → ∀ negated,
      (Expr.eval s (.inList negated exact e es)).run known = (.ok (.null .boolean), kept)) ∧
    (∀ p, r = .ok p → p.isNull = false →
      (ShortCircuits exact p ((evalInTurn s es).run kept).1 fun negated =>
        ((Expr.eval s (.inList negated exact e es)).run known).1) ∧
      ∀ i, MatchesAt exact p ((evalInTurn s es).run kept).1 i →
        (∀ k < i, ¬MatchesAt exact p ((evalInTurn s es).run kept).1 k) → ∀ negated,
          ((Expr.eval s (.inList negated exact e es)).run known).2 =
            ((evalInTurn s (es.take (i + 1))).run kept).2) ∧
    (∀ p, r = .ok p → PassesTo exact p ((evalInTurn s es).run kept).1 es.length →
      ∀ items, es.Perm items → ∀ t : Table, t.KnownOn s known → (∀ f ∈ e :: es, t.Bound f) →
        ∀ negated, ((Expr.eval s (.inList negated exact e es)).run known).1 =
          ((Expr.eval s (.inList negated exact e items)).run known).1) := by
  refine ⟨?_, ?_, ?_, ?_⟩
  · rintro err rfl negated
    rw [Expr.eval, run_bind, h]
  · rintro p rfl hnull negated
    rw [run_inList negated h, if_pos hnull]
  · rintro p rfl hnull
    simp only [run_inList _ h, hnull, Bool.false_eq_true, if_false]
    rw [holdsAny_eq_membership]
    exact ⟨shortCircuits_membership exact p _, fun i hi first _ => holdsAny_stops hi first⟩
  · rintro p rfl passes items hperm t hknown bound negated
    obtain ⟨hprobe, hitems⟩ := List.forall_mem_cons.1 bound
    obtain ⟨a, ha⟩ := hprobe.binds
    have hkept : t.KnownOn s kept := by
      have hafter := (ha.eval_gives known hknown).2
      rw [h] at hafter
      exact hafter
    -- What is kept on the way differs from one order to the other, but no result depends on it.
    have bound' : ∀ f ∈ items, t.Bound f := fun f hf => hitems f (hperm.mem_iff.2 hf)
    have results := (evalInTurn_of_knownOn hitems hkept).1
    have results' := (evalInTurn_of_knownOn bound' hkept).1
    rw [results] at passes
    rw [run_inList negated h, run_inList negated h, holdsAny_eq_membership,
      holdsAny_eq_membership, results, results',
      membership_perm (by simpa using passes) (hperm.map _)]
    split <;> rfl

/-- The column `N` of a table where a second column is computed from it. -/
def plainColumn : Expr := .column ⟨0, "N", .int32⟩

/-- Surroundings where this column is two. -/
def whereTwo : Surroundings := ⟨⟨default, default⟩, some [.int32 2, .null .int32]⟩

/-- A null, the double of the column, and the column itself. -/
def threeItems : List Expr := [.literal (.null .int32), Table.twice, plainColumn]

/-- A quotient that cannot be computed. -/
def failingQuotient : Expr :=
  .binary (.arithmetic .divide) (.literal (.int32 1)) (.literal (.int32 0))

/-- Two is found behind a null and its double, and before a quotient that fails, with the double
kept. It is found in any other order of the first three items too. -/
theorem two_inList_shortCircuits :
    (plainColumn.eval whereTwo).run [] = (.ok (.int32 2), []) ∧
      ((Expr.eval whereTwo (.inList true false plainColumn (threeItems ++ [failingQuotient]))).run
        []).1 = .ok (.boolean false) ∧
      ((Expr.eval whereTwo (.inList true false plainColumn (threeItems ++ [failingQuotient]))).run
        []).2 = [(1, .int32 4)] ∧
      ∀ items, threeItems.Perm items →
        ((Expr.eval whereTwo (.inList false false plainColumn threeItems)).run []).1 =
          ((Expr.eval whereTwo (.inList false false plainColumn items)).run []).1 := by
  have probe : (plainColumn.eval whereTwo).run [] = (.ok (.int32 2), []) := rfl
  have third : MatchesAt false (.int32 2)
      ((evalInTurn whereTwo (threeItems ++ [failingQuotient])).run []).1 2 :=
    matchesAt_succ.2 ⟨⟨none, rfl⟩, matchesAt_succ.2 ⟨⟨some .lt, rfl⟩, matchesAt_zero.2 rfl⟩⟩
  have others : ∀ k < 2, ¬MatchesAt false (.int32 2)
      ((evalInTurn whereTwo (threeItems ++ [failingQuotient])).run []).1 k := by
    rintro (_ | _ | k) hk hmatch
    · exact nomatch matchesAt_zero.1 hmatch
    · exact nomatch matchesAt_zero.1 (matchesAt_succ.1 hmatch).2
    · omega
  have passes : PassesTo false (.int32 2) ((evalInTurn whereTwo threeItems).run []).1 3 :=
    passesTo_succ.2 ⟨⟨none, rfl⟩, passesTo_succ.2 ⟨⟨some .lt, rfl⟩,
      passesTo_succ.2 ⟨⟨some .eq, rfl⟩, passesTo_zero⟩⟩⟩
  have bound : ∀ f ∈ plainColumn :: threeItems, Table.doubled.Bound f := by
    have column : Table.doubled.Bound plainColumn :=
      .bindTerm (a := .column "N") Table.doubled_reachable rfl
    have null : Table.doubled.Bound (.literal (.null .int32)) :=
      .bindTerm (a := .literal (.null .int32)) Table.doubled_reachable rfl
    simp [threeItems, column, null, Table.twice_bound]
  obtain ⟨-, -, chain, -⟩ := inList_shortCircuits false (threeItems ++ [failingQuotient]) probe
  obtain ⟨whole, stops⟩ := chain _ rfl rfl
  obtain ⟨-, -, -, reordered⟩ := inList_shortCircuits false threeItems probe
  exact ⟨probe, (whole.complement false).2 (whole.true_iff.2 ⟨2, third⟩),
    stops 2 third others true, fun items hperm =>
      reordered _ rfl passes items hperm _ Table.knownOn_nil bound false⟩

end TableFilter
