import Mathlib.Data.Nat.Basic
import Mathlib.Order.Basic
import TableFilter.Proofs.Term.Soundness

/-!
# Derived terms are read

A reader takes all tokens of a term of its level and no more, whatever follows, as long as the next
token does not go on with the term. What goes on with a term is measured by a rank: a token that
joins operands of a level has the rank of that level, and a reader of a level stops at tokens of a
lower rank.

The rules of the grammar repeat a level on the left, where the reader is already in the middle of
its loop. A derivation therefore says how far the loop has come and not that it has ended.

## Main definitions

* `Level.rank`, `bindingRank`: how tightly levels and tokens bind
* `readerAt`, `loopAt`: the reader of a level, and its loop from a term on
* `Reaches`: the reader of a level gets to a term with the tokens of that term used up

## Main results

* `reaches_of_derives`: every derived term is reached
* `reading_iff_derives`: reading gives exactly the derived terms, and fails on all other tokens
-/

namespace TableFilter.Grammar

open Result TokenReader

/-! ### Ranks -/

/-- How tightly the operators of a level bind. -/
def Level.rank : Level → Nat
  | .disjunction => 1
  | .conjunction => 2
  | .negation => 3
  | .predicate => 4
  | .bits => 5
  | .sum => 6
  | .product => 7
  | .signed => 8

/-- The rank of the level at which a token goes on with the term before it. A token that does not
has the rank zero. -/
def bindingRank : Token → Nat
  | .keyword .or | .symbol .orOr => 1
  | .keyword .and | .symbol .andAnd => 2
  | .keyword .is | .keyword .in_ | .keyword .like | .keyword .not => 4
  | .symbol .less | .symbol .lessEqual | .symbol .greater | .symbol .greaterEqual => 4
  | .symbol .equal | .symbol .exactEqual | .symbol .notEqual | .symbol .exactNotEqual => 4
  | .symbol .shiftLeft | .symbol .shiftRight | .symbol .ampersand | .symbol .pipe => 5
  | .symbol .caret | .keyword .xor => 5
  | .symbol .plus | .symbol .minus => 6
  | .symbol .star | .symbol .slash | .symbol .percent => 7
  | .symbol .leftParen => 9
  | _ => 0

/-- The rank of the next token. -/
def nextRank (ts : List Token) : Nat := bindingRank (ts.head?.getD .eof)

@[simp] theorem nextRank_cons (t : Token) (ts : List Token) : nextRank (t :: ts) = bindingRank t :=
  rfl

theorem Chain.rank_lt {level tighter : Level} (h : Chain level tighter) :
    level.rank < tighter.rank := by
  cases h <;> decide

theorem Joins.rank_eq {level : Level} {t : Token} {op : BinaryOperator} (h : Joins level t op) :
    bindingRank t = level.rank := by
  cases h <;> rfl

theorem Compares.rank_eq {t : Token} {op : Comparison} (h : Compares t op) : bindingRank t = 4 := by
  cases h <;> rfl

theorem operator?_eq_none {level : Level} {ts : List Token} (h : nextRank ts < level.rank) :
    level.operator? (ts.head?.getD .eof) = none := by
  cases hop : level.operator? (ts.head?.getD .eof) with
  | none => rfl
  | some op =>
    have := (operator?_eq_some_iff.1 hop).rank_eq
    rw [nextRank] at h
    omega

theorem predicateStart?_eq_none {ts : List Token} (h : nextRank ts < 4) (second : Token) :
    predicateStart? (ts.head?.getD .eof) second = none := by
  unfold predicateStart?
  split
  case h_5 =>
    cases hop : comparison? (ts.head?.getD .eof) with
    | none => rfl
    | some op =>
      have := (comparison?_eq_some_iff.1 hop).rank_eq
      rw [nextRank] at h
      omega
  all_goals
    next heq =>
      rw [nextRank, heq] at h
      exact absurd h (by decide)

/-- The tokens that a term can start with. -/
def startsTerm : Token → Bool
  | .identifier _ | .integer _ | .hex _ | .real _ | .string _ | .dateTime _ | .guid _ => true
  | .measurementKey _ | .pointTag _ => true
  | .keyword .not | .keyword .true_ | .keyword .false_ | .keyword .null => true
  | .symbol .plus | .symbol .minus | .symbol .tilde | .symbol .bang | .symbol .leftParen => true
  | _ => false

/-- Tokens whose first one can start a term. -/
def Starts (ts : List Token) : Prop := ∃ t tail, ts = t :: tail ∧ startsTerm t = true

theorem Starts.append {ts : List Token} (h : Starts ts) (rest : List Token) :
    Starts (ts ++ rest) := by
  obtain ⟨t, tail, rfl, ht⟩ := h
  exact ⟨t, tail ++ rest, rfl, ht⟩

theorem Starts.length_pos {ts : List Token} (h : Starts ts) : 0 < ts.length := by
  obtain ⟨t, tail, rfl, -⟩ := h
  simp

theorem Starts.head_ne {ts : List Token} (h : Starts ts) (rest : List Token) {u : Token}
    (hu : startsTerm u = false) : (ts ++ rest).head?.getD .eof ≠ u := by
  obtain ⟨t, tail, rfl, ht⟩ := h
  rintro rfl
  simp_all

/-! ### Readers by level -/

/-- The reader of a level. -/
def readerAt (nested : TokenReader Term) : Level → TokenReader Term
  | .disjunction => disjunction nested
  | .conjunction => conjunction nested
  | .negation => negation (predicate nested)
  | .predicate => predicate nested
  | .bits => bitOperation nested
  | .sum => sum nested
  | .product => product nested
  | .signed => signed (primary nested)

/-- The loop of the reader of a level from a term on, with a bound on its rounds. -/
def loopAt (nested : TokenReader Term) : Level → Nat → Term → TokenReader Term
  | .disjunction => chainFrom disjunctionOperator? (conjunction nested)
  | .conjunction => chainFrom conjunctionOperator? (negation (predicate nested))
  | .predicate => predicateFrom nested
  | .bits => chainFrom bitOperator? (sum nested)
  | .sum => chainFrom sumOperator? (product nested)
  | .product => chainFrom productOperator? (signed (primary nested))
  | .negation | .signed => fun _ e => pure e

section
variable {nested : TokenReader Term} {level tighter : Level} {ts rest : List Token} {e : Term}

theorem Chain.reader_eq (h : Chain level tighter) :
    readerAt nested level = chain level.operator? (readerAt nested tighter) := by
  cases h <;> rfl

theorem Chain.resume_eq (h : Chain level tighter) :
    loopAt nested level = chainFrom level.operator? (readerAt nested tighter) := by
  cases h <;> rfl

/-- A loop ends at a token of a lower rank. -/
theorem resume_of_lt (h : nextRank rest < level.rank) (n : Nat) (e : Term) :
    loopAt nested level n e rest = .ok (e, rest) := by
  have chained : ∀ {tighter}, Chain level tighter →
      loopAt nested level n e rest = .ok (e, rest) := by
    intro tighter hc
    rw [hc.resume_eq, chainFrom_of_none (operator?_eq_none h)]
  cases level with
  | disjunction => exact chained .disjunction
  | conjunction => exact chained .conjunction
  | negation => rfl
  | predicate => exact predicateFrom_of_none (predicateStart?_eq_none h _) _ _
  | bits => exact chained .bits
  | sum => exact chained .sum
  | product => exact chained .product
  | signed => rfl

/-! ### Reaching a term -/

/-- The reader of a level gets to a term with the tokens of the term used up. Terms may be nested as
deep as there are tokens, and what follows may go on at the level but not at a tighter one. -/
def Reaches (level : Level) (ts : List Token) (e : Term) : Prop :=
  Starts ts ∧ ∀ depth rest, ts.length ≤ depth → nextRank rest ≤ level.rank →
    ∃ n, rest.length ≤ n ∧ readerAt (Term.readerTo depth) level (ts ++ rest) =
      loopAt (Term.readerTo depth) level n e rest

/-- Terms with commas between them are reached: the first one, and the loop over the others up to a
closing parenthesis. -/
def ReachesAll (ts : List Token) (es : List Term) : Prop :=
  ∃ first more a as, ts = first ++ more ∧ es = a :: as ∧ Reaches .disjunction first a ∧
    (∀ rest, nextRank (more ++ .symbol .rightParen :: rest) = 0) ∧
    ∀ depth rest n, more.length < depth → more.length ≤ n →
      commaSeparatedFrom (Term.readerTo depth) n (more ++ .symbol .rightParen :: rest) =
        .ok (as, .symbol .rightParen :: rest)

/-- A term that is reached is read if a token of a lower rank follows. -/
theorem Reaches.reader_eq (h : Reaches level ts e) {depth : Nat} (hd : ts.length ≤ depth)
    (hr : nextRank rest < level.rank) :
    readerAt (Term.readerTo depth) level (ts ++ rest) = .ok (e, rest) := by
  obtain ⟨n, -, hn⟩ := h.2 depth rest hd hr.le
  rw [hn, resume_of_lt hr]

/-- A term that is reached is read as a nested one. -/
theorem Reaches.readerTo_eq (h : Reaches .disjunction ts e) {depth : Nat} (hd : ts.length < depth)
    (hr : nextRank rest = 0) : Term.readerTo depth (ts ++ rest) = .ok (e, rest) := by
  obtain ⟨depth, rfl⟩ := Nat.exists_eq_add_of_lt hd
  exact h.reader_eq (by omega) (by rw [hr]; decide)

theorem ReachesAll.starts {es : List Term} (h : ReachesAll ts es) : Starts ts := by
  obtain ⟨first, more, a, as, rfl, -, hfirst, -⟩ := h
  exact hfirst.1.append more

/-- Terms that are reached are read if a closing parenthesis follows. -/
theorem ReachesAll.commaSeparated_eq {es : List Term} (h : ReachesAll ts es) {depth : Nat}
    (hd : ts.length < depth) (rest : List Token) :
    commaSeparated (Term.readerTo depth) (ts ++ .symbol .rightParen :: rest) =
      .ok (es, .symbol .rightParen :: rest) := by
  obtain ⟨first, more, a, as, rfl, rfl, hfirst, hrank, hmore⟩ := h
  rw [List.length_append] at hd
  rw [List.append_assoc, commaSeparated_apply, hfirst.readerTo_eq (by omega) (hrank rest)]
  simp only [ok_bind]
  rw [hmore depth rest _ (by omega) (by simp), map_ok]

theorem reaches_operand (chain : Chain level tighter) (h : Reaches tighter ts e) :
    Reaches level ts e := by
  refine ⟨h.1, fun depth rest hd hr => ⟨rest.length, le_rfl, ?_⟩⟩
  rw [chain.reader_eq, chain_apply, h.reader_eq hd (hr.trans_lt chain.rank_lt), chain.resume_eq]
  rfl

theorem reaches_join {l r : List Token} {t : Token} {op : BinaryOperator} {a b : Term}
    (chain : Chain level tighter) (joins : Joins level t op) (left : Reaches level l a)
    (right : Reaches tighter r b) : Reaches level (l ++ t :: r) (.binary op a b) := by
  refine ⟨left.1.append _, fun depth rest hd hr => ?_⟩
  simp only [List.length_append, List.length_cons] at hd
  obtain ⟨n, hn, heq⟩ := left.2 depth (t :: (r ++ rest)) (by omega) joins.rank_eq.le
  obtain ⟨n, rfl⟩ : ∃ k, n = k + 1 := Nat.exists_eq_succ_of_ne_zero (by
    rw [List.length_cons] at hn; omega)
  refine ⟨n, by simp at hn; omega, ?_⟩
  rw [List.append_assoc, List.cons_append, heq, chain.resume_eq,
    chainFrom_of_some (operator?_eq_some_iff.2 joins),
    right.reader_eq (by omega) (hr.trans_lt chain.rank_lt)]
  rfl

theorem reaches_negated {t : Token} (negates : Negates t) (h : Reaches .negation ts e) :
    Reaches .negation (t :: ts) (.unary .not e) := by
  refine ⟨⟨t, ts, rfl, by cases negates <;> rfl⟩, fun depth rest hd hr => ?_⟩
  refine ⟨rest.length, le_rfl, ?_⟩
  obtain ⟨n, -, heq⟩ := h.2 depth rest (by simp at hd; omega) hr
  change negation _ (t :: (ts ++ rest)) = _
  rw [negation, if_pos (isNegation_iff.2 negates)]
  change (readerAt _ .negation (ts ++ rest) >>= _) = _
  rw [heq]
  rfl

theorem reaches_positive (head : ∀ t, ts.head? = some t → ¬ Negates t)
    (h : Reaches .predicate ts e) : Reaches .negation ts e := by
  refine ⟨h.1, fun depth rest hd hr => ⟨rest.length, le_rfl, ?_⟩⟩
  have heq := h.reader_eq hd (hr.trans_lt (by decide : Level.negation.rank < 4))
  obtain ⟨t, ts, rfl, -⟩ := h.1
  change negation _ (t :: (ts ++ rest)) = _
  rw [negation, if_neg fun hneg => head t rfl (isNegation_iff.1 hneg)]
  exact heq

theorem reaches_subject (h : Reaches .bits ts e) : Reaches .predicate ts e := by
  refine ⟨h.1, fun depth rest hd hr => ⟨rest.length, le_rfl, ?_⟩⟩
  change predicate _ _ = _
  rw [predicate_apply]
  change (readerAt _ .bits (ts ++ rest) >>= _) = _
  rw [h.reader_eq hd (hr.trans_lt (by decide : Level.predicate.rank < 5))]
  rfl

/-- A predicate on a term that is reached is reached, if its rest is read. -/
theorem reaches_predicate (start : PredicateStart) (name tail : List Token) {a : Term}
    (left : Reaches .predicate ts a) (hne : name ≠ [])
    (hname : ∀ rest, predicateStart? ((name ++ (tail ++ rest)).head?.getD .eof)
      ((name ++ (tail ++ rest))[1]?.getD .eof) = some (start, name.length))
    (hrank : ∀ rest, nextRank (name ++ (tail ++ rest)) = 4)
    (hrest : ∀ depth rest, tail.length < depth → nextRank rest ≤ 4 →
      predicateRest (Term.readerTo depth) a start (tail ++ rest) = .ok (e, rest)) :
    Reaches .predicate (ts ++ (name ++ tail)) e := by
  refine ⟨left.1.append _, fun depth rest hd hr => ?_⟩
  have hpos := left.1.length_pos
  simp only [List.length_append] at hd
  obtain ⟨n, hn, heq⟩ := left.2 depth (name ++ (tail ++ rest)) (by omega) (hrank rest).le
  have hlen : 0 < name.length := List.length_pos_iff.2 hne
  simp only [List.length_append] at hn
  obtain ⟨n, rfl⟩ : ∃ k, n = k + 1 := Nat.exists_eq_succ_of_ne_zero (by omega)
  refine ⟨n, by omega, ?_⟩
  rw [List.append_assoc, List.append_assoc, heq]
  change predicateFrom _ (n + 1) a _ = predicateFrom _ n e rest
  rw [predicateFrom_of_some (hname rest), List.drop_left, hrest depth rest (by omega) hr]
  rfl

theorem exactMark_apply {mark : List Token} {exact : Bool} (h : ExactMark mark exact)
    (hb : rest.head?.getD .eof ≠ .keyword .binary)
    (he : rest.head?.getD .eof ≠ .symbol .exactEqual) :
    exactMark (mark ++ rest) = .ok (exact, rest) := by
  cases h with
  | none => simp [exactMark, bind_apply, skipIf_of_ne hb, skipIf_of_ne he]
  | binary => simp [exactMark, bind_apply, skipIf_cons]
  | exactEqual =>
    have hne : (Token.symbol .exactEqual :: rest).head?.getD .eof ≠ .keyword .binary := by simp
    simp [exactMark, bind_apply, skipIf_of_ne hne, skipIf_cons]

theorem reaches_nullTest (negated : Bool) (h : Reaches .predicate ts e) :
    Reaches .predicate (ts ++ .keyword .is :: (notTokens negated ++ [.keyword .null]))
      (.nullTest negated e) := by
  refine reaches_predicate .null [.keyword .is] _ h (by simp) (fun _ => rfl)
    (fun _ => rfl) fun depth rest _ _ => ?_
  cases negated with
  | true =>
    simp [notTokens, predicateRest, bind_apply, skipIf_cons, expect_cons]
  | false =>
    have hne : (Token.keyword .null :: rest).head?.getD .eof ≠ .keyword .not := by simp
    simp [notTokens, predicateRest, bind_apply, skipIf_of_ne hne, expect_cons]

theorem reaches_membership (negated : Bool) {exact : Bool} {mark items : List Token}
    {es : List Term} (exactly : ExactMark mark exact) (h : Reaches .predicate ts e)
    (all : ReachesAll items es) :
    Reaches .predicate
      (ts ++ (notTokens negated ++ .keyword .in_ ::
        (mark ++ .symbol .leftParen :: (items ++ [.symbol .rightParen]))))
      (.inList negated exact e es) := by
  have hread : ∀ depth rest, items.length < depth →
      predicateRest (Term.readerTo depth) e (.membership negated)
        (mark ++ .symbol .leftParen :: (items ++ .symbol .rightParen :: rest)) =
        .ok (.inList negated exact e es, rest) := by
    intro depth rest hd
    simp only [predicateRest, membership, bind_apply]
    rw [exactMark_apply exactly (by simp) (by simp)]
    simp only [ok_bind, expect_cons, all.commaSeparated_eq hd, pure_apply]
  have hreach := reaches_predicate (.membership negated) (notTokens negated ++ [.keyword .in_])
    (mark ++ .symbol .leftParen :: (items ++ [.symbol .rightParen]))
    (e := .inList negated exact e es) h (by simp)
    (fun _ => by cases negated <;> rfl) (fun _ => by cases negated <;> rfl)
    (fun depth rest hd _ => by simpa using hread depth rest (by simp at hd; omega))
  simpa using hreach

theorem reaches_likeness (negated : Bool) {exact : Bool} {mark l r : List Token} {a b : Term}
    (exactly : ExactMark mark exact) (left : Reaches .predicate l a) (right : Reaches .bits r b) :
    Reaches .predicate (l ++ (notTokens negated ++ .keyword .like :: (mark ++ r)))
      (.binary (.like negated exact) a b) := by
  have hread : ∀ depth rest, r.length < depth → nextRank rest ≤ 4 →
      predicateRest (Term.readerTo depth) a (.likeness negated) (mark ++ (r ++ rest)) =
        .ok (.binary (.like negated exact) a b, rest) := by
    intro depth rest hd hr
    have hbits : bitOperation (Term.readerTo depth) (r ++ rest) = .ok (b, rest) :=
      right.reader_eq hd.le (hr.trans_lt (by decide : 4 < 5))
    simp only [predicateRest, likeness, bind_apply]
    rw [exactMark_apply exactly (right.1.head_ne _ rfl) (right.1.head_ne _ rfl)]
    simp only [ok_bind, hbits, pure_apply]
  have hreach := reaches_predicate (.likeness negated) (notTokens negated ++ [.keyword .like])
    (mark ++ r) (e := .binary (.like negated exact) a b) left
    (by simp) (fun _ => by cases negated <;> rfl) (fun _ => by cases negated <;> rfl)
    (fun depth rest hd hr => by simpa using hread depth rest (by simp at hd; omega) hr)
  simpa using hreach

theorem reaches_comparison {l r : List Token} {t : Token} {op : Comparison} {a b : Term}
    (compares : Compares t op) (left : Reaches .predicate l a) (right : Reaches .bits r b) :
    Reaches .predicate (l ++ t :: r) (.binary (.comparison op) a b) := by
  refine reaches_predicate (.comparison op) [t] r left (by simp) (fun _ => ?_)
    (fun _ => compares.rank_eq) fun depth rest hd hr => ?_
  · cases compares <;> rfl
  · have hbits : bitOperation (Term.readerTo depth) (r ++ rest) = .ok (b, rest) :=
      right.reader_eq hd.le (hr.trans_lt (by decide : 4 < 5))
    simp [predicateRest, bind_apply, hbits]

/-! ### The tightest level -/

theorem reaches_sign {t : Token} {op : UnaryOperator} (signs : Signs t op)
    (number : op = .minus → ∀ u, ts.head? = some u → ¬ IsNumber u) (h : Reaches .signed ts e) :
    Reaches .signed (t :: ts) (.unary op e) := by
  refine ⟨⟨t, ts, rfl, by cases signs <;> rfl⟩, fun depth rest hd hr => ?_⟩
  refine ⟨rest.length, le_rfl, ?_⟩
  obtain ⟨n, -, heq⟩ := h.2 depth rest (by simp at hd; omega) hr
  obtain ⟨u, ts, rfl, -⟩ := h.1
  have hnumber : op = .minus → ((u :: ts ++ rest).head?).bind (numberValue? true) = none := by
    intro hminus
    by_contra hsome
    have hu := Option.isSome_iff_ne_none.2 hsome
    exact number hminus u rfl ((isSome_numberValue?_iff true).1 hu)
  change signed _ (t :: (u :: ts ++ rest)) = _
  rw [signed_of_some (prefixOperator?_eq_some_iff.2 signs) hnumber]
  change (readerAt _ .signed (u :: ts ++ rest)).map _ = _
  rw [heq]
  rfl

theorem reaches_negativeNumber {t : Token} {v : Value} (value : NumberValue true t v) :
    Reaches .signed [.symbol .minus, t] (.literal v) :=
  ⟨⟨_, _, rfl, rfl⟩, fun _ rest _ _ => ⟨rest.length, le_rfl,
    signed_number (numberValue?_eq_some_iff.2 value) rest⟩⟩

theorem reaches_literal {t : Token} {v : Value} (value : LiteralValue t v) :
    Reaches .signed [t] (.literal v) := by
  have hprefix : prefixOperator? t = none := by
    cases value with
    | number h => cases h <;> rfl
    | _ => rfl
  have hstarts : startsTerm t = true := by
    cases value with
    | number h => cases h <;> rfl
    | _ => rfl
  refine ⟨⟨t, [], rfl, hstarts⟩, fun depth rest _ _ => ⟨rest.length, le_rfl, ?_⟩⟩
  change signed _ (t :: rest) = _
  rw [signed_of_none hprefix, primary_of_literal (literalValue?_eq_some_iff.2 value)]
  rfl

/-- A name is read as what its reader makes of the tokens after it. -/
theorem readerAt_signed_identifier (name : String) (ts : List Token) :
    readerAt nested .signed (.identifier name :: ts) = named nested name ts :=
  (signed_of_none (by rfl) ts).trans (primary_identifier name ts)

theorem reaches_column (name : String) : Reaches .signed [.identifier name] (.column name) := by
  refine ⟨⟨_, _, rfl, rfl⟩, fun depth rest _ hr => ⟨rest.length, le_rfl, ?_⟩⟩
  rw [List.singleton_append, readerAt_signed_identifier, named_column]
  · rfl
  · intro h
    rw [nextRank, h] at hr
    exact absurd hr (by decide)

theorem reaches_callNone {name : String} {f : Builtin} (known : Builtin.ofName? name = some f) :
    Reaches .signed [.identifier name, .symbol .leftParen, .symbol .rightParen] (.call f []) := by
  refine ⟨⟨_, _, rfl, rfl⟩, fun depth rest _ _ => ⟨rest.length, le_rfl, ?_⟩⟩
  simp only [List.cons_append, List.nil_append]
  rw [readerAt_signed_identifier, named_call known, arguments_none]
  rfl

theorem reaches_call {name : String} {f : Builtin} {args : List Token} {es : List Term}
    (known : Builtin.ofName? name = some f) (all : ReachesAll args es) :
    Reaches .signed (.identifier name :: .symbol .leftParen :: (args ++ [.symbol .rightParen]))
      (.call f es) := by
  refine ⟨⟨_, _, rfl, rfl⟩, fun depth rest hd _ => ⟨rest.length, le_rfl, ?_⟩⟩
  simp only [List.length_cons, List.length_append] at hd
  simp only [List.cons_append, List.append_assoc, List.nil_append]
  have hopen : (args ++ .symbol .rightParen :: rest).head? ≠ some (.symbol .rightParen) := by
    intro h
    exact all.starts.head_ne (.symbol .rightParen :: rest) (u := .symbol .rightParen) rfl
      (by rw [h]; rfl)
  rw [readerAt_signed_identifier, named_call known, arguments_some hopen,
    all.commaSeparated_eq (by omega)]
  simp only [ok_bind, expect_cons, map_ok]
  rfl

theorem reaches_parentheses (h : Reaches .disjunction ts e) :
    Reaches .signed (.symbol .leftParen :: (ts ++ [.symbol .rightParen])) e := by
  refine ⟨⟨_, _, rfl, rfl⟩, fun depth rest hd _ => ⟨rest.length, le_rfl, ?_⟩⟩
  simp only [List.length_cons, List.length_append] at hd
  simp only [List.cons_append, List.append_assoc, List.nil_append]
  change signed (primary (Term.readerTo depth))
    (.symbol .leftParen :: (ts ++ .symbol .rightParen :: rest)) = .ok (e, rest)
  have hprefix : prefixOperator? (.symbol .leftParen) = none := rfl
  rw [signed_of_none hprefix, primary_leftParen, h.readerTo_eq (by omega) rfl]
  simp only [ok_bind, expect_cons, map_ok]

/-! ### All derived terms -/

theorem reachesAll_one (h : Reaches .disjunction ts e) : ReachesAll ts [e] := by
  refine ⟨ts, [], e, [], by simp, rfl, h, fun rest => rfl, fun depth rest n _ _ => ?_⟩
  exact commaSeparatedFrom_of_ne _ _ (by simp)

theorem reachesAll_cons {more : List Token} {es : List Term} (h : Reaches .disjunction ts e)
    (all : ReachesAll more es) : ReachesAll (ts ++ .symbol .comma :: more) (e :: es) := by
  obtain ⟨first, further, a, as, rfl, rfl, hfirst, hrank, hfurther⟩ := all
  refine ⟨ts, _, e, a :: as, rfl, rfl, h, fun rest => rfl, fun depth rest n hd hn => ?_⟩
  simp only [List.length_cons, List.length_append] at hd hn
  obtain ⟨n, rfl⟩ : ∃ k, n = k + 1 := Nat.exists_eq_succ_of_ne_zero (by omega)
  rw [List.cons_append, commaSeparatedFrom_comma, List.append_assoc,
    hfirst.readerTo_eq (by omega) (hrank rest)]
  simp only [ok_bind]
  rw [hfurther depth rest n (by omega) (by omega), map_ok]

/-- Every derived term is reached. -/
theorem reaches_of_derives (h : Derives level ts e) : Reaches level ts e := by
  refine Derives.rec (motive_1 := fun level ts e _ => Reaches level ts e)
    (motive_2 := fun ts es _ => ReachesAll ts es) ?operand ?join ?negated ?positive ?subject
    ?nullTest ?membership ?likeness ?comparison ?sign ?negativeNumber ?literal ?column ?callNone
    ?call ?parentheses ?one ?cons h
  case operand => exact fun chain _ ih => reaches_operand chain ih
  case join => exact fun chain joins _ _ left right => reaches_join chain joins left right
  case negated => exact fun negates _ ih => reaches_negated negates ih
  case positive => exact fun head _ ih => reaches_positive head ih
  case subject => exact fun _ ih => reaches_subject ih
  case nullTest => exact fun negated _ _ _ ih => reaches_nullTest negated ih
  case membership =>
    exact fun negated _ _ _ _ _ _ exactly _ _ ih all => reaches_membership negated exactly ih all
  case likeness =>
    exact fun negated _ _ _ _ _ _ exactly _ _ left right =>
      reaches_likeness negated exactly left right
  case comparison => exact fun compares _ _ left right => reaches_comparison compares left right
  case sign => exact fun signs number _ ih => reaches_sign signs number ih
  case negativeNumber => exact fun value => reaches_negativeNumber value
  case literal => exact fun value => reaches_literal value
  case column => exact fun name => reaches_column name
  case callNone => exact fun known => reaches_callNone known
  case call => exact fun known _ all => reaches_call known all
  case parentheses => exact fun _ ih => reaches_parentheses ih
  case one => exact fun _ ih => reachesAll_one ih
  case cons => exact fun _ _ ih all => reachesAll_cons ih all

end

/-! ### The end of the tokens -/

/-- Tokens none of which ends a statement. -/
def Continues (ts : List Token) : Prop := ∀ t ∈ ts, t.endsStatement = false

@[simp] theorem continues_nil : Continues [] := fun _ h => nomatch h

@[simp] theorem continues_cons {t : Token} {ts : List Token} :
    Continues (t :: ts) ↔ t.endsStatement = false ∧ Continues ts := List.forall_mem_cons

@[simp] theorem continues_append {ts us : List Token} :
    Continues (ts ++ us) ↔ Continues ts ∧ Continues us := List.forall_mem_append

theorem Continues.eof_notMem {ts : List Token} (h : Continues ts) : .eof ∉ ts := fun heof =>
  Bool.false_ne_true (h _ heof).symm

/-- No token of a term ends the statement that the term stands in. -/
theorem continues_of_derives {level : Level} {ts : List Token} {e : Term}
    (h : Derives level ts e) : Continues ts := by
  have hnot : ∀ negated, Continues (notTokens negated) := by
    intro negated
    cases negated <;> simp [notTokens, Token.endsStatement]
  have hmark : ∀ {mark exact}, ExactMark mark exact → Continues mark := by
    intro mark exact h
    cases h <;> simp [Token.endsStatement]
  refine Derives.rec (motive_1 := fun _ ts _ _ => Continues ts)
    (motive_2 := fun ts _ _ => Continues ts) ?operand ?join ?negated ?positive ?subject ?nullTest
    ?membership ?likeness ?comparison ?sign ?negativeNumber ?literal ?column ?callNone ?call
    ?parentheses ?one ?cons h
  case operand => exact fun _ _ ih => ih
  case join =>
    intro _ _ l r t op a b _ joins _ _ left right
    have ht : t.endsStatement = false := by cases joins <;> rfl
    simp [left, right, ht]
  case negated =>
    intro t ts e negates _ ih
    have ht : t.endsStatement = false := by cases negates <;> rfl
    simp [ih, ht]
  case positive => exact fun _ _ ih => ih
  case subject => exact fun _ ih => ih
  case nullTest =>
    intro negated ts e _ ih
    simp [ih, hnot negated, Token.endsStatement]
  case membership =>
    intro negated exact mark ts items e es exactly _ _ ih all
    simp [ih, all, hnot negated, hmark exactly, Token.endsStatement]
  case likeness =>
    intro negated exact mark l r a b exactly _ _ left right
    simp [left, right, hnot negated, hmark exactly, Token.endsStatement]
  case comparison =>
    intro l r t op a b compares _ _ left right
    have ht : t.endsStatement = false := by cases compares <;> rfl
    simp [left, right, ht]
  case sign =>
    intro t op ts e signs _ _ ih
    have ht : t.endsStatement = false := by cases signs <;> rfl
    simp [ih, ht]
  case negativeNumber =>
    intro t v value
    have ht : t.endsStatement = false := by cases value <;> rfl
    exact continues_cons.2 ⟨rfl, by simp [ht]⟩
  case literal =>
    intro t v value
    have ht : t.endsStatement = false := by
      rcases value with ⟨⟨⟩⟩ <;> rfl
    simp [ht]
  case column => simp [Token.endsStatement]
  case callNone => simp [Token.endsStatement]
  case call =>
    intro name f args es _ _ all
    simp [all, Token.endsStatement]
  case parentheses =>
    intro ts e _ ih
    simp [ih, Token.endsStatement]
  case one => exact fun _ ih => ih
  case cons =>
    intro ts rest e es _ _ ih all
    simp [ih, all, Token.endsStatement]

/-- The tokens before the first end. -/
def beforeEnd (ts : List Token) : List Token := ts.takeWhile (· != .eof)

theorem head_dropWhile_eof (ts : List Token) :
    (ts.dropWhile (· != .eof)).head?.getD .eof = .eof := by
  induction ts with
  | nil => rfl
  | cons t ts ih =>
    rw [List.dropWhile_cons]
    split
    · exact ih
    · next h => simpa using h

theorem beforeEnd_eof {ts : List Token} (h : ts.head?.getD .eof = .eof) : beforeEnd ts = [] := by
  cases ts with
  | nil => rfl
  | cons t ts =>
    obtain rfl : t = .eof := h
    rfl

theorem eof_notMem_beforeEnd (ts : List Token) : .eof ∉ beforeEnd ts := by
  intro h
  have hall : (beforeEnd ts).all (· != .eof) = true := List.all_takeWhile
  have hne := List.all_eq_true.1 hall _ h
  exact absurd hne (by decide)

theorem beforeEnd_append {used : List Token} (hu : .eof ∉ used) (rest : List Token) :
    beforeEnd (used ++ rest) = used ++ beforeEnd rest := by
  have hall : ∀ t ∈ used, (t != .eof) = true := by
    intro t ht
    rw [bne_iff_ne]
    rintro rfl
    exact hu ht
  exact List.takeWhile_append_of_pos hall

theorem run'_ok_iff {α : Type} {reader : TokenReader α} {ts : List Token} {a : α} :
    reader.run' ts = .ok a ↔ ∃ rest, reader ts = .ok (a, rest) := by
  change (reader ts).map Prod.fst = .ok a ↔ _
  rw [map_eq_ok]
  constructor
  · rintro ⟨⟨b, rest⟩, h, rfl⟩
    exact ⟨rest, h⟩
  · rintro ⟨rest, h⟩
    exact ⟨(a, rest), h, rfl⟩

/-- The term that is read is the one that the tokens before the end derive. -/
theorem reader_run'_iff {ts : List Token} {e : Term} :
    Term.reader.toEnd.run' ts = .ok e ↔ Derives .disjunction (beforeEnd ts) e := by
  rw [run'_ok_iff]
  constructor
  · rintro ⟨rest, h⟩
    obtain ⟨a, mid, hread, hmore⟩ := bind_ok.1 h
    obtain ⟨t, _, hpeek, hend⟩ := bind_ok.1 hmore
    cases hpeek
    obtain ⟨used, rfl, hd⟩ := readerTo_reads _ hread
    split at hend
    · next heof =>
      cases hend
      rwa [beforeEnd_append (continues_of_derives hd).eof_notMem, beforeEnd_eof (eq_of_beq heof),
        List.append_nil]
    · simp at hend
  · intro hd
    have hrank : nextRank (ts.dropWhile (· != .eof)) = 0 := by
      rw [nextRank, head_dropWhile_eof]
      rfl
    have hlength : (beforeEnd ts).length < ts.length + 1 :=
      Nat.lt_succ_of_le (List.takeWhile_sublist _).length_le
    have hread := (reaches_of_derives hd).readerTo_eq hlength hrank
    rw [beforeEnd, List.takeWhile_append_dropWhile] at hread
    refine ⟨ts.dropWhile (· != .eof), ?_⟩
    rw [toEnd, bind_apply]
    change (Term.readerTo _ ts >>= _) = _
    rw [hread]
    simp [bind_apply, head_dropWhile_eof]

/-- **Reading gives exactly the derived terms.** Of any list of tokens, a term is read if and only
if the tokens before the end derive it at the loosest level. If they derive none, reading fails
because of malformed text. -/
theorem reading_iff_derives (ts : List Token) :
    (∀ e, Term.reader.toEnd.run' ts = .ok e ↔ Derives .disjunction (beforeEnd ts) e) ∧
      ((¬ ∃ e, Derives .disjunction (beforeEnd ts) e) →
        ∃ m, Term.reader.toEnd.run' ts = .error (.malformed m)) := by
  refine ⟨fun e => reader_run'_iff, fun hnone => ?_⟩
  cases hrun : Term.reader.toEnd ts with
  | ok p =>
    refine absurd ⟨p.1, reader_run'_iff.1 ?_⟩ hnone
    exact run'_ok_iff.2 ⟨p.2, hrun⟩
  | error e =>
    have hmalformed : FailsMalformed Term.reader.toEnd :=
      .toEnd fun ts e h => readerTo_failsMalformed _ ts e h
    obtain ⟨m, rfl⟩ := hmalformed ts e hrun
    exact ⟨m, by rw [StateT.run', hrun]; rfl⟩

end TableFilter.Grammar
