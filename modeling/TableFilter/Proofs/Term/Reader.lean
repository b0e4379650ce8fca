import TableFilter.Proofs.Result
import TableFilter.Term.OfTokens

/-!
# Running token readers

What the steps that readers are made of do to a list of tokens. A reader is opened with these lemmas
and never with its monad.

Two forms are needed. To follow a reader on tokens that are known, `bind_apply` and the equations
of the single steps rewrite it. To learn from its outcome what the tokens were, the lemmas that end
in `_ok` take a successful run apart.

## Main definitions

* `TokenReader.FailsMalformed`: a reader whose only errors are those of malformed text

## Main results

* `bind_ok`, `expect_ok`, `skipIf_ok`: the runs of a reader that succeed, step by step
* `FailsMalformed.bind`: sequencing keeps the kind of error
-/

namespace TableFilter.TokenReader

open Result

variable {α β : Type} {ts rest : List Token} {t : Token}

/-! ### Following a reader -/

theorem bind_apply (x : TokenReader α) (f : α → TokenReader β) (ts : List Token) :
    (x >>= f) ts = (x ts >>= fun p => f p.1 p.2) := rfl

@[simp] theorem pure_apply (a : α) (ts : List Token) :
    (pure a : TokenReader α) ts = .ok (a, ts) := rfl

@[simp] theorem map_apply (f : α → β) (x : TokenReader α) (ts : List Token) :
    (f <$> x) ts = (x ts).map fun p => (f p.1, p.2) := by
  change (x ts >>= fun p => pure (f p.1, p.2)) = _
  cases x ts <;> rfl

@[simp] theorem get_apply (ts : List Token) : (get : TokenReader (List Token)) ts = .ok (ts, ts) :=
  rfl

@[simp] theorem modify_apply (f : List Token → List Token) (ts : List Token) :
    (modify f : TokenReader PUnit) ts = .ok (⟨⟩, f ts) := rfl

@[simp] theorem throw_apply (e : Error) (ts : List Token) :
    (throw e : TokenReader α) ts = .error e := rfl

@[simp] theorem lift_apply (r : Result α) (ts : List Token) :
    (liftM r : TokenReader α) ts = r.map fun a => (a, ts) := by
  cases r <;> rfl

@[simp] theorem peek_apply (ts : List Token) : peek ts = .ok (ts.head?.getD .eof, ts) := rfl

@[simp] theorem peekSecond_apply (ts : List Token) :
    peekSecond ts = .ok (ts[1]?.getD .eof, ts) := rfl

@[simp] theorem advance_apply (ts : List Token) : advance ts = .ok ((), ts.tail) := rfl

@[simp] theorem unexpected_apply (expected : Expected) (ts : List Token) :
    (unexpected expected : TokenReader α) ts =
      .error (.malformed (.unexpectedToken expected (ts.head?.getD .eof))) := rfl

theorem expect_cons (t : Token) (ts : List Token) : expect t (t :: ts) = .ok ((), ts) := by
  simp [expect, bind_apply]

theorem skipIf_cons (t : Token) (ts : List Token) : skipIf t (t :: ts) = .ok (true, ts) := by
  simp [skipIf, bind_apply]

theorem skipIf_of_ne (h : ts.head?.getD .eof ≠ t) : skipIf t ts = .ok (false, ts) := by
  simp [skipIf, bind_apply, h]

theorem commaSeparated_apply (item : TokenReader α) (ts : List Token) :
    commaSeparated item ts = (item ts >>= fun p =>
      (commaSeparatedFrom item p.2.length p.2).map fun q => (p.1 :: q.1, q.2)) := by
  rw [commaSeparated, bind_apply]
  simp [bind_apply]

theorem commaSeparatedFrom_comma (item : TokenReader α) (n : Nat) (ts : List Token) :
    commaSeparatedFrom item (n + 1) (.symbol .comma :: ts) = (item ts >>= fun p =>
      (commaSeparatedFrom item n p.2).map fun q => (p.1 :: q.1, q.2)) := by
  rw [commaSeparatedFrom, bind_apply, skipIf_cons]
  simp [bind_apply]

theorem commaSeparatedFrom_of_ne (item : TokenReader α) (n : Nat)
    (h : ts.head? ≠ some (.symbol .comma)) : commaSeparatedFrom item n ts = .ok ([], ts) := by
  cases n with
  | zero => rfl
  | succ n =>
    have hne : ts.head?.getD .eof ≠ .symbol .comma := by
      cases ts with
      | nil => simp
      | cons t ts => simpa using h
    rw [commaSeparatedFrom, bind_apply, skipIf_of_ne hne]
    rfl

/-! ### Taking a run apart -/

theorem bind_ok {x : TokenReader α} {f : α → TokenReader β} {b : β} :
    (x >>= f) ts = .ok (b, rest) ↔
      ∃ a mid, x ts = .ok (a, mid) ∧ f a mid = .ok (b, rest) := by
  rw [bind_apply]
  cases h : x ts with
  | error e => simp
  | ok p =>
    obtain ⟨a, mid⟩ := p
    refine ⟨fun hf => ⟨a, mid, rfl, hf⟩, ?_⟩
    rintro ⟨a', mid', heq, hf⟩
    cases heq
    exact hf

/-- The next token is the given one if it is not the end and the default shows it. -/
theorem eq_cons_of_head (ht : t ≠ .eof) (h : ts.head?.getD .eof = t) : ∃ tail, ts = t :: tail := by
  cases ts with
  | nil => exact absurd h.symm ht
  | cons u tail => exact ⟨tail, by simpa using h⟩

theorem expect_ok (ht : t ≠ .eof) (h : expect t ts = .ok ((), rest)) : ts = t :: rest := by
  by_cases heq : ts.head?.getD .eof = t
  · obtain ⟨tail, rfl⟩ := eq_cons_of_head ht heq
    rw [expect_cons] at h
    simp_all
  · simp [expect, bind_apply, heq] at h

theorem skipIf_ok (ht : t ≠ .eof) {found : Bool} (h : skipIf t ts = .ok (found, rest)) :
    (found = true ∧ ts = t :: rest) ∨ (found = false ∧ ts = rest ∧ ts.head?.getD .eof ≠ t) := by
  by_cases heq : ts.head?.getD .eof = t
  · obtain ⟨tail, rfl⟩ := eq_cons_of_head ht heq
    rw [skipIf_cons] at h
    simp_all
  · rw [skipIf_of_ne heq] at h
    simp_all

theorem identifier_ok {name : String} (h : identifier ts = .ok (name, rest)) :
    ts = .identifier name :: rest := by
  cases ts with
  | nil => simp [identifier, bind_apply] at h
  | cons u tail =>
    cases u <;> simp_all [identifier, bind_apply]

/-! ### Kinds of errors -/

/-- A reader whose only errors are those of malformed text. -/
def FailsMalformed (reader : TokenReader α) : Prop :=
  ∀ ts e, reader ts = .error e → ∃ m, e = .malformed m

namespace FailsMalformed

theorem bind {x : TokenReader α} {f : α → TokenReader β} (hx : FailsMalformed x)
    (hf : ∀ a, FailsMalformed (f a)) : FailsMalformed (x >>= f) := by
  intro ts e h
  rw [bind_apply] at h
  cases hr : x ts with
  | error e' =>
    rw [hr] at h
    obtain ⟨m, rfl⟩ := hx ts e' hr
    exact ⟨m, by simpa using h.symm⟩
  | ok p =>
    rw [hr] at h
    exact hf p.1 p.2 e h

theorem pure (a : α) : FailsMalformed (Pure.pure a) := fun ts e h => by simp at h

theorem get : FailsMalformed (MonadState.get : TokenReader (List Token)) := fun ts e h => by
  simp at h

theorem ofModify (f : List Token → List Token) :
    FailsMalformed (modify f : TokenReader PUnit) := fun ts e h => by simp at h

theorem ofThrow (m : Malformed) : FailsMalformed (throw (.malformed m) : TokenReader α) :=
  fun ts e h => ⟨m, by simpa using h.symm⟩

theorem peek : FailsMalformed TokenReader.peek := fun ts e h => by simp at h

theorem peekSecond : FailsMalformed TokenReader.peekSecond := fun ts e h => by simp at h

theorem advance : FailsMalformed TokenReader.advance := fun ts e h => by simp at h

theorem unexpected (expected : Expected) :
    FailsMalformed (TokenReader.unexpected expected : TokenReader α) :=
  fun ts e h => ⟨_, by simpa using h.symm⟩

theorem skipIf (t : Token) : FailsMalformed (TokenReader.skipIf t) := by
  refine bind peek fun u => ?_
  dsimp only
  split
  · exact bind advance fun _ => pure _
  · exact pure _

theorem expect (t : Token) : FailsMalformed (TokenReader.expect t) := by
  refine bind peek fun u => ?_
  split
  · exact advance
  · exact unexpected _

theorem identifier : FailsMalformed TokenReader.identifier := by
  refine bind peek fun u => ?_
  split
  · exact bind advance fun _ => pure _
  · exact unexpected _

theorem toEnd {reader : TokenReader α} (h : FailsMalformed reader) :
    FailsMalformed reader.toEnd := by
  refine bind h fun a => bind peek fun u => ?_
  split
  · exact pure a
  · exact unexpected _

theorem commaSeparated {item : TokenReader α} (h : FailsMalformed item) :
    FailsMalformed (TokenReader.commaSeparated item) := by
  have further : ∀ n, FailsMalformed (commaSeparatedFrom item n) := by
    intro n
    induction n with
    | zero => exact pure []
    | succ n ih =>
      refine bind (skipIf _) fun found => ?_
      split
      · exact bind h fun a => bind ih fun as => pure _
      · exact pure []
  exact bind h fun a => bind get fun ts => bind (further _) fun as => pure _

end FailsMalformed

end TableFilter.TokenReader

namespace TableFilter.Grammar

open Result TokenReader

variable {operator? : Token → Option BinaryOperator} {operand nested : TokenReader Term}
  {ts : List Token} {t : Token}

/-! ### Following the readers of terms -/

theorem chain_apply (ts : List Token) :
    chain operator? operand ts = (operand ts >>= fun p =>
      chainFrom operator? operand p.2.length p.1 p.2) := by
  rw [chain, bind_apply]
  rfl

theorem chainFrom_of_some {op : BinaryOperator} (h : operator? t = some op) (n : Nat) (left : Term)
    (ts : List Token) :
    chainFrom operator? operand (n + 1) left (t :: ts) = (operand ts >>= fun p =>
      chainFrom operator? operand n (.binary op left p.1) p.2) := by
  rw [chainFrom, bind_apply]
  simp [h, bind_apply]

theorem chainFrom_of_none (h : operator? (ts.head?.getD .eof) = none) (n : Nat) (left : Term) :
    chainFrom operator? operand n left ts = .ok (left, ts) := by
  cases n with
  | zero => rfl
  | succ n =>
    rw [chainFrom, bind_apply]
    simp [h]

theorem arguments_none (ts : List Token) :
    arguments nested (.symbol .leftParen :: .symbol .rightParen :: ts) = .ok ([], ts) := by
  simp [arguments, bind_apply, expect_cons]

theorem arguments_some (h : ts.head? ≠ some (.symbol .rightParen)) :
    arguments nested (.symbol .leftParen :: ts) = (commaSeparated nested ts >>= fun p =>
      (expect (.symbol .rightParen) p.2).map fun q => (p.1, q.2)) := by
  have hne : ts.head?.getD .eof ≠ .symbol .rightParen := by
    cases ts with
    | nil => simp
    | cons t ts => simpa using h
  simp [arguments, bind_apply, expect_cons, hne]

theorem named_column (name : String) (h : ts.head? ≠ some (.symbol .leftParen)) :
    named nested name ts = .ok (.column name, ts) := by
  have hne : ts.head?.getD .eof ≠ .symbol .leftParen := by
    cases ts with
    | nil => simp
    | cons t ts => simpa using h
  simp [named, bind_apply, hne]

theorem named_call {name : String} {f : Builtin} (h : Builtin.ofName? name = some f)
    (ts : List Token) :
    named nested name (.symbol .leftParen :: ts) =
      (arguments nested (.symbol .leftParen :: ts)).map fun p => (.call f p.1, p.2) := by
  simp [named, bind_apply, h]

theorem primary_of_literal {value : Result Value} (h : literalValue? t = some value)
    (ts : List Token) :
    primary nested (t :: ts) = value.map fun v => (.literal v, ts) := by
  rw [primary, bind_apply]
  cases value <;> simp [h, bind_apply, Except.map]

theorem primary_identifier (name : String) (ts : List Token) :
    primary nested (.identifier name :: ts) = named nested name ts := by
  simp [primary, bind_apply, literalValue?, numberValue?]

theorem primary_leftParen (ts : List Token) :
    primary nested (.symbol .leftParen :: ts) = (nested ts >>= fun p =>
      (expect (.symbol .rightParen) p.2).map fun q => (p.1, q.2)) := by
  simp [primary, bind_apply, literalValue?, numberValue?]

theorem signed_of_none {primary : TokenReader Term} (h : prefixOperator? t = none)
    (ts : List Token) : signed primary (t :: ts) = primary (t :: ts) := by
  simp [signed, h]

theorem signed_of_some {primary : TokenReader Term} {op : UnaryOperator}
    (h : prefixOperator? t = some op)
    (hn : op = .minus → (ts.head?).bind (numberValue? true) = none) :
    signed primary (t :: ts) = (signed primary ts).map fun p => (.unary op p.1, p.2) := by
  have hnone : (if op == .minus then (ts.head?).bind (numberValue? true) else none) = none := by
    split
    · next hop => exact hn (eq_of_beq hop)
    · rfl
  simp only [signed, h, hnone]
  rfl

theorem signed_number {primary : TokenReader Term} {value : Result Value}
    (h : numberValue? true t = some value) (ts : List Token) :
    signed primary (.symbol .minus :: t :: ts) = value.map fun v => (.literal v, ts) := by
  have hnumber : (if UnaryOperator.minus == UnaryOperator.minus then
      ((t :: ts).head?).bind (numberValue? true) else none) = some value := by
    simpa using h
  simp only [signed, prefixOperator?, hnumber]
  cases value <;> rfl

theorem predicate_apply (ts : List Token) :
    predicate nested ts = (bitOperation nested ts >>= fun p =>
      predicateFrom nested p.2.length p.1 p.2) := by
  rw [predicate, bind_apply]
  rfl

theorem predicateFrom_of_some {start : PredicateStart} {count : Nat}
    (h : predicateStart? (ts.head?.getD .eof) (ts[1]?.getD .eof) = some (start, count)) (n : Nat)
    (left : Term) :
    predicateFrom nested (n + 1) left ts =
      (predicateRest nested left start (ts.drop count) >>= fun p =>
        predicateFrom nested n p.1 p.2) := by
  rw [predicateFrom, bind_apply]
  simp [h, bind_apply]

theorem predicateFrom_of_none
    (h : predicateStart? (ts.head?.getD .eof) (ts[1]?.getD .eof) = none) (n : Nat) (left : Term) :
    predicateFrom nested n left ts = .ok (left, ts) := by
  cases n with
  | zero => rfl
  | succ n =>
    rw [predicateFrom, bind_apply]
    simp [h, bind_apply]

end TableFilter.Grammar
