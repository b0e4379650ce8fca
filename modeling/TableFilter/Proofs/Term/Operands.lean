import TableFilter.Proofs.Term.Grammar
import TableFilter.Proofs.Token.Writing
import TableFilter.Tree

/-!
# Operands

An operand that binds as tightly as any may stand at every level, except that a negation at its
start would not belong to it there. Parentheses make an operand of any term, and operators between
operands give terms that may be put in parentheses again.

The texts of operators are written with blanks around them, and are the tokens that the grammar asks
for between the operands.

## Main definitions

* `IsOperand`: operands that do not start with a negation
* `Connects`: what an operator between operands is written as

## Main results

* `exists_connects`, `exists_logicalTokens`: operators between operands
* `exists_nullTestTokens`, `exists_membershipTokens`: tests after an operand
* `UnaryOperator.writes_parentheses`: operators before an operand
-/

namespace TableFilter

/-- Whether the operands of an operator are truth values. -/
def BinaryOperator.isLogical : BinaryOperator → Bool
  | .logical _ => true
  | _ => false

namespace Grammar

variable {l r ts items : List Token} {t : Token} {a b x : Term}

/-! ### Levels -/

theorem Derives.bits (h : Derives .signed ts x) : Derives .bits ts x :=
  .operand .bits (.operand .sum (.operand .product h))

theorem Derives.disjunction (h : Derives .negation ts x) : Derives .disjunction ts x :=
  .operand .disjunction (.operand .conjunction h)

/-- A term of the tightest level whose first token is no negation. -/
structure IsOperand (ts : List Token) (x : Term) : Prop where
  /-- The term is one of the tightest level. -/
  signed : Derives .signed ts x
  /-- There is a first token, and it is no negation. -/
  plain : ∃ t rest, ts = t :: rest ∧ ¬ Negates t

namespace IsOperand

theorem predicate (h : IsOperand ts x) : Derives .predicate ts x := .subject h.signed.bits

/-- What goes on with an operand does not start with a negation. -/
theorem negation_append (h : IsOperand l a) (hd : Derives .predicate (l ++ ts) x) :
    Derives .negation (l ++ ts) x := by
  obtain ⟨t, rest, rfl, plain⟩ := h.plain
  refine .positive ?_ hd
  rintro _ ⟨⟩
  exact plain

theorem negation (h : IsOperand ts x) : Derives .negation ts x := by
  have hd := h.predicate
  rw [← List.append_nil ts] at hd ⊢
  exact h.negation_append hd

/-- A term in parentheses. -/
theorem parentheses (h : Derives .disjunction ts x) :
    IsOperand (.symbol .leftParen :: (ts ++ [.symbol .rightParen])) x :=
  ⟨.parentheses h, _, _, rfl, nofun⟩

end IsOperand

/-! ### Operators between operands -/

/-- Tokens that the text of an operator is written as, and that stand between two operands. -/
structure Connects (op : BinaryOperator) (ts : List Token) : Prop where
  /-- The tokens are those of the text. -/
  writes : Writes op.text.toList ts
  /-- They stand between operands. -/
  derives : ∀ {l r a b}, Derives .signed l a → Derives .signed r b →
    Derives .predicate (l ++ (ts ++ r)) (.binary op a b)

/-- Operators that bind more tightly than comparisons do. -/
theorem connects_of_joins {level tighter : Level} (chain : Chain level tighter)
    (tight : tighter = .sum ∨ tighter = .product ∨ tighter = .signed) {s : Symbol}
    {op : BinaryOperator} (joins : Joins level (.symbol s) op) (htext : s.text = op.text) :
    Connects op [.symbol s] := by
  refine ⟨htext ▸ Writes.symbol s, fun {l r a b} ha hb => ?_⟩
  cases chain with
  | disjunction | conjunction => simp at tight
  | bits =>
    exact .subject (.join .bits joins ha.bits (.operand .sum (.operand .product hb)))
  | sum =>
    have hsum : Derives .sum l a := .operand .sum (.operand .product ha)
    exact .subject (.operand .bits (.join .sum joins hsum (.operand .product hb)))
  | product =>
    have hproduct := Derives.join .product joins (.operand .product ha) hb
    exact .subject (.operand .bits (.operand .sum hproduct))

theorem connects_of_compares {s : Symbol} {op : Comparison} (compares : Compares (.symbol s) op)
    (htext : s.text = (BinaryOperator.comparison op).text) :
    Connects (.comparison op) [.symbol s] :=
  ⟨htext ▸ Writes.symbol s, fun ha hb => .comparison compares (.subject ha.bits) hb.bits⟩

theorem connects_like (negated : Bool) {marked : Bool} {mark : List Token}
    (exactly : ExactMark mark marked)
    (writes : Writes (BinaryOperator.like negated marked).text.toList
      (notTokens negated ++ .keyword .like :: mark)) :
    Connects (.like negated marked) (notTokens negated ++ .keyword .like :: mark) := by
  refine ⟨writes, fun ha hb => ?_⟩
  rw [List.append_assoc]
  exact .likeness negated exactly (.subject ha.bits) hb.bits

/-- An operator whose operands are not truth values has such tokens. -/
theorem exists_connects {op : BinaryOperator} (h : op.isLogical = false) :
    ∃ ts, Connects op ts := by
  cases op with
  | arithmetic op =>
    cases op with
    | multiply => exact ⟨_, connects_of_joins .product (by decide) .star rfl⟩
    | divide => exact ⟨_, connects_of_joins .product (by decide) .slash rfl⟩
    | add => exact ⟨_, connects_of_joins .sum (by decide) .plus rfl⟩
    | subtract => exact ⟨_, connects_of_joins .sum (by decide) .minus rfl⟩
  | integer op =>
    cases op with
    | remainder => exact ⟨_, connects_of_joins .product (by decide) .percent rfl⟩
    | and => exact ⟨_, connects_of_joins .bits (by decide) .ampersand rfl⟩
    | or => exact ⟨_, connects_of_joins .bits (by decide) .pipe rfl⟩
    | xor => exact ⟨_, connects_of_joins .bits (by decide) .caret rfl⟩
  | shift op =>
    cases op with
    | left => exact ⟨_, connects_of_joins .bits (by decide) .shiftLeft rfl⟩
    | right => exact ⟨_, connects_of_joins .bits (by decide) .shiftRight rfl⟩
  | comparison op =>
    cases op with
    | less => exact ⟨_, connects_of_compares .less rfl⟩
    | lessOrEqual => exact ⟨_, connects_of_compares .lessEqual rfl⟩
    | greater => exact ⟨_, connects_of_compares .greater rfl⟩
    | greaterOrEqual => exact ⟨_, connects_of_compares .greaterEqual rfl⟩
    | equal marked =>
      cases marked with
      | false => exact ⟨_, connects_of_compares .equal rfl⟩
      | true => exact ⟨_, connects_of_compares .exactEqual rfl⟩
    | notEqual marked =>
      cases marked with
      | false => exact ⟨_, connects_of_compares .notEqual rfl⟩
      | true => exact ⟨_, connects_of_compares .exactNotEqual rfl⟩
  | like negated marked =>
    have binary := (Writes.keyword .like).spaced (.keyword .binary)
    cases marked with
    | false =>
      cases negated with
      | false => exact ⟨_, connects_like false .none (.keyword .like)⟩
      | true => exact ⟨_, connects_like true .none ((Writes.keyword .not).spaced (.keyword .like))⟩
    | true =>
      cases negated with
      | false => exact ⟨_, connects_like false .binary binary⟩
      | true => exact ⟨_, connects_like true .binary ((Writes.keyword .not).spaced binary)⟩
  | logical => cases h

/-- The text of an operator on truth values, between two negations. -/
theorem exists_logicalTokens (op : LogicalOperator) :
    ∃ ts, Writes (BinaryOperator.logical op).text.toList ts ∧
      ∀ {l r a b}, Derives .negation l a → Derives .negation r b →
        Derives .disjunction (l ++ (ts ++ r)) (.binary (.logical op) a b) := by
  cases op with
  | and =>
    exact ⟨_, .keyword .and, fun ha hb =>
      .operand .disjunction (.join .conjunction .and (.operand .conjunction ha) hb)⟩
  | or =>
    exact ⟨_, .keyword .or, fun ha hb =>
      .join .disjunction .or ha.disjunction (.operand .conjunction hb)⟩

/-! ### Tests after an operand -/

/-- The text of a test for null. -/
theorem exists_nullTestTokens (negated : Bool) :
    ∃ ts, Writes (Operator.nullTest negated).text.toList ts ∧
      ∀ {l a}, Derives .signed l a → Derives .predicate (l ++ ts) (.nullTest negated a) := by
  have test {l : List Token} {a : Term} (ha : Derives .signed l a) :=
    Derives.nullTest negated (.subject ha.bits)
  cases negated with
  | false => exact ⟨_, (Writes.keyword .is).spaced (.keyword .null), test⟩
  | true =>
    have hnull := (Writes.keyword .not).spaced (.keyword .null)
    exact ⟨_, (Writes.keyword .is).spaced hnull, test⟩

/-- The text of a membership test with its items in parentheses. -/
theorem exists_membershipTokens (negated exact : Bool) {cs : List Char} {items : List Token}
    {es : List Term} (writes : Writes cs items) (all : DerivesAll items es) :
    ∃ ts, Writes ((Expr.membershipText negated exact).toList ++ '(' :: (cs ++ [')'])) ts ∧
      ∀ {l a}, Derives .signed l a →
        Derives .predicate (l ++ ts) (.inList negated exact a es) := by
  have test {mark : List Token} (exactly : ExactMark mark exact) {l : List Token} {a : Term}
      (ha : Derives .signed l a) :=
    Derives.membership negated exactly (.subject ha.bits) all
  have hitems := writes.parentheses
  cases exact with
  | false =>
    have hin := (Writes.keyword .in_).spaced hitems
    cases negated with
    | false => exact ⟨_, hin, test .none⟩
    | true => exact ⟨_, (Writes.keyword .not).spaced hin, test .none⟩
  | true =>
    have hin := (Writes.keyword .in_).spaced ((Writes.keyword .binary).spaced hitems)
    cases negated with
    | false => exact ⟨_, hin, test .binary⟩
    | true => exact ⟨_, (Writes.keyword .not).spaced hin, test .binary⟩

end Grammar

/-! ### Functions -/

namespace Builtin

theorem mem_all (f : Builtin) : f ∈ all := by
  cases f <;> decide

/-- The names of functions are no keywords, and stand for the functions. -/
theorem names_known : ∀ f ∈ all,
    ofName? f.name = some f ∧ wordToken f.name.toList = .identifier f.name := by
  decide +kernel

theorem writes_name (f : Builtin) : Writes f.name.toList [.identifier f.name] := by
  have hword : IsWord f.name.toList := by
    cases f <;> exact ⟨List.all_eq_true.1 rfl, _, rfl, rfl⟩
  exact (names_known f f.mem_all).2 ▸ Writes.of_spells (spells_word hword)

/-- A function with its arguments in parentheses. -/
theorem exists_callTokens (f : Builtin) {cs : List Char} {args : List Token} {es : List Term}
    (writes : Writes cs args) (all : Grammar.DerivesAll args es) :
    ∃ ts, Writes (f.name.toList ++ '(' :: (cs ++ [')'])) ts ∧ Grammar.IsOperand ts (.call f es) :=
  ⟨_, f.writes_name.append rfl writes.parentheses,
    .call (names_known f f.mem_all).1 all, _, _, rfl, nofun⟩

/-- A function without arguments. -/
theorem exists_callNoneTokens (f : Builtin) :
    ∃ ts, Writes (f.name.toList ++ ['(', ')']) ts ∧ Grammar.IsOperand ts (.call f []) :=
  ⟨_, f.writes_name.append rfl (.parentheses .nil),
    .callNone (names_known f f.mem_all).1, _, _, rfl, nofun⟩

end Builtin

/-! ### Operators before an operand -/

namespace UnaryOperator

/-- The token that an operator before an operand is written as. -/
def token : UnaryOperator → Token
  | .plus => .symbol .plus
  | .minus => .symbol .minus
  | .not => .keyword .not

theorem signs_token (op : UnaryOperator) : Grammar.Signs op.token op := by
  cases op with
  | plus => exact .plus
  | minus => exact .minus
  | not => exact .not

theorem writes_parentheses (op : UnaryOperator) {cs : List Char} {ts : List Token}
    (h : Writes ('(' :: cs) ts) : Writes (op.text.toList ++ '(' :: cs) (op.token :: ts) := by
  cases op with
  | plus => exact (Writes.symbol .plus).append rfl h
  | minus => exact (Writes.symbol .minus).append rfl h
  | not => exact (Writes.keyword .not).spaced h

end UnaryOperator

end TableFilter
