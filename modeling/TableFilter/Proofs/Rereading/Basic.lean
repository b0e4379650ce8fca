import TableFilter.Proofs.Decimal.Text
import TableFilter.Proofs.Term.Operands
import TableFilter.Proofs.Time.Text
import TableFilter.Selection

/-!
# What written expressions stand for

The text of an expression is a term, but not always that of the expression. A negation has no
parentheses of its own, and what goes on with a negation is part of what it negates. So a negation
at the start of a comparison, of arithmetic, of a test for null or of a membership test moves
outward. On the right of an operator and between operators on truth values it stays where it is.

A literal is read as what its text stands for: a null as one without a type, an integer in the
smallest type that holds it, an instant to the millisecond, and a text that is that of an identifier
as this identifier. A double without digits is read as its conversion.

## Main definitions

* `Expr.term`: an expression as a term, columns by their names
* `Value.reread`, `Expr.reread`, `Tree.reread`: what written forms read back as
* `Value.ReadsBack`, `Expr.KeepsMeaning`: where nothing is changed by it

## Main results

* `Expr.reread_binary`, `Expr.reread_nullTest`, `Expr.reread_inList`: no negation moves outward
-/

namespace TableFilter

open Number

/-! ### Expressions as terms -/

namespace Expr

mutual

/-- An expression as a term. Columns go by their names. Without its right operand an operation is
none, and its left operand is taken. -/
def term : Expr → Term
  | .literal v => .literal v
  | .column c => .column c.name
  | .computed c _ => .column c.name
  | .unary op e => .unary op e.term
  | .binary op a b => .binary op a.term b.term
  | .unfinished _ a => a.term
  | .nullTest negated e => .nullTest negated e.term
  | .inList negated exact e es => .inList negated exact e.term (terms es)
  | .call f es => .call f (terms es)

/-- Expressions as terms. -/
def terms : List Expr → List Term
  | [] => []
  | e :: es => e.term :: terms es

end

/-- Whether an expression is written without parentheses around it, after the word that negates. -/
def isNegation : Expr → Bool
  | .unary .not _ => true
  | _ => false

end Expr

/-! ### Reading back -/

/-- What the literal of a value reads back as. -/
def Value.reread : Value → Expr
  | .null _ => .literal (.null .undefined)
  | .boolean b => .literal (.boolean b)
  | .int32 i => .literal (Value.ofInt i.toInt)
  | .int64 i => .literal (Value.ofInt i.toInt)
  | .decimal d => .literal (.decimal d.reread)
  | .double x =>
    if Binary64.isFinite x then .literal (.double x)
    else .call .convert
      [.literal (.string (String.ofList (exponentText x))), .literal (.string "Double")]
  | .string s => .literal ((Guid.ofText? s.toList).elim (.string s) .guid)
  | .guid g => .literal (.guid g)
  | .dateTime t => .literal (.dateTime t.toMilliseconds)

namespace Expr

mutual

/-- What the written form of an expression reads back as. -/
def reread : Expr → Expr
  | .literal v => v.reread
  | .column c => .column c
  | .computed c e => .computed c e
  | .unary op e => .unary op e.reread
  | .binary op (.unary .not a) b =>
    if op.isLogical then .binary op (.unary .not a.reread) b.reread
    else .unary .not (.binary op a.reread b.reread)
  | .binary op a b => .binary op a.reread b.reread
  | .unfinished op a => .unfinished op a.reread
  | .nullTest negated (.unary .not e) => .unary .not (.nullTest negated e.reread)
  | .nullTest negated e => .nullTest negated e.reread
  | .inList negated exact (.unary .not e) es =>
    .unary .not (.inList negated exact e.reread (rereadAll es))
  | .inList negated exact e es => .inList negated exact e.reread (rereadAll es)
  | .call f es => .call f (rereadAll es)

/-- What the written forms of expressions read back as. -/
def rereadAll : List Expr → List Expr
  | [] => []
  | e :: es => e.reread :: rereadAll es

end

variable {op : BinaryOperator} {a e : Expr}

theorem isNegation_cases (e : Expr) : e.isNegation = false ∨ ∃ x, e = .unary .not x := by
  cases e with
  | unary op x =>
    cases op with
    | not => exact .inr ⟨x, rfl⟩
    | _ => exact .inl rfl
  | _ => exact .inl rfl

theorem reread_binary (h : a.isNegation = true → op.isLogical = true) (b : Expr) :
    (binary op a b).reread = .binary op a.reread b.reread := by
  rcases a.isNegation_cases with hplain | ⟨x, rfl⟩
  · rw [reread]
    rintro x rfl
    cases hplain
  · exact if_pos (h rfl)

theorem reread_nullTest (h : e.isNegation = false) (negated : Bool) :
    (nullTest negated e).reread = .nullTest negated e.reread := by
  rw [reread]
  rintro x rfl
  cases h

theorem reread_inList (h : e.isNegation = false) (negated exact : Bool) (es : List Expr) :
    (inList negated exact e es).reread = .inList negated exact e.reread (rereadAll es) := by
  rw [reread]
  rintro x rfl
  cases h

end Expr

/-- What the written form of a bound statement reads back as. A negative limit is not written. -/
def Tree.reread (t : Tree) : Tree :=
  { t with root := t.root.reread, limit := if 0 ≤ t.limit then t.limit else noLimit }

/-! ### Reading back the same -/

/-- The literal of a value is evaluated to this value. -/
def Value.ReadsBack (v : Value) : Prop := ∀ clock, evalText clock v.literal = .ok v

namespace Expr

mutual

/-- All literals read back, and no negation is at the start of anything but an operation on truth
values. -/
inductive KeepsMeaning : Expr → Prop
  | literal {v : Value} (back : v.ReadsBack) : KeepsMeaning (.literal v)
  | column (c : ColumnHead) : KeepsMeaning (.column c)
  | computed (c : ColumnHead) (e : Expr) : KeepsMeaning (.computed c e)
  | unary (op : UnaryOperator) {e : Expr} (h : KeepsMeaning e) : KeepsMeaning (.unary op e)
  | binary {op : BinaryOperator} {a b : Expr} (start : a.isNegation = true → op.isLogical = true)
      (left : KeepsMeaning a) (right : KeepsMeaning b) : KeepsMeaning (.binary op a b)
  | nullTest (negated : Bool) {e : Expr} (start : e.isNegation = false) (h : KeepsMeaning e) :
      KeepsMeaning (.nullTest negated e)
  | inList (negated exact : Bool) {e : Expr} {es : List Expr} (start : e.isNegation = false)
      (h : KeepsMeaning e) (all : AllKeepMeaning es) : KeepsMeaning (.inList negated exact e es)
  | call (f : Builtin) {es : List Expr} (all : AllKeepMeaning es) : KeepsMeaning (.call f es)

/-- Expressions whose literals read back, and where no negation is at such a start. -/
inductive AllKeepMeaning : List Expr → Prop
  | nil : AllKeepMeaning []
  | cons {e : Expr} {es : List Expr} (h : KeepsMeaning e) (all : AllKeepMeaning es) :
      AllKeepMeaning (e :: es)

end

end Expr

end TableFilter
