import TableFilter.Builtin
import TableFilter.Operator
import TableFilter.Value.Text

/-!
# Expressions

An expression is a term whose columns are looked up. A computed column carries the expression that
gives its value.

## Main definitions

* `ColumnHead`, `BoundColumn`: a column of a table, and with it the expression that computes it
* `Expr`: expressions
* `Expr.text`: the written form, in which operations are in parentheses
* `Expr.sameAs`: equality of expressions, with values equal by what they stand for
-/

namespace TableFilter

/-- Place, name and type of a column. -/
structure ColumnHead where
  index : Nat
  name : String
  type : DataType
deriving DecidableEq, Repr

/-- An expression over the columns of one table. -/
inductive Expr where
  | literal (v : Value)
  | column (c : ColumnHead)
  /-- A column whose value is that of an expression, converted to the type of the column. -/
  | computed (c : ColumnHead) (definition : Expr)
  | unary (op : UnaryOperator) (operand : Expr)
  | binary (op : BinaryOperator) (left right : Expr)
  /-- An operation that lacks its right operand. Binding gives none. -/
  | unfinished (op : BinaryOperator) (left : Expr)
  | nullTest (negated : Bool) (operand : Expr)
  | inList (negated exact : Bool) (probe : Expr) (items : List Expr)
  | call (f : Builtin) (args : List Expr)

/-- A column that was looked up, with the expression that computes it if there is one. -/
structure BoundColumn where
  head : ColumnHead
  definition : Option Expr

/-- A column as an expression. -/
def BoundColumn.toExpr (c : BoundColumn) : Expr :=
  match c.definition with
  | some e => .computed c.head e
  | none => .column c.head

namespace Expr

/-! ### Writing -/

/-- The keywords of a membership test. -/
def membershipText (negated exact : Bool) : String :=
  (if negated then "NOT IN " else "IN ") ++ (if exact then "BINARY " else "")

mutual

/-- The written form of an expression. Operations are in parentheses, apart from unary ones. -/
def text : Expr → String
  | .literal v => v.literal
  | .column c => c.name
  | .computed c _ => c.name
  | .unary op e => op.text ++ "(" ++ e.text ++ ")"
  | .binary op a b => "(" ++ a.text ++ " " ++ op.text ++ " " ++ b.text ++ ")"
  | .unfinished op a => "(" ++ a.text ++ " " ++ op.text ++ ")"
  | .nullTest negated e => "(" ++ e.text ++ " " ++ (Operator.nullTest negated).text ++ ")"
  | .inList negated exact e es =>
    "(" ++ e.text ++ " " ++ membershipText negated exact ++ "(" ++ listText es ++ "))"
  | .call f es => f.name ++ "(" ++ listText es ++ ")"

/-- The written form of expressions with commas between them. -/
def listText : List Expr → String
  | [] => ""
  | e :: es => e.text ++ (if es.isEmpty then "" else ", " ++ listText es)

end

/-! ### Equality -/

mutual

/-- Whether two expressions are equal, values being equal by what they stand for. -/
def sameAs : Expr → Expr → Bool
  | .literal v, .literal w => v.sameAs w
  | .column c, .column d => c == d
  | .computed c e, .computed d f => c == d && e.sameAs f
  | .unary op e, .unary op₂ f => op == op₂ && e.sameAs f
  | .binary op a b, .binary op₂ c d => op == op₂ && a.sameAs c && b.sameAs d
  | .unfinished op a, .unfinished op₂ c => op == op₂ && a.sameAs c
  | .nullTest n e, .nullTest m f => n == m && e.sameAs f
  | .inList n x e es, .inList m y f fs => n == m && x == y && e.sameAs f && listSameAs es fs
  | .call f es, .call g fs => f == g && listSameAs es fs
  | _, _ => false

/-- Whether two lists hold equal expressions. -/
def listSameAs : List Expr → List Expr → Bool
  | [], [] => true
  | e :: es, f :: fs => e.sameAs f && listSameAs es fs
  | _, _ => false

end

end Expr

/-- Whether two columns that were looked up are equal. -/
def BoundColumn.sameAs (a b : BoundColumn) : Bool := a.toExpr.sameAs b.toExpr

end TableFilter
