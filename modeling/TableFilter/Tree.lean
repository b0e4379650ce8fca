import TableFilter.Expr
import TableFilter.Number.Rounding

/-!
# Bound statements

A statement whose names are looked up is one shape for all kinds of statements: rows of one table
for which an expression holds, sorted and cut off.

## Main definitions

* `OrderTerm`: a column to sort by
* `Tree`: a bound statement
* `Tree.text`: the statement on a named table that it is written as
* `Tree.sameAs`: equality of bound statements
-/

namespace TableFilter

open TableFilter.Number

/-- A column to sort by. An exact one tells letters of different case apart. -/
structure OrderTerm where
  column : BoundColumn
  ascending : Bool
  exact : Bool

/-- A bound statement. A negative limit keeps all rows. -/
structure Tree where
  table : String
  root : Expr
  limit : Int
  order : List OrderTerm

/-- The limit that keeps all rows. -/
def noLimit : Int := -1

namespace OrderTerm

/-- The written form of a column to sort by. -/
def text (t : OrderTerm) : String :=
  (if t.exact then "BINARY " else "") ++ t.column.head.name ++
    (if t.ascending then " ASC" else " DESC")

/-- Whether two columns to sort by are equal. -/
def sameAs (s t : OrderTerm) : Bool :=
  s.column.sameAs t.column && s.ascending == t.ascending && s.exact == t.exact

end OrderTerm

namespace Tree

/-- A bound statement that neither sorts nor cuts off. -/
def ofRoot (table : String) (root : Expr) : Tree := { table, root, limit := noLimit, order := [] }

/-- The clause that sorts. -/
def orderText (order : List OrderTerm) : String :=
  if order.isEmpty then "" else " ORDER BY " ++ ", ".intercalate (order.map OrderTerm.text)

/-- The clause that cuts off. -/
def limitText (limit : Int) : String :=
  if 0 ≤ limit then "TOP " ++ String.ofList (intText limit) ++ " " else ""

/-- The written form, a statement on a named table. Where the table has no name it is the expression
alone. -/
def text (t : Tree) : String :=
  if t.table.isEmpty then t.root.text
  else "FILTER " ++ limitText t.limit ++ t.table ++ " WHERE " ++ t.root.text ++ orderText t.order

/-- Whether two lists hold equal columns to sort by. -/
def sameOrder : List OrderTerm → List OrderTerm → Bool
  | [], [] => true
  | s :: ss, t :: ts => s.sameAs t && sameOrder ss ts
  | _, _ => false

/-- Whether two bound statements are equal. -/
def sameAs (s t : Tree) : Bool :=
  s.table == t.table && s.root.sameAs t.root && s.limit == t.limit && sameOrder s.order t.order

end Tree

end TableFilter
