import TableFilter.Evaluation
import TableFilter.Tree

/-!
# Rows of a bound statement

The rows of a table for which the root is true, in storage order, then sorted by the columns to sort
by, then cut off. Sorting keeps the order of rows that are equal in all these columns.

A row whose root fails to evaluate is left out. A sort key that is a null, no number or an error
comes last in both directions.

## Main definitions

* `Tree.matches`: whether a statement selects a row
* `sortKeys`, `compareKeys`: what rows are sorted by
* `Tree.rows`: the places of the selected rows
* `Table.firstRow?`: the first row with some value in a column
-/

namespace TableFilter

namespace Tree

/-! ### Selecting -/

/-- Whether the root is true on a row. -/
def selects (clock : Clock) (t : Tree) (row : Row) : Bool :=
  match t.root.evalOn ⟨clock, some row⟩ with
  | .ok v => v.isTrue
  | .error _ => false

/-- The places of the rows for which the root is true. -/
def matching (clock : Clock) (t : Tree) (rows : List Row) : List Nat :=
  (rows.zipIdx.filter fun r => t.selects clock r.1).map (·.2)

end Tree

/-! ### Sorting -/

/-- A value as a sort key, `none` if it comes last. -/
def sortKey : Result Value → Option Value
  | .ok (.double x) => if Binary64.isNaN x then none else some (.double x)
  | .ok v => if v.isNull then none else some v
  | .error _ => none

/-- The sort keys of a row, values of computed columns being kept from one to the next. -/
def sortKeys (s : Surroundings) : List OrderTerm → StateM KnownValues (List (Option Value))
  | [] => return []
  | t :: ts => do
    let v ← (t.column.toExpr.eval s).run
    return sortKey v :: (← sortKeys s ts)

/-- The order of two sort keys. -/
def compareKey (t : OrderTerm) : Option Value → Option Value → Ordering
  | none, none => .eq
  | none, some _ => .gt
  | some _, none => .lt
  | some a, some b =>
    let order :=
      match a.compare t.exact b with
      | .ok (some order) => order
      | _ => .eq
    if t.ascending then order else order.swap

/-- The order of rows by their sort keys: the first key that differs decides. -/
def compareKeys : List OrderTerm → List (Option Value) → List (Option Value) → Ordering
  | t :: ts, a :: as, b :: bs => (compareKey t a b).then (compareKeys ts as bs)
  | _, _, _ => .eq

/-- The places of rows sorted by their keys. -/
def sorted (clock : Clock) (order : List OrderTerm) (rows : List Row) (places : List Nat) :
    List Nat :=
  if order.isEmpty then places
  else
    let keyed := places.map fun k =>
      (k, ((sortKeys ⟨clock, rows[k]?⟩ order).run []).1)
    (keyed.mergeSort fun a b => compareKeys order a.2 b.2 != .gt).map (·.1)

/-! ### Cutting off -/

/-- The first of some places. A negative limit keeps all. -/
def limited (limit : Int) (places : List Nat) : List Nat :=
  if limit < 0 then places else places.take limit.toNat

/-- The places of the rows that a bound statement selects. -/
def Tree.rows (clock : Clock) (t : Tree) (rows : List Row) : List Nat :=
  limited t.limit (sorted clock t.order rows (t.matching clock rows))

/-! ### Single columns -/

/-- The value of a column on a row. -/
def BoundColumn.valueOn (clock : Clock) (c : BoundColumn) (row : Row) : Result Value :=
  c.toExpr.evalOn ⟨clock, some row⟩

/-- The place of the first row whose value in a column is as wanted. -/
def BoundColumn.firstRow? (clock : Clock) (c : BoundColumn) (wanted : Value → Bool)
    (rows : List Row) : Option Nat :=
  rows.findIdx? fun row =>
    match c.valueOn clock row with
    | .ok v => wanted v
    | .error _ => false

end TableFilter
