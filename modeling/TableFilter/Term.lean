import TableFilter.Builtin
import TableFilter.Operator
import TableFilter.Value

/-!
# Terms

A term is an expression as it was written, with its columns by name.

## Main definitions

* `Term`: terms
-/

namespace TableFilter

/-- An expression whose columns are not looked up yet. -/
inductive Term where
  | literal (v : Value)
  | column (name : String)
  | unary (op : UnaryOperator) (operand : Term)
  | binary (op : BinaryOperator) (left right : Term)
  | nullTest (negated : Bool) (operand : Term)
  | inList (negated exact : Bool) (probe : Term) (items : List Term)
  | call (f : Builtin) (args : List Term)

end TableFilter
