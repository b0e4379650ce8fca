import TableFilter.Error

/-!
# Types of operations

An operation on operands of two types is carried out in one type, to which both operands are first
converted.

## Main definitions

* `BinaryOperator.operationType`: the type in which an operation is carried out
* `BinaryOperator.resultType`: the type of what it gives
-/

namespace TableFilter

namespace BinaryOperator

/-- An operation has no meaning for two types. -/
def refuse (op : BinaryOperator) (left right : DataType) : Result DataType :=
  .error (.typing (.operation op left right))

/-- The wider of two numeric types. -/
def numericType (op : BinaryOperator) (left right : DataType) : Result DataType :=
  match left.wider? right with
  | some type => .ok type
  | none => op.refuse left right

/-- The type of a comparison. Text compares with any type as that type, and undefined types compare
as undefined. -/
def comparisonType (op : BinaryOperator) (left right : DataType) : Result DataType :=
  match left, right with
  | .undefined, _ | _, .undefined => .ok .undefined
  | .string, other => .ok other
  | other, .string => .ok other
  | .guid, .guid => .ok .guid
  | .dateTime, .dateTime => .ok .dateTime
  | _, _ => op.numericType left right

/-- The type in which an operation is carried out, for operands of defined types: numbers promote to
the wider type, a sum with a text joins texts, a shift keeps the type of its left operand. -/
def definedType (op : BinaryOperator) (left right : DataType) : Result DataType :=
  match op with
  | .arithmetic kind =>
    if kind == .add && (left == .string || right == .string) then .ok .string
    else op.numericType left right
  | .integer _ =>
    if left.isInteger && right.isInteger then op.numericType left right else op.refuse left right
  | .shift _ => if left.isInteger && right.isInteger then .ok left else op.refuse left right
  | .comparison _ => op.comparisonType left right
  | .like _ _ => if left == .string && right == .string then .ok left else op.refuse left right
  | .logical _ =>
    if left == .boolean && right == .boolean then .ok .boolean else op.refuse left right

/-- The type in which an operation is carried out. An operand of no type leaves it undefined. -/
def operationType (op : BinaryOperator) (left right : DataType) : Result DataType :=
  if left == .undefined || right == .undefined then .ok .undefined
  else op.definedType left right

/-- The type of what an operation gives, by the type in which it is carried out. -/
def resultType (op : BinaryOperator) (operationType : DataType) : DataType :=
  match op with
  | .comparison _ | .like _ _ | .logical _ => .boolean
  | _ => operationType

end BinaryOperator

/-- The type in which an operation is carried out. A test for null leaves its operand as it is. -/
def Operator.operationType (op : Operator) (left right : DataType) : Result DataType :=
  match op with
  | .binary op => op.operationType left right
  | .nullTest _ => .ok left

end TableFilter
