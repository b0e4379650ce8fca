/-!
# Operators

Operators come in families that share a rule for their operand types. A comparison for equality and
a `LIKE` can be *exact*, which makes letters of different case differ.

## Main definitions

* `UnaryOperator`, `BinaryOperator`: operators on one and on two operands
* `Operator`: a binary operator or a test for null
* `Operator.text`: the written form
-/

namespace TableFilter

/-- Operators on one operand. -/
inductive UnaryOperator where
  | plus
  | minus
  /-- Negation of truth values, complement of integers. -/
  | not
deriving DecidableEq, Repr

/-- The written form of a unary operator, before its operand. -/
def UnaryOperator.text : UnaryOperator → String
  | .plus => "+"
  | .minus => "-"
  | .not => "NOT "

/-- The name of a unary operator, without the blank that divides it from its operand. -/
def UnaryOperator.name : UnaryOperator → String
  | .plus => "+"
  | .minus => "-"
  | .not => "NOT"

/-- Operators on numbers. -/
inductive ArithmeticOperator where
  | multiply
  | divide
  | add
  | subtract
deriving DecidableEq, Repr

/-- Operators on integers. -/
inductive IntegerOperator where
  | remainder
  | and
  | or
  | xor
deriving DecidableEq, Repr

/-- Shifts of integers. -/
inductive ShiftOperator where
  | left
  | right
deriving DecidableEq, Repr

/-- Comparisons. -/
inductive Comparison where
  | less
  | lessOrEqual
  | greater
  | greaterOrEqual
  | equal (exact : Bool)
  | notEqual (exact : Bool)
deriving DecidableEq, Repr

/-- Operators on truth values. -/
inductive LogicalOperator where
  | and
  | or
deriving DecidableEq, Repr

/-- Operators on two operands, by family. -/
inductive BinaryOperator where
  | arithmetic (op : ArithmeticOperator)
  | integer (op : IntegerOperator)
  | shift (op : ShiftOperator)
  | comparison (op : Comparison)
  | like (negated exact : Bool)
  | logical (op : LogicalOperator)
deriving DecidableEq, Repr

/-- A binary operator or a test for null. -/
inductive Operator where
  | binary (op : BinaryOperator)
  | nullTest (negated : Bool)
deriving DecidableEq, Repr

namespace Comparison

/-- Whether letters of different case differ. -/
def isExact : Comparison → Bool
  | .equal exact | .notEqual exact => exact
  | _ => false

/-- The written form. -/
def text : Comparison → String
  | .less => "<"
  | .lessOrEqual => "<="
  | .greater => ">"
  | .greaterOrEqual => ">="
  | .equal false => "="
  | .equal true => "==="
  | .notEqual false => "<>"
  | .notEqual true => "!=="

end Comparison

namespace BinaryOperator

/-- Whether letters of different case differ. -/
def isExact : BinaryOperator → Bool
  | .comparison op => op.isExact
  | .like _ exact => exact
  | _ => false

/-- The written form. -/
def text : BinaryOperator → String
  | .arithmetic .multiply => "*"
  | .arithmetic .divide => "/"
  | .arithmetic .add => "+"
  | .arithmetic .subtract => "-"
  | .integer .remainder => "%"
  | .integer .and => "&"
  | .integer .or => "|"
  | .integer .xor => "^"
  | .shift .left => "<<"
  | .shift .right => ">>"
  | .comparison op => op.text
  | .like false false => "LIKE"
  | .like false true => "LIKE BINARY"
  | .like true false => "NOT LIKE"
  | .like true true => "NOT LIKE BINARY"
  | .logical .and => "AND"
  | .logical .or => "OR"

end BinaryOperator

namespace Operator

/-- Whether letters of different case differ. -/
def isExact : Operator → Bool
  | .binary op => op.isExact
  | .nullTest _ => false

/-- Whether there is no right operand. -/
def isUnary : Operator → Bool
  | .binary _ => false
  | .nullTest _ => true

/-- The written form. -/
def text : Operator → String
  | .binary op => op.text
  | .nullTest false => "IS NULL"
  | .nullTest true => "IS NOT NULL"

end Operator

end TableFilter
