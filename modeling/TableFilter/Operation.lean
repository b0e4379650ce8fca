import TableFilter.Decimal.Arithmetic
import TableFilter.Like
import TableFilter.Value.Order

/-!
# Operations on values

Integers are computed with in two's complement at the width of the operation. A null operand gives
a null, except where a truth value is settled by the other operand.

## Main definitions

* `UnaryOperator.apply`, `BinaryOperator.apply`, `Operator.apply`: operators on values
* `ArithmeticOperator.onBits`, `IntegerOperator.onBits`, `ShiftOperator.onBits`: integers
* `LogicalOperator.onTruth`: truth values, of which a null is unknown
-/

namespace TableFilter

/-! ### Integers -/

/-- A truth value as a word. -/
def wordOfBool (b : Bool) : BitVec 32 := if b then 1 else 0

/-- A division, unless it is by zero. -/
def unlessZero {w : Nat} (divide : BitVec w → BitVec w → BitVec w) (a b : BitVec w) :
    Result (BitVec w) :=
  if b == 0 then .error .divisionByZero else .ok (divide a b)

/-- Arithmetic on words. Quotients are cut toward zero. -/
def ArithmeticOperator.onBits {w : Nat} (op : ArithmeticOperator) (a b : BitVec w) :
    Result (BitVec w) :=
  match op with
  | .multiply => .ok (a * b)
  | .divide => unlessZero BitVec.sdiv a b
  | .add => .ok (a + b)
  | .subtract => .ok (a - b)

/-- Remainders, which take the sign of the dividend, and operations on the bits of words. -/
def IntegerOperator.onBits {w : Nat} (op : IntegerOperator) (a b : BitVec w) :
    Result (BitVec w) :=
  match op with
  | .remainder => unlessZero BitVec.srem a b
  | .and => .ok (a &&& b)
  | .or => .ok (a ||| b)
  | .xor => .ok (a ^^^ b)

/-- A shift of a word by an amount modulo its width. The sign is kept on a shift to the right. -/
def ShiftOperator.onBits {w : Nat} (op : ShiftOperator) (a : BitVec w) (amount : BitVec 32) :
    BitVec w :=
  let steps := amount.toNat % w
  match op with
  | .left => a <<< steps
  | .right => a.sshiftRight steps

/-- An operation on words as one on values of an integer type. -/
def onIntegers (operation : {w : Nat} → BitVec w → BitVec w → Result (BitVec w)) :
    Value → Value → Option (Result Value)
  | .boolean a, .boolean b =>
    some do
      let r ← operation (wordOfBool a) (wordOfBool b)
      .ok (.boolean (r != 0))
  | .int32 a, .int32 b =>
    some do
      let r ← operation a.toBitVec b.toBitVec
      .ok (.int32 (Int32.ofBitVec r))
  | .int64 a, .int64 b =>
    some do
      let r ← operation a.toBitVec b.toBitVec
      .ok (.int64 (Int64.ofBitVec r))
  | _, _ => none

/-! ### Decimals and doubles -/

/-- Arithmetic on decimals. -/
def ArithmeticOperator.onDecimals (op : ArithmeticOperator) (a b : Decimal) : Result Decimal :=
  let result :=
    match op with
    | .multiply => a.mul? b
    | .divide => a.div? b
    | .add => a.add? b
    | .subtract => a.sub? b
  if op == .divide && b.isZero then .error .divisionByZero
  else
    match result with
    | some d => .ok d
    | none => .error (.evaluation (.decimalOverflow op))

/-- Arithmetic on doubles. -/
def ArithmeticOperator.onDoubles (op : ArithmeticOperator) (a b : Float) : Float :=
  match op with
  | .multiply => a * b
  | .divide => a / b
  | .add => a + b
  | .subtract => a - b

/-! ### Binary operators on values of the type of the operation -/

/-- An operator has no meaning for two values. -/
def BinaryOperator.refuseValues (op : BinaryOperator) (a b : Value) : Result Value :=
  .error (.typing (.operation op a.dataType b.dataType))

/-- Arithmetic on two values of one type. A sum of texts joins them. -/
def ArithmeticOperator.onValues (op : ArithmeticOperator) (a b : Value) : Result Value :=
  match a, b with
  | .decimal a, .decimal b => (op.onDecimals a b).map .decimal
  | .double a, .double b => .ok (.double (op.onDoubles a b))
  | .string s, .string t =>
    if op == .add then .ok (.string (s ++ t))
    else (BinaryOperator.arithmetic op).refuseValues a b
  | _, _ => (onIntegers op.onBits a b).getD ((BinaryOperator.arithmetic op).refuseValues a b)

/-- An integer operation on two values of one type. -/
def IntegerOperator.onValues (op : IntegerOperator) (a b : Value) : Result Value :=
  (onIntegers op.onBits a b).getD ((BinaryOperator.integer op).refuseValues a b)

/-- A shift of a value by an amount, of which the lower half is read as a word without a sign. -/
def ShiftOperator.onValues (op : ShiftOperator) (a : Value) (amount : Int64) : Result Value :=
  let lower := amount.toBitVec.setWidth 32
  match a with
  | .boolean b => .ok (.boolean (op.onBits (wordOfBool b) lower != 0))
  | .int32 i => .ok (.int32 (Int32.ofBitVec (op.onBits i.toBitVec lower)))
  | .int64 i => .ok (.int64 (Int64.ofBitVec (op.onBits i.toBitVec lower)))
  | other => .error (.typing (.operation (.shift op) other.dataType .int64))

/-- What a comparison says about an order. Values without an order are not equal. -/
def Comparison.holds (op : Comparison) (order : Option Ordering) : Bool :=
  match op with
  | .less => order == some .lt
  | .lessOrEqual => order == some .lt || order == some .eq
  | .greater => order == some .gt
  | .greaterOrEqual => order == some .gt || order == some .eq
  | .equal _ => order == some .eq
  | .notEqual _ => order != some .eq

/-- A truth value, or none if it is unknown. -/
def truthOf? : Value → Option (Option Bool)
  | .boolean b => some (some b)
  | .null .boolean | .null .undefined => some none
  | _ => none

/-- Conjunction and disjunction of truth values that may be unknown. -/
def LogicalOperator.onTruth (op : LogicalOperator) (a b : Option Bool) : Option Bool :=
  match op with
  | .and =>
    match a, b with
    | some false, _ | _, some false => some false
    | some true, some true => some true
    | _, _ => none
  | .or =>
    match a, b with
    | some true, _ | _, some true => some true
    | some false, some false => some false
    | _, _ => none

/-- Conjunction and disjunction of values. -/
def LogicalOperator.onValues (op : LogicalOperator) (a b : Value) : Result Value :=
  match truthOf? a, truthOf? b with
  | some p, some q =>
    match op.onTruth p q with
    | some r => .ok (.boolean r)
    | none => .ok (.null .boolean)
  | _, _ => (BinaryOperator.logical op).refuseValues a b

/-! ### All operators -/

namespace BinaryOperator

/-- An operator other than the logical ones on values that are no nulls, carried out in a type. -/
def applyPresent (op : BinaryOperator) (type : DataType) (a b : Value) : Result Value := do
  let a ← a.convert type
  match op with
  | .arithmetic op => op.onValues a (← b.convert type)
  | .integer op => op.onValues a (← b.convert type)
  | .shift op =>
    match ← b.convert .int64 with
    | .int64 amount => op.onValues a amount
    | _ => op.onValues a 0
  | .comparison op => .ok (.boolean (op.holds (a.comparePresent op.isExact (← b.convert type))))
  | .like negated exact =>
    match a, b with
    | .string text, .string pattern => .ok (.boolean (isLike exact text pattern != negated))
    | _, _ => .ok (.null .boolean)
  | .logical op => op.onValues a b

/-- An operator on two values. -/
def apply (op : BinaryOperator) (a b : Value) : Result Value :=
  match op with
  | .logical op => op.onValues a b
  | _ => do
    let type ← op.operationType a.dataType b.dataType
    if type == .undefined || a.isNull || b.isNull then .ok (.null (op.resultType type))
    else op.applyPresent type a b

end BinaryOperator

/-- Whether a value is a null, or is none. -/
def testNull (negated : Bool) (v : Value) : Value := .boolean (v.isNull != negated)

/-- A binary operator on two values, or a test for null on the first. -/
def Operator.apply (op : Operator) (a b : Value) : Result Value :=
  match op with
  | .binary op => op.apply a b
  | .nullTest negated => .ok (testNull negated a)

namespace UnaryOperator

/-- Whether a null of a type is an operand of a unary operator. -/
def acceptsNull (op : UnaryOperator) (type : DataType) : Bool :=
  type == .undefined ||
    match op with
    | .plus | .minus => type.isNumeric
    | .not => type.isInteger

/-- A unary operator on a value. -/
def apply (op : UnaryOperator) (v : Value) : Result Value :=
  let refuse : Result Value := .error (.typing (.unary op v.dataType))
  match op, v with
  | _, .null type => if op.acceptsNull type then .ok v else refuse
  | .plus, _ => if v.dataType.isNumeric then .ok v else refuse
  | .minus, .boolean b | .not, .boolean b => .ok (.boolean !b)
  | .minus, .int32 i => .ok (.int32 (-i))
  | .minus, .int64 i => .ok (.int64 (-i))
  | .minus, .decimal d => .ok (.decimal d.neg)
  | .minus, .double x => .ok (.double (-x))
  | .not, .int32 i => .ok (.int32 (~~~i))
  | .not, .int64 i => .ok (.int64 (~~~i))
  | _, _ => refuse

end UnaryOperator

end TableFilter
