import TableFilter.Builtin
import TableFilter.Operator
import TableFilter.Token
import TableFilter.Value.Text

/-!
# Errors

An error is a kind and a cause. The cause holds what went wrong, and the wording is given here for
all causes together.

## Main definitions

* `Malformed`, `TypeFault`, `ResolutionFault`, `ConversionFault`, `EvaluationFault`: causes by kind
* `Error`: a kind of error with its cause
* `Error.message`: the wording
* `Error.inArgument`: an error of a value as an error of the argument it was passed as
-/

namespace TableFilter

/-- Text in double quotes. -/
def quoted (s : String) : String := "\"" ++ s ++ "\""

/-! ### Malformed text -/

/-- Parts of a text that have a delimiter at their end. -/
inductive Delimited where
  | string
  | pointTag
  | dateTime
  | guid
deriving DecidableEq, Repr

/-- The name of a delimited part. -/
def Delimited.name : Delimited → String
  | .string => "string literal"
  | .pointTag => "point tag"
  | .dateTime => "date/time literal"
  | .guid => "GUID literal"

/-- What could have stood where another token was found. -/
inductive Expected where
  | token (t : Token)
  | statementEnd
  | rowLimit
  | identifier
  | expression
deriving DecidableEq, Repr

/-- The name of what could have stood somewhere. -/
def Expected.name : Expected → String
  | .token t => t.text
  | .statementEnd => "';' or end of input"
  | .rowLimit => "integer TOP value"
  | .identifier => "identifier"
  | .expression => "expression"

/-- Why a text is malformed. -/
inductive Malformed where
  | unexpectedCharacter (c : Char) (position : Nat)
  | unterminated (part : Delimited) (start : Nat)
  | unexpectedToken (expected : Expected) (found : Token)
  | repeatedRowLimit
  | rowLimitOutOfRange (text : String)
  | unknownFunction (name : String)
  | unreadableInteger (text : String)
  | unreadableHex (digits : String)
  | hexOutOfRange (digits : String)
  | unreadableDateTime (text : String)
  | unreadableGuid (text : String)
deriving DecidableEq, Repr

/-- The wording of why a text is malformed. -/
def Malformed.message : Malformed → String
  | .unexpectedCharacter c position =>
    "unexpected character '" ++ String.singleton c ++ "' at position " ++ toString position
  | .unterminated part start =>
    "unterminated " ++ part.name ++ " starting at position " ++ toString start
  | .unexpectedToken expected found =>
    "expected " ++ expected.name ++ ", found " ++ quoted found.text
  | .repeatedRowLimit => "TOP specified more than once"
  | .rowLimitOutOfRange text => "TOP value " ++ text ++ " is out of range"
  | .unknownFunction name => "unknown function " ++ quoted name
  | .unreadableInteger text => "invalid integer literal " ++ quoted text
  | .unreadableHex digits => "invalid hex literal " ++ quoted ("0x" ++ digits)
  | .hexOutOfRange digits => "hex literal " ++ quoted ("0x" ++ digits) ++ " is out of range"
  | .unreadableDateTime text => "invalid date/time literal " ++ quoted ("#" ++ text ++ "#")
  | .unreadableGuid text => "invalid GUID literal " ++ quoted text

/-! ### Types -/

/-- The words that tell an argument of a function, counted from one. -/
def argumentName (f : Builtin) (index : Nat) : String :=
  f.name ++ " function argument " ++ toString (index + 1)

/-- Why types do not fit. -/
inductive TypeFault where
  | operation (op : BinaryOperator) (left right : DataType)
  | unary (op : UnaryOperator) (operand : DataType)
  | conversion (source target : DataType)
  | reading (found expected : DataType)
  | argument (f : Builtin) (index : Nat) (cause : TypeFault)
  | notNumeric (f : Builtin) (index : Nat) (found : DataType)
  | testNotBoolean (found : DataType)
  | nullTypeName (source : DataType)
  | unknownTypeName (source : DataType) (name : String)
  | powerOperands (base exponent : DataType)
  | cell (column table : String) (declared found : DataType)
deriving DecidableEq, Repr

/-- The wording of why types do not fit. -/
def TypeFault.message : TypeFault → String
  | .operation op left right =>
    "cannot perform " ++ quoted op.text ++ " operation on " ++ quoted left.name ++ " and " ++
      quoted right.name
  | .unary op operand =>
    "cannot apply unary " ++ quoted op.name ++ " to " ++ quoted operand.name
  | .conversion source target =>
    "cannot convert " ++ quoted source.name ++ " to " ++ quoted target.name
  | .reading found expected =>
    "cannot read " ++ quoted found.name ++ " value as " ++ quoted expected.name
  | .argument f index cause => argumentName f index ++ ": " ++ cause.message
  | .notNumeric f index found =>
    argumentName f index ++ " must be numeric, got " ++ quoted found.name
  | .testNotBoolean found =>
    "IIf function test must be " ++ quoted DataType.boolean.name ++ ", got " ++ quoted found.name
  | .nullTypeName source =>
    "Convert function cannot convert " ++ quoted source.name ++ " to a NULL type name"
  | .unknownTypeName source name =>
    "Convert function cannot convert " ++ quoted source.name ++ " to unrecognized type " ++
      quoted name
  | .powerOperands base exponent =>
    "Power function cannot combine " ++ quoted base.name ++ " and " ++ quoted exponent.name
  | .cell column table declared found =>
    "column " ++ quoted column ++ " of table " ++ quoted table ++ " holds " ++
      quoted declared.name ++ ", got " ++ quoted found.name

/-! ### Names and places -/

/-- Why a name or a place does not exist, or exists already. -/
inductive ResolutionFault where
  | unknownTable (table : String)
  | repeatedTable (table : String)
  | noPrimaryTable
  | unknownColumn (column table : String)
  | repeatedColumn (column table : String)
  | columnWithoutTable (column : String)
  | selfReference (column table : String)
  | noIdField (table field : String)
  | noPrimaryIdField (table field : String)
  | columnOutOfRange (index : Nat) (table : String)
  | rowOutOfRange (index : Nat) (table : String)
  | valueOutOfRange (index width : Nat)
deriving DecidableEq, Repr

/-- The wording of why a name or a place does not exist. -/
def ResolutionFault.message : ResolutionFault → String
  | .unknownTable table => "table " ++ quoted table ++ " not found"
  | .repeatedTable table => "table " ++ quoted table ++ " already exists"
  | .noPrimaryTable => "no primary table was specified for statements without a FILTER clause"
  | .unknownColumn column table =>
    "column " ++ quoted column ++ " not found in table " ++ quoted table
  | .repeatedColumn column table =>
    "column " ++ quoted column ++ " already exists in table " ++ quoted table
  | .columnWithoutTable column =>
    "column " ++ quoted column ++ " cannot be resolved without a table"
  | .selfReference column table =>
    "computed column " ++ quoted column ++ " in table " ++ quoted table ++ " refers to itself"
  | .noIdField table field =>
    "table " ++ quoted table ++ " has no identifier field " ++ quoted field
  | .noPrimaryIdField table field =>
    "primary table " ++ quoted table ++ " has no identifier field " ++ quoted field
  | .columnOutOfRange index table =>
    "column index " ++ toString index ++ " is out of range for table " ++ quoted table
  | .rowOutOfRange index table =>
    "row index " ++ toString index ++ " is out of range for table " ++ quoted table
  | .valueOutOfRange index width =>
    "column index " ++ toString index ++ " is out of range for a row of " ++ toString width ++
      " values"

/-! ### Conversion -/

/-- Why a value has no counterpart in another type. -/
inductive ConversionFault where
  | outOfRange (value : Value) (target : DataType)
  | unreadable (text : String) (target : DataType)
  | argument (f : Builtin) (index : Nat) (cause : ConversionFault)
deriving DecidableEq

/-- The wording of why a value has no counterpart. -/
def ConversionFault.message : ConversionFault → String
  | .outOfRange value target =>
    quoted value.dataType.name ++ " value " ++ value.text ++ " is out of range for " ++
      quoted target.name
  | .unreadable text target => "cannot parse " ++ quoted text ++ " as " ++ quoted target.name
  | .argument f index cause => argumentName f index ++ ": " ++ cause.message

/-! ### Evaluation -/

/-- Why an evaluation fails for other reasons. -/
inductive EvaluationFault where
  | decimalOverflow (op : ArithmeticOperator)
  | columnWithoutRow (column : String)
  | missingOperand (op : BinaryOperator)
  | unknownInterval (f : Builtin) (name : String)
  | resultOutOfRange (f : Builtin)
  | unordered (f : Builtin) (left right : DataType)
  | unreadablePattern (f : Builtin)
  | patternTooLarge
  | rowWidth (table : String) (columns values : Nat)
deriving DecidableEq, Repr

/-- The wording of why an evaluation fails. -/
def EvaluationFault.message : EvaluationFault → String
  | .decimalOverflow op =>
    "Decimal overflow in " ++ quoted (BinaryOperator.arithmetic op).text ++ " operation"
  | .columnWithoutRow column =>
    "column " ++ quoted column ++ " cannot be read without a data row"
  | .missingOperand op => quoted op.text ++ " operator requires a right operand"
  | .unknownInterval f name =>
    f.name ++ " function interval " ++ quoted name ++ " is not recognized"
  | .resultOutOfRange f => f.name ++ " function result is out of range"
  | .unordered f left right =>
    f.name ++ " function cannot order " ++ quoted left.name ++ " and " ++ quoted right.name
  | .unreadablePattern f => f.name ++ " function pattern is invalid"
  | .patternTooLarge => "Compiled regex exceeds size limit of 10485760 bytes."
  | .rowWidth table columns values =>
    "table " ++ quoted table ++ " has " ++ toString columns ++ " columns, row has " ++
      toString values ++ " values"

/-! ### All errors -/

/-- An error of reading, binding or evaluating. -/
inductive Error where
  | malformed (cause : Malformed)
  | typing (cause : TypeFault)
  | resolution (cause : ResolutionFault)
  | conversion (cause : ConversionFault)
  | divisionByZero
  | argumentCount (f : Builtin) (count : Nat)
  | evaluation (cause : EvaluationFault)
deriving DecidableEq

namespace Error

/-- The wording of an error. -/
def message : Error → String
  | .malformed cause => "Syntax error: " ++ cause.message
  | .typing cause => "Type error: " ++ cause.message
  | .resolution cause => "Resolution error: " ++ cause.message
  | .conversion cause => "Conversion error: " ++ cause.message
  | .divisionByZero => "Division by zero"
  | .argumentCount f count =>
    "Function " ++ f.name ++ " expects " ++ f.arity.text ++ " arguments, got " ++ toString count
  | .evaluation cause => "Expression evaluation error: " ++ cause.message

/-- An error that comes from a value passed as an argument. Only type and conversion errors name the
argument. -/
def inArgument (f : Builtin) (index : Nat) : Error → Error
  | .typing cause => .typing (.argument f index cause)
  | .conversion cause => .conversion (.argument f index cause)
  | e => e

/-- Whether an error says that a text is malformed. -/
def isMalformed : Error → Bool
  | .malformed _ => true
  | _ => false

end Error

/-- The result of an operation that can fail. -/
abbrev Result := Except Error

/-- Fails unless a function accepts a count of arguments. -/
def Builtin.checkCount (f : Builtin) (count : Nat) : Result Unit :=
  if f.arity.accepts count then .ok () else .error (.argumentCount f count)

end TableFilter
