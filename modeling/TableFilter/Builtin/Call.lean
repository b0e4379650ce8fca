import TableFilter.Builtin.Choice
import TableFilter.Builtin.Date
import TableFilter.Builtin.Letters
import TableFilter.Builtin.Number
import TableFilter.Builtin.Occurrence

/-!
# Calls of functions

## Main definitions

* `Builtin.apply`: what a function gives for arguments of an accepted count
* `Builtin.callWith`: the same with the count checked
* `Builtin.call`: the same with the standard engine for patterns
-/

namespace TableFilter.Builtin

open TableFilter.Pattern (Engine)

/-- What a function gives for its arguments. -/
def apply (engine : Engine) (clock : Clock) (f : Builtin) (args : List Value) : Result Value :=
  match f with
  | .abs => callAbs args
  | .ceiling => callCeiling args
  | .floor => callFloor args
  | .power => callPower args
  | .round => callRound args
  | .sqrt => callSqrt args
  | .len => callLen args
  | .lower => callLower args
  | .upper => callUpper args
  | .trim => callTrim args
  | .trimLeft => callTrimLeft args
  | .trimRight => callTrimRight args
  | .subStr => callSubStr args
  | .replace => callReplace engine args
  | .reverse => callReverse args
  | .split => callSplit engine args
  | .startsWith => callStartsWith args
  | .endsWith => callEndsWith args
  | .contains => callContains args
  | .indexOf => callIndexOf engine args
  | .lastIndexOf => callLastIndexOf engine args
  | .nthIndexOf => callNthIndexOf engine args
  | .strCount => callStrCount args
  | .strCmp => callStrCmp args
  | .regExMatch => callRegExMatch args
  | .regExVal => callRegExVal args
  | .isNull => callIsNull args
  | .isDate => callInspection isDateLike args
  | .isInteger => callInspection isIntegerLike args
  | .isGuid => callInspection isGuidLike args
  | .isNumeric => callInspection isNumberLike args
  | .coalesce => callCoalesce args
  | .iif => callIIf args
  | .convert => callConvert args
  | .maxOf => callMaxOf args
  | .minOf => callMinOf args
  | .now => .ok (.dateTime clock.here)
  | .utcNow => .ok (.dateTime clock.utc)
  | .dateAdd => callDateAdd args
  | .dateDiff => callDateDiff args
  | .datePart => callDatePart args

/-- What a call of a function gives, with an engine that compiles the texts to look for. -/
def callWith (engine : Engine) (clock : Clock) (f : Builtin) (args : List Value) :
    Result Value := do
  f.checkCount args.length
  f.apply engine clock args

/-- What a call of a function gives. -/
def call (clock : Clock) (f : Builtin) (args : List Value) : Result Value :=
  f.callWith .standard clock args

end TableFilter.Builtin
