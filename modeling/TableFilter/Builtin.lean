import TableFilter.Text.Case

/-!
# Built-in functions

## Main definitions

* `Builtin`: the functions that expressions can call
* `Builtin.ofName?`: a function by its name in any case
* `Arity`, `Builtin.arity`: accepted counts of arguments
-/

namespace TableFilter

open TableFilter.Text

/-- A function that expressions can call. -/
inductive Builtin where
  | abs | ceiling | floor | power | round | sqrt
  | len | lower | upper | trim | trimLeft | trimRight | subStr | replace | reverse | split
  | startsWith | endsWith | contains | indexOf | lastIndexOf | nthIndexOf | strCount | strCmp
  | regExMatch | regExVal
  | isNull | isDate | isInteger | isGuid | isNumeric | coalesce | iif | convert | maxOf | minOf
  | now | utcNow | dateAdd | dateDiff | datePart
deriving DecidableEq, Repr

/-- Accepted counts of arguments. -/
inductive Arity where
  | exactly (n : Nat)
  | between (least most : Nat)
  | atLeast (n : Nat)
deriving DecidableEq, Repr

namespace Arity

/-- Whether a count of arguments is accepted. -/
def accepts : Arity → Nat → Bool
  | .exactly n, count => count == n
  | .between least most, count => least ≤ count && count ≤ most
  | .atLeast n, count => n ≤ count

/-- The written form. -/
def text : Arity → String
  | .exactly n => toString n
  | .between least most => toString least ++ " to " ++ toString most
  | .atLeast n => "at least " ++ toString n

end Arity

namespace Builtin

/-- All functions. -/
def all : List Builtin :=
  [.abs, .ceiling, .floor, .power, .round, .sqrt, .len, .lower, .upper, .trim, .trimLeft,
   .trimRight, .subStr, .replace, .reverse, .split, .startsWith, .endsWith, .contains, .indexOf,
   .lastIndexOf, .nthIndexOf, .strCount, .strCmp, .regExMatch, .regExVal, .isNull, .isDate,
   .isInteger, .isGuid, .isNumeric, .coalesce, .iif, .convert, .maxOf, .minOf, .now, .utcNow,
   .dateAdd, .dateDiff, .datePart]

/-- The name of a function. -/
def name : Builtin → String
  | .abs => "Abs"
  | .ceiling => "Ceiling"
  | .floor => "Floor"
  | .power => "Power"
  | .round => "Round"
  | .sqrt => "Sqrt"
  | .len => "Len"
  | .lower => "Lower"
  | .upper => "Upper"
  | .trim => "Trim"
  | .trimLeft => "TrimLeft"
  | .trimRight => "TrimRight"
  | .subStr => "SubStr"
  | .replace => "Replace"
  | .reverse => "Reverse"
  | .split => "Split"
  | .startsWith => "StartsWith"
  | .endsWith => "EndsWith"
  | .contains => "Contains"
  | .indexOf => "IndexOf"
  | .lastIndexOf => "LastIndexOf"
  | .nthIndexOf => "NthIndexOf"
  | .strCount => "StrCount"
  | .strCmp => "StrCmp"
  | .regExMatch => "RegExMatch"
  | .regExVal => "RegExVal"
  | .isNull => "IsNull"
  | .isDate => "IsDate"
  | .isInteger => "IsInteger"
  | .isGuid => "IsGuid"
  | .isNumeric => "IsNumeric"
  | .coalesce => "Coalesce"
  | .iif => "IIf"
  | .convert => "Convert"
  | .maxOf => "MaxOf"
  | .minOf => "MinOf"
  | .now => "Now"
  | .utcNow => "UtcNow"
  | .dateAdd => "DateAdd"
  | .dateDiff => "DateDiff"
  | .datePart => "DatePart"

/-- The function with a name, in any case of ASCII letters. -/
def ofName? (name : String) : Option Builtin := all.find? fun f => sameAsciiCase f.name name

/-- The accepted counts of arguments. -/
def arity : Builtin → Arity
  | .now | .utcNow => .exactly 0
  | .abs | .ceiling | .floor | .round | .sqrt | .len | .lower | .upper | .trim | .trimLeft
  | .trimRight | .reverse | .isDate | .isInteger | .isGuid | .isNumeric => .exactly 1
  | .power | .regExMatch | .regExVal | .isNull | .convert | .datePart => .exactly 2
  | .iif | .dateAdd | .dateDiff => .exactly 3
  | .subStr | .startsWith | .endsWith | .contains | .indexOf | .lastIndexOf | .strCount
  | .strCmp => .between 2 3
  | .replace | .split | .nthIndexOf => .between 3 4
  | .coalesce | .maxOf | .minOf => .atLeast 1

end Builtin

end TableFilter
