import TableFilter.Builtin.Argument
import TableFilter.Text.Search

/-!
# Functions of one text

Length, case, blanks at the ends, order of characters, and parts by position. Positions count
characters from zero.

## Main definitions

* `slice`: the part of a text from a position on, with a length
* `callLen`, `callLower`, `callUpper`, `callTrim`, `callTrimLeft`, `callTrimRight`, `callReverse`,
  `callSubStr`: calls
-/

namespace TableFilter.Builtin

open TableFilter.Text

/-- Applies a function of characters to the first argument. -/
def callOnText (f : Builtin) (function : List Char → List Char) (args : List Value) :
    Result Value := do
  match ← textArgument f args 0 with
  | some s => .ok (.string (String.ofList (function s.toList)))
  | none => .ok (.null .string)

/-- Calls the function that counts characters. -/
def callLen (args : List Value) : Result Value := do
  match ← textArgument .len args 0 with
  | some s => .ok (.int32 (Int32.ofNat s.length))
  | none => .ok (.null .int32)

/-- Calls the function for lower text. -/
def callLower : List Value → Result Value := callOnText .lower Text.lower

/-- Calls the function for upper text. -/
def callUpper : List Value → Result Value := callOnText .upper Text.upper

/-- Calls the function that leaves out blanks at both ends. -/
def callTrim : List Value → Result Value := callOnText .trim Text.trim

/-- Calls the function that leaves out blanks at the start. -/
def callTrimLeft : List Value → Result Value := callOnText .trimLeft Text.trimLeft

/-- Calls the function that leaves out blanks at the end. -/
def callTrimRight : List Value → Result Value := callOnText .trimRight Text.trimRight

/-- Calls the function that turns the order of characters round. -/
def callReverse : List Value → Result Value := callOnText .reverse List.reverse

/-- The part of a text from a position on, at most as long as given. Negative numbers count as
zero. -/
def slice (cs : List Char) (start : Int) (length : Option Int) : List Char :=
  let rest := cs.drop start.toNat
  match length with
  | some n => rest.take n.toNat
  | none => rest

/-- Calls the function for parts of a text. -/
def callSubStr (args : List Value) : Result Value := do
  let s ← textArgument .subStr args 0
  let start ← intArgument .subStr args 1
  match s, start with
  | some s, some start =>
    let length ← intArgument .subStr args 2
    .ok (.string (String.ofList (slice s.toList start length)))
  | _, _ => .ok (.null .string)

end TableFilter.Builtin
