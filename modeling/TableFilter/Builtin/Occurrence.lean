import TableFilter.Builtin.Argument
import TableFilter.Pattern.Search
import TableFilter.Text.Search
import TableFilter.Value.Order

/-!
# Functions that look for one text in another

Case can be ignored in two ways. Tests and counts look in the upper form of both texts. Positions,
parts and replacements look in the text itself and fold character by character, so that they speak
of the text that was passed. For this the text to look for is compiled, which fails if it is too
large.

## Main definitions

* `sameLetter`: equality of characters, up to case or not
* `compile`: what is done to look for a text up to case
* `positionOf?`, `lastPositionOf?`, `nthPositionOf?`: places of occurrences
* `replaceText`, `partsOf`: texts with the occurrences replaced, and cut at them
* `callReplace`, `callSplit`, `callContains`, `callIndexOf`, `callStrCount`, … : calls
-/

namespace TableFilter.Builtin

open TableFilter.Pattern (Engine)
open TableFilter.Text

/-- Equality of characters. -/
def sameLetter (ignoreCase : Bool) (a b : Char) : Bool :=
  if ignoreCase then sameFolded a b else a == b

/-- A text, in its upper form if case is ignored. -/
def caseForm (ignoreCase : Bool) (s : String) : List Char :=
  if ignoreCase then Text.upper s.toList else s.toList

/-- Compiles a text to look for it up to case. Where case counts there is nothing to compile. -/
def compile (engine : Engine) (ignoreCase : Bool) (wanted : String) : Result Unit :=
  if ignoreCase && engine.refuses wanted.toList then .error (.evaluation .patternTooLarge)
  else .ok ()

/-! ### Replacing and cutting -/

/-- A text with all occurrences of another replaced. The empty text is not looked for. -/
def replaceText (ignoreCase : Bool) (s wanted replacement : List Char) : List Char :=
  if wanted.isEmpty then s else Text.replace (sameLetter ignoreCase) wanted replacement s

/-- The parts of a text between the occurrences of another. The empty text cuts nowhere. -/
def partsOf (ignoreCase : Bool) (s wanted : List Char) : List (List Char) :=
  if wanted.isEmpty then [s] else Text.split (sameLetter ignoreCase) wanted s

/-- Calls the function that replaces occurrences. -/
def callReplace (engine : Engine) (args : List Value) : Result Value := do
  let s ← textArgument .replace args 0
  let wanted ← textArgument .replace args 1
  let replacement ← textArgument .replace args 2
  match s, wanted, replacement with
  | some s, some wanted, some replacement =>
    if wanted.isEmpty then .ok (.string s)
    else
      let ignoreCase ← ignoreCaseArgument .replace args 3
      compile engine ignoreCase wanted
      .ok (.string (String.ofList
        (replaceText ignoreCase s.toList wanted.toList replacement.toList)))
  | _, _, _ => .ok (.null .string)

/-- The part with an index as a value, a null if there is none. -/
def partAt (parts : List (List Char)) (index : Nat) : Value :=
  match parts[index]? with
  | some part => .string (String.ofList part)
  | none => .null .string

/-- Calls the function for the parts between occurrences. -/
def callSplit (engine : Engine) (args : List Value) : Result Value := do
  let s ← textArgument .split args 0
  let wanted ← textArgument .split args 1
  let index ← intArgument .split args 2
  match s, wanted, index with
  | some s, some wanted, some index =>
    if index < 0 then .ok (.null .string)
    else if wanted.isEmpty then .ok (partAt [s.toList] index.toNat)
    else
      let ignoreCase ← ignoreCaseArgument .split args 3
      compile engine ignoreCase wanted
      .ok (partAt (partsOf ignoreCase s.toList wanted.toList) index.toNat)
  | _, _, _ => .ok (.null .string)

/-! ### Tests and counts -/

/-- Calls a test of two texts. -/
def callTest (f : Builtin) (test : List Char → List Char → Bool) (args : List Value) :
    Result Value := do
  let s ← textArgument f args 0
  let wanted ← textArgument f args 1
  match s, wanted with
  | some s, some wanted =>
    let ignoreCase ← ignoreCaseArgument f args 2
    .ok (.boolean (test (caseForm ignoreCase wanted) (caseForm ignoreCase s)))
  | _, _ => .ok (.null .boolean)

/-- Calls the test for a text at the start. -/
def callStartsWith : List Value → Result Value := callTest .startsWith (Text.startsWith (· == ·))

/-- Calls the test for a text at the end. -/
def callEndsWith : List Value → Result Value := callTest .endsWith (Text.endsWith (· == ·))

/-- Calls the test for a text anywhere. -/
def callContains : List Value → Result Value := callTest .contains (Text.contains (· == ·))

/-- Calls the function that counts occurrences without overlap. The empty text has none. -/
def callStrCount (args : List Value) : Result Value := do
  let s ← textArgument .strCount args 0
  let wanted ← textArgument .strCount args 1
  match s, wanted with
  | some s, some wanted =>
    if wanted.isEmpty then .ok (.int32 0)
    else
      let ignoreCase ← ignoreCaseArgument .strCount args 2
      let starts := scan (· == ·) (caseForm ignoreCase wanted) (caseForm ignoreCase s)
      .ok (.int32 (Int32.ofNat starts.length))
  | _, _ => .ok (.null .int32)

/-- An order as a number. -/
def orderNumber : Ordering → Int32
  | .lt => -1
  | .eq => 0
  | .gt => 1

/-- Calls the function that compares two texts. -/
def callStrCmp (args : List Value) : Result Value := do
  let a ← textArgument .strCmp args 0
  let b ← textArgument .strCmp args 1
  match a, b with
  | some a, some b =>
    let ignoreCase ← ignoreCaseArgument .strCmp args 2
    .ok (.int32 (orderNumber (compareText (!ignoreCase) a b)))
  | _, _ => .ok (.null .int32)

/-! ### Positions -/

/-- The first place where a text occurs, in bytes. -/
def positionOf? (ignoreCase : Bool) (s wanted : List Char) : Option Nat :=
  (scan (sameLetter ignoreCase) wanted s).head?

/-- The last place where a text occurs, in bytes, overlapping occurrences included. A search that
ignores case only goes forward. -/
def lastPositionOf? (ignoreCase : Bool) (s wanted : List Char) : Option Nat :=
  if ignoreCase then lastOfRestarts? (sameLetter true) wanted s 0 none
  else lastOccurrence? (sameLetter false) wanted s

/-- The place of the occurrence with a number, counted from one without overlap, in bytes. -/
def nthPositionOf? (n : Int) (ignoreCase : Bool) (s wanted : List Char) : Option Nat :=
  (scan (sameLetter ignoreCase) wanted s)[(n - 1).toNat]?

/-- Looks for a text that was compiled before. -/
def lookFor {α : Type} (engine : Engine) (look : Bool → List Char → List Char → α)
    (ignoreCase : Bool) (s wanted : String) : Result α := do
  compile engine ignoreCase wanted
  .ok (look ignoreCase s.toList wanted.toList)

/-- Calls a function for a place, as the number of characters before it, or minus one if there is
none. -/
def callPosition (f : Builtin) (flagIndex : Nat)
    (position : Bool → String → String → Result (Option Nat)) (args : List Value) :
    Result Value := do
  let s ← textArgument f args 0
  let wanted ← textArgument f args 1
  match s, wanted with
  | some s, some wanted =>
    let ignoreCase ← ignoreCaseArgument f args flagIndex
    match ← position ignoreCase s wanted with
    | some k => .ok (.int32 (Int32.ofNat (charsBefore k s.toList)))
    | none => .ok (.int32 (-1))
  | _, _ => .ok (.null .int32)

/-- Calls the function for the first place. -/
def callIndexOf (engine : Engine) : List Value → Result Value :=
  callPosition .indexOf 2 (lookFor engine positionOf?)

/-- Calls the function for the last place. -/
def callLastIndexOf (engine : Engine) : List Value → Result Value :=
  callPosition .lastIndexOf 2 (lookFor engine lastPositionOf?)

/-- The place with a number. Without a number from one on or a text there is nothing to compile. -/
def nthPlaceOf (engine : Engine) (n : Int) (ignoreCase : Bool) (s wanted : String) :
    Result (Option Nat) :=
  if n < 1 || wanted.isEmpty then .ok none
  else lookFor engine (nthPositionOf? n) ignoreCase s wanted

/-- Calls the function for the place with a number. -/
def callNthIndexOf (engine : Engine) (args : List Value) : Result Value := do
  match ← intArgument .nthIndexOf args 2 with
  | some n => callPosition .nthIndexOf 3 (nthPlaceOf engine n) args
  | none => .ok (.null .int32)

/-! ### Regular expressions -/

/-- Calls a function of a text and of the expression that a pattern stands for. -/
def callOnPattern (f : Builtin) (absent : Value)
    (answer : Pattern.Regex → List Char → Value) (args : List Value) : Result Value := do
  let pattern ← textArgument f args 0
  let s ← textArgument f args 1
  match pattern, s with
  | some pattern, some s =>
    match Pattern.Regex.ofText? pattern.toList with
    | some r => .ok (answer r s.toList)
    | none => .error (.evaluation (.unreadablePattern f))
  | _, _ => .ok absent

/-- Calls the test for a match. -/
def callRegExMatch : List Value → Result Value :=
  callOnPattern .regExMatch (.null .boolean) fun r s => .boolean (r.occursIn s)

/-- Calls the function for the first match. -/
def callRegExVal : List Value → Result Value :=
  callOnPattern .regExVal (.null .string) fun r s =>
    match r.firstMatch? s with
    | some part => .string (String.ofList part)
    | none => .null .string

end TableFilter.Builtin
