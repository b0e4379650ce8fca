import TableFilter.Json

/-!
# Reading JSON documents

A document is one value with nothing but blanks around it.

## Main definitions

* `JsonReader`: what reads the start of a text
* `JsonReader.value`: a value with the blanks before it
* `Json.ofText?`: a whole text
-/

namespace TableFilter

open TableFilter.Text

/-- Reads the start of a text and leaves the rest. -/
abbrev JsonReader := StateT (List Char) Option

namespace JsonReader

/-- White space between the parts of a document. -/
def isSpace (c : Char) : Bool := c == ' ' || c == '\n' || c == '\t' || c == '\r'

/-- The next character. -/
def next : JsonReader Char := do
  match ← get with
  | [] => failure
  | c :: rest => do
    set rest
    return c

/-- Passes over blanks. -/
def skipSpaces : JsonReader Unit := modify fun cs => cs.dropWhile isSpace

/-- The next character that is no blank. -/
def nextSolid : JsonReader Char := do
  skipSpaces
  next

/-- Passes over the given characters, which have to come next. -/
def expect (cs : List Char) : JsonReader Unit := do
  let rest ← get
  if cs.isPrefixOf rest then set (rest.drop cs.length) else failure

/-- Passes over blanks and then over a character if it is the given one, and tells whether it
was. -/
def skipIf (c : Char) : JsonReader Bool := do
  skipSpaces
  if (← get).head? == some c then
    modify List.tail
    return true
  else return false

/-! ### Numbers -/

/-- The digits that come next. -/
def digits : JsonReader (List Char) := do
  let found := (← get).takeWhile isDigit
  modify fun cs => cs.dropWhile isDigit
  return found

/-- The digits that come next, of which there has to be one. -/
def someDigits : JsonReader (List Char) := do
  let found ← digits
  if found.isEmpty then failure else return found

/-- The digits before the point. A zero comes first only if it is the only one. -/
def wholeDigits : JsonReader (List Char) := do
  let found ← someDigits
  if found.head? == some '0' && 1 < found.length then failure else return found

/-- The digits after a point, none if there is no point. -/
def fraction : JsonReader (List Char) := do
  match ← get with
  | '.' :: rest => do
    set rest
    someDigits
  | _ => return []

/-- The sign and the digits of an exponent, if there is one. -/
def exponent? : JsonReader (Option (Bool × List Char)) := do
  match ← get with
  | c :: rest =>
    if c == 'e' || c == 'E' then
      let (negative, rest) := Number.takeSign rest
      set rest
      return some (negative, ← someDigits)
    else return none
  | [] => return none

/-- A number. -/
def numeral : JsonReader Json.Numeral := do
  let negative := (← get).head? == some '-'
  if negative then modify List.tail
  let whole ← wholeDigits
  let fraction ← fraction
  return { negative, whole, fraction, exponent := ← exponent? }

/-! ### Texts -/

/-- The character that a letter after a backslash stands for. -/
def unescaped? (c : Char) : Option Char :=
  match c with
  | '"' | '\\' | '/' => some c
  | 'b' => some '\x08'
  | 'f' => some '\x0c'
  | 'n' => some '\n'
  | 'r' => some '\r'
  | 't' => some '\t'
  | _ => none

/-- The code unit that four digits of base sixteen stand for. -/
def codeUnit? (digits : List Char) : Option Nat :=
  if digits.all isHexDigit then some (natOfHex digits) else none

/-- Whether a character has to be escaped in a text. -/
def isControl (c : Char) : Bool := c.toNat < 32

/-- The parts of a text up to the quote at its end, and what comes after it. -/
def fragments? : List Char → Option (List Json.Fragment × List Char)
  | [] => none
  | '"' :: rest => some ([], rest)
  | '\\' :: 'u' :: a :: b :: c :: d :: rest => do
    let n ← codeUnit? [a, b, c, d]
    let (fs, rest) ← fragments? rest
    some (.unit n :: fs, rest)
  | '\\' :: c :: rest => do
    let c ← unescaped? c
    let (fs, rest) ← fragments? rest
    some (.char c :: fs, rest)
  | c :: rest =>
    if isControl c then none
    else do
      let (fs, rest) ← fragments? rest
      some (.char c :: fs, rest)

/-- A text after the quote at its start. -/
def textTail : JsonReader (List Json.Fragment) := fragments?

/-- The name of a member, with the colon after it. -/
def memberName : JsonReader (List Json.Fragment) := do
  if (← nextSolid) != '"' then failure
  let name ← textTail
  if (← nextSolid) != ':' then failure
  return name

/-! ### Values -/

/-- A value that holds no others. -/
def scalar : JsonReader Json := do
  match ← get with
  | 't' :: _ => do
    expect "true".toList
    return .boolean true
  | 'f' :: _ => do
    expect "false".toList
    return .boolean false
  | 'n' :: _ => do
    expect "null".toList
    return .null
  | '"' :: rest => do
    set rest
    return .string (← textTail)
  | _ => return .number (← numeral)

mutual

/-- A value with the blanks before it. -/
def value : Nat → JsonReader Json
  | 0 => failure
  | fuel + 1 => do
    if ← skipIf '[' then
      if ← skipIf ']' then return .array [] else return .array (← items fuel)
    else if ← skipIf '\x7b' then
      if ← skipIf '\x7d' then return .object [] else return .object (← members fuel)
    else scalar

/-- The items of an array that holds some, with the bracket at its end. -/
def items : Nat → JsonReader (List Json)
  | 0 => failure
  | fuel + 1 => do
    let j ← value fuel
    let c ← nextSolid
    if c == ',' then return j :: (← items fuel)
    else if c == ']' then return [j]
    else failure

/-- The members of an object that holds some, with the brace at its end. -/
def members : Nat → JsonReader (List (List Json.Fragment × Json))
  | 0 => failure
  | fuel + 1 => do
    let name ← memberName
    let j ← value fuel
    let c ← nextSolid
    if c == ',' then return (name, j) :: (← members fuel)
    else if c == '\x7d' then return [(name, j)]
    else failure

end

end JsonReader

/-- The document that a text holds. Of any two calls one inside the other, one passes over a
character, which bounds their number. -/
def Json.ofText? (text : String) : Option Json :=
  let cs := text.toList
  match (JsonReader.value (2 * cs.length + 1)).run cs with
  | some (j, rest) => if rest.all JsonReader.isSpace then some j else none
  | none => none

end TableFilter
