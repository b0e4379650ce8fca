import TableFilter.Json.Number

/-!
# JSON documents

A document is kept as it is written. What its numbers and texts stand for is worked out where they
are used: a number may be too large, and a text may hold half of a character. Members that nobody
looks at may be so.

## Main definitions

* `Json.Fragment`: a part of a written text, and `Json.textOf?` what fragments stand for
* `Json`: documents as they are written
* `Datum`: what documents stand for
* `Json.datum?`: from the one to the other
* `Json.depth`: nesting of arrays and objects
-/

namespace TableFilter

/-! ### Written texts -/

/-- A part of a written text: a character, or a code unit of 16 bits in base sixteen. -/
inductive Json.Fragment where
  | char (c : Char)
  | unit (n : Nat)
deriving DecidableEq, Repr

namespace Json

/-- Whether a code unit is the first half of a character. -/
def isHighHalf (n : Nat) : Bool := 0xD800 ≤ n && n < 0xDC00

/-- Whether a code unit is the second half of a character. -/
def isLowHalf (n : Nat) : Bool := 0xDC00 ≤ n && n < 0xE000

/-- The character of two halves. -/
def joinHalves (high low : Nat) : Char :=
  Char.ofNat (0x10000 + (high - 0xD800) * 0x400 + (low - 0xDC00))

/-- The characters that fragments stand for, unless a half of a character stands alone. -/
def charsOf? : List Fragment → Option (List Char)
  | [] => some []
  | .char c :: fs => (charsOf? fs).map (c :: ·)
  | .unit n :: fs =>
    if isHighHalf n then
      match fs with
      | .unit m :: fs => if isLowHalf m then (charsOf? fs).map (joinHalves n m :: ·) else none
      | _ => none
    else if isLowHalf n then none
    else (charsOf? fs).map (Char.ofNat n :: ·)

/-- The text that fragments stand for. -/
def textOf? (fs : List Fragment) : Option String := (charsOf? fs).map String.ofList

end Json

/-! ### Documents -/

/-- A document as it is written. Members of objects keep their order, and names may repeat. -/
inductive Json where
  | null
  | boolean (b : Bool)
  | number (n : Json.Numeral)
  | string (fs : List Json.Fragment)
  | array (items : List Json)
  | object (members : List (List Json.Fragment × Json))

/-- What a document stands for. Members of objects are in the order of their names, which do not
repeat. -/
inductive Datum where
  | null
  | boolean (b : Bool)
  | number (n : Json.Number)
  | string (s : String)
  | array (items : List Datum)
  | object (members : List (String × Datum))

/-- Members with one put in by its name. A member of that name is replaced. -/
def Datum.insertMember (name : String) (d : Datum) :
    List (String × Datum) → List (String × Datum)
  | [] => [(name, d)]
  | (other, e) :: rest =>
    if name < other then (name, d) :: (other, e) :: rest
    else if name == other then (name, d) :: rest
    else (other, e) :: insertMember name d rest

namespace Json

mutual

/-- What a document stands for. Of members with one name the last counts. -/
def datum? : Json → Option Datum
  | .null => some .null
  | .boolean b => some (.boolean b)
  | .number n => n.value?.map .number
  | .string fs => (textOf? fs).map .string
  | .array items => (itemData? items).map .array
  | .object members => (memberData? [] members).map .object

/-- What the items of an array stand for. -/
def itemData? : List Json → Option (List Datum)
  | [] => some []
  | j :: js => do
    let d ← j.datum?
    some (d :: (← itemData? js))

/-- What the members of an object stand for, put in among those before. -/
def memberData? (before : List (String × Datum)) :
    List (List Fragment × Json) → Option (List (String × Datum))
  | [] => some before
  | (name, j) :: rest => do
    let name ← textOf? name
    let d ← j.datum?
    memberData? (Datum.insertMember name d before) rest

end

mutual

/-- How deep arrays and objects are nested. -/
def depth : Json → Nat
  | .array items => itemsDepth items + 1
  | .object members => membersDepth members + 1
  | _ => 0

/-- The greatest depth of the items of an array. -/
def itemsDepth : List Json → Nat
  | [] => 0
  | j :: js => max j.depth (itemsDepth js)

/-- The greatest depth of the members of an object. -/
def membersDepth : List (List Fragment × Json) → Nat
  | [] => 0
  | (_, j) :: rest => max j.depth (membersDepth rest)

end

/-- The nesting up to which a document is read. -/
def depthLimit : Nat := 127

end Json

end TableFilter
