import TableFilter.Text.CharRanges

/-!
# Character classes

The classes of characters that the reader of filters and the text functions look at. Each is
decided by arithmetic for ASCII and by a table of ranges beyond it.

## Main definitions

* `isBlank`: white space
* `isLetter`, `isNumeral`: what a name may hold
* `isDigit`, `isHexDigit`: ASCII digits of base ten and sixteen
* `trim`, `trimLeft`, `trimRight`: text without the blanks at its ends
-/

namespace TableFilter.Text

open TableFilter.CharRanges

/-- White space: the ASCII blanks, next line, and the spaces and separators beyond ASCII. -/
def isBlank (c : Char) : Bool :=
  let n := c.toNat
  (9 ≤ n && n ≤ 13) || n == 32 || n == 0x85 || n == 0xA0 || n == 0x1680 ||
    (0x2000 ≤ n && n ≤ 0x200A) || n == 0x2028 || n == 0x2029 || n == 0x202F || n == 0x205F ||
    n == 0x3000

/-- An ASCII letter. -/
def isAsciiLetter (c : Char) : Bool :=
  let n := c.toNat
  (97 ≤ n && n ≤ 122) || (65 ≤ n && n ≤ 90)

/-- A digit of base ten, ASCII only. -/
def isDigit (c : Char) : Bool := 48 ≤ c.toNat && c.toNat ≤ 57

/-- A digit of base sixteen, ASCII only. -/
def isHexDigit (c : Char) : Bool :=
  let n := c.toNat
  isDigit c || (97 ≤ n && n ≤ 102) || (65 ≤ n && n ≤ 70)

/-- An alphabetic character. -/
def isLetter (c : Char) : Bool :=
  if c.toNat < 128 then isAsciiLetter c else inRanges letterRanges c.toNat

/-- A character with a numeric value: digits of any script, fractions, letter numbers. -/
def isNumeral (c : Char) : Bool :=
  if c.toNat < 128 then isDigit c else inRanges numeralRanges c.toNat

/-- A letter or a numeral. -/
def isLetterOrNumeral (c : Char) : Bool := isLetter c || isNumeral c

/-- The value of a digit of base sixteen, zero for other characters. -/
def hexValue (c : Char) : Nat :=
  let n := c.toNat
  if isDigit c then n - 48
  else if 97 ≤ n && n ≤ 102 then n - 87
  else if 65 ≤ n && n ≤ 70 then n - 55
  else 0

/-- The value of a digit of base ten. -/
def digitValue (c : Char) : Nat := c.toNat - 48

/-- The number written by digits of base ten, most significant first. -/
def natOfDigits (cs : List Char) : Nat := cs.foldl (fun n c => n * 10 + digitValue c) 0

/-- The number written by digits of base sixteen, most significant first. -/
def natOfHex (cs : List Char) : Nat := cs.foldl (fun n c => n * 16 + hexValue c) 0

/-! ### Blanks at the ends -/

/-- Text from its first character that is not blank. -/
def trimLeft (cs : List Char) : List Char := cs.dropWhile isBlank

/-- Text up to its last character that is not blank. -/
def trimRight (cs : List Char) : List Char := (cs.reverse.dropWhile isBlank).reverse

/-- Text without blanks at either end. -/
def trim (cs : List Char) : List Char := trimRight (trimLeft cs)

end TableFilter.Text
