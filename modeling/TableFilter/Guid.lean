import TableFilter.Number.Power
import TableFilter.Text.CharClass

/-!
# Identifiers of 128 bits

## Main definitions

* `Guid`: a number of 128 bits
* `Guid.text`, `Guid.braced`: the hyphenated form, lower case, without and with braces
* `Guid.ofText?`: the identifier a text stands for, in quotes, braces or neither
-/

namespace TableFilter

open TableFilter.Number TableFilter.Text

/-- An identifier of 128 bits. -/
structure Guid where
  bits : BitVec 128
deriving DecidableEq

namespace Guid

/-- Number of hexadecimal digits. -/
def digitCount : Nat := 32

/-- Number of characters of the hyphenated form. -/
def textLength : Nat := 36

/-- Whether a hyphen stands at an offset of the hyphenated form. -/
def isHyphenAt (offset : Nat) : Bool :=
  offset == 8 || offset == 13 || offset == 18 || offset == 23

/-- The order of identifiers. -/
def order (a b : Guid) : Ordering := compare a.bits.toNat b.bits.toNat

/-! ### Writing -/

/-- The last `count` hexadecimal digits of a number, most significant first. -/
def hexDigits (count n : Nat) : List Char :=
  (List.range count).reverse.map fun k => Nat.digitChar (n / twoTo (4 * k) % 16)

/-- Digits with hyphens before those that come at the start of a later group. -/
def hyphenated (digits : List Char) : List Char :=
  digits.take 8 ++ '-' :: (digits.drop 8).take 4 ++ '-' :: (digits.drop 12).take 4 ++
    '-' :: (digits.drop 16).take 4 ++ '-' :: digits.drop 20

/-- The hyphenated form. -/
def text (g : Guid) : List Char := hyphenated (hexDigits digitCount g.bits.toNat)

/-- The hyphenated form in braces. -/
def braced (g : Guid) : List Char := '{' :: g.text ++ ['}']

/-! ### Reading -/

/-- Whether each of a run of characters is a hyphen where the hyphenated form has one and a digit
elsewhere. -/
def isHyphenatedFrom (offset : Nat) : List Char → Bool
  | [] => true
  | c :: cs =>
    (if isHyphenAt offset then c == '-' else isHexDigit c) && isHyphenatedFrom (offset + 1) cs

/-- Whether a text is a hyphenated form, in any case. -/
def isHyphenated (cs : List Char) : Bool := cs.length == textLength && isHyphenatedFrom 0 cs

/-- A text without a pair of delimiters around it, if it has both. -/
def unwrap (first last : Char) (cs : List Char) : List Char :=
  match cs with
  | c :: rest => if c == first && rest.getLast? == some last then rest.dropLast else cs
  | [] => []

/-- The identifier a text stands for. Blanks, then one pair of quotes, then one pair of braces may
stand around the hyphenated form. -/
def ofText? (cs : List Char) : Option Guid :=
  let cs := unwrap '{' '}' (unwrap '\'' '\'' (trim cs))
  if isHyphenated cs then some ⟨BitVec.ofNat 128 (natOfHex (cs.filter fun c => c != '-'))⟩
  else none

end Guid

end TableFilter
