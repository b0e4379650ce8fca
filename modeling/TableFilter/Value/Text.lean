import TableFilter.Decimal.Text
import TableFilter.Number.DoubleText
import TableFilter.Text.Search
import TableFilter.Time.Text
import TableFilter.Value

/-!
# Values as text

## Main definitions

* `Value.text`: the form that conversion to text gives, six places for decimals and doubles
* `Value.literal`: the form that reads back as the same value in an expression
-/

namespace TableFilter.Value

open TableFilter.Number

/-- Places that decimals and doubles are shown with. -/
def shownPlaces : Nat := 6

/-- A truth value as text. -/
def booleanText (b : Bool) : List Char := if b then "true".toList else "false".toList

/-- A value as text. Every decimal is written with six places, as its format asks for, also one
with 26 digits or more before the point: these six places and its digits together are more than a
decimal holds. -/
def text : Value → String
  | .null _ => "NULL"
  | .boolean b => String.ofList (booleanText b)
  | .int32 i => String.ofList (intText i.toInt)
  | .int64 i => String.ofList (intText i.toInt)
  | .decimal d => String.ofList (d.textWithPlaces shownPlaces)
  | .double x => String.ofList (fixedText shownPlaces x)
  | .string s => s
  | .guid g => String.ofList g.braced
  | .dateTime t => String.ofList t.text

/-- A text with each single quote written twice. -/
def doubleQuotes : List Char → List Char
  | [] => []
  | c :: cs => if c == '\'' then c :: c :: doubleQuotes cs else c :: doubleQuotes cs

/-- A text between delimiters. -/
def enclosed (delimiter : Char) (cs : List Char) : List Char := delimiter :: cs ++ [delimiter]

/-- A decimal with a point, which tells it from an integer. -/
def decimalLiteral (d : Decimal) : List Char :=
  if d.scale == 0 then d.text ++ ".0".toList else d.text

/-- A double with an exponent, which tells it from a decimal. The doubles that have no digits are
written as a conversion. -/
def doubleLiteral (x : Float) : List Char :=
  if Binary64.isFinite x then exponentText x
  else "Convert('".toList ++ exponentText x ++ "', 'Double')".toList

/-- A value as an expression that stands for it. -/
def literal : Value → String
  | .null _ => "NULL"
  | .boolean b => String.ofList (booleanText b)
  | .int32 i => String.ofList (intText i.toInt)
  | .int64 i => String.ofList (intText i.toInt)
  | .decimal d => String.ofList (decimalLiteral d)
  | .double x => String.ofList (doubleLiteral x)
  | .string s => String.ofList (enclosed '\'' (doubleQuotes s.toList))
  | .guid g => String.ofList g.braced
  | .dateTime t => String.ofList (enclosed '#' t.text)

end TableFilter.Value
