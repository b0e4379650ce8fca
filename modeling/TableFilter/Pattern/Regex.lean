import TableFilter.Pattern.CharSet

/-!
# Regular expressions

## Main definitions

* `Look`: conditions on a place in a text that take no character
* `Regex`: expressions, with a preference between the ways to match
* `Regex.size`: how many steps a program for an expression has
-/

namespace TableFilter.Pattern

/-- The two notions of what words are made of. -/
inductive WordKind where
  | unicode
  | ascii
deriving DecidableEq, Repr

/-- A condition on a place in a text. -/
inductive Look where
  | textStart
  | textEnd
  /-- The start of a line. `crlf` makes a carriage return end a line too. -/
  | lineStart (crlf : Bool)
  | lineEnd (crlf : Bool)
  | wordBoundary (negated : Bool) (kind : WordKind)
  | wordStart (kind : WordKind)
  | wordEnd (kind : WordKind)
  /-- A place with no word before it. -/
  | wordStartHalf (kind : WordKind)
  /-- A place with no word after it. -/
  | wordEndHalf (kind : WordKind)
deriving DecidableEq, Repr

/-- Whether a character is part of a word. -/
def WordKind.holds (kind : WordKind) (c : Option Char) : Bool :=
  match c, kind with
  | some c, .unicode => CharSet.word.contains c
  | some c, .ascii => CharSet.asciiWord.contains c
  | none, _ => false

/-- Whether a condition holds between two characters, of which either may be missing. -/
def Look.holds (look : Look) (before after : Option Char) : Bool :=
  match look with
  | .textStart => before.isNone
  | .textEnd => after.isNone
  | .lineStart false => before.isNone || before == some '\n'
  | .lineStart true =>
    before.isNone || before == some '\n' || (before == some '\r' && after != some '\n')
  | .lineEnd false => after.isNone || after == some '\n'
  | .lineEnd true =>
    after.isNone || after == some '\r' || (after == some '\n' && before != some '\r')
  | .wordBoundary negated kind => (kind.holds before != kind.holds after) != negated
  | .wordStart kind => !kind.holds before && kind.holds after
  | .wordEnd kind => kind.holds before && !kind.holds after
  | .wordStartHalf kind => !kind.holds before
  | .wordEndHalf kind => !kind.holds after

/-- A regular expression. Of several ways to match, a choice prefers its first part, and a
repetition prefers more turns if it is greedy and fewer if it is not. -/
inductive Regex where
  | empty
  | set (s : CharSet)
  | look (l : Look)
  | seq (a b : Regex)
  | choice (a b : Regex)
  /-- From `least` to `most` turns, or any number from `least` on. -/
  | repetition (body : Regex) (greedy : Bool) (least : Nat) (most : Option Nat)
deriving Repr

namespace Regex

/-- Whether an expression can match the empty text. -/
def nullable : Regex → Bool
  | .empty | .look _ => true
  | .set _ => false
  | .seq a b => a.nullable && b.nullable
  | .choice a b => a.nullable || b.nullable
  | .repetition body _ least _ => least == 0 || body.nullable

/-- How many steps a program for an expression has. -/
def size : Regex → Nat
  | .empty => 0
  | .set _ | .look _ => 1
  | .seq a b => a.size + b.size
  | .choice a b => a.size + b.size + 1
  | .repetition body _ least most =>
    match most with
    | some most => body.size * max least most + (most - least)
    | none => body.size * max least 1 + 2

/-- Expressions one after the other. -/
def ofList (rs : List Regex) : Regex := rs.foldr .seq .empty

end Regex

end TableFilter.Pattern
