import TableFilter.Text.Case
import TableFilter.Text.Search

/-!
# Patterns with wildcards at their ends

A wildcard at the start of a pattern, at its end, or at both, stands for any text. Elsewhere it
stands for itself.

## Main definitions

* `LikePattern.ofText`: the parts of a pattern
* `LikePattern.accepts`: whether a text is of the pattern's form
* `isLike`: the test on texts, in any case unless it is exact
-/

namespace TableFilter

open TableFilter.Text

/-- Whether a character is a wildcard. -/
def isWildcard (c : Char) : Bool := c == '%' || c == '*'

/-- A text that has to occur, and whether other text may come before and after it. -/
structure LikePattern where
  openStart : Bool
  core : List Char
  openEnd : Bool
deriving DecidableEq

namespace LikePattern

/-- The parts of a pattern. A wildcard at the end is looked for in what is left after the one at
the start. -/
def ofText (pattern : List Char) : LikePattern :=
  let openStart := pattern.head?.any isWildcard
  let rest := if openStart then pattern.tail else pattern
  let openEnd := rest.getLast?.any isWildcard
  { openStart, core := if openEnd then rest.dropLast else rest, openEnd }

/-- Whether a text is of the pattern's form. -/
def accepts (p : LikePattern) (text : List Char) : Bool :=
  match p.openStart, p.openEnd with
  | true, true => contains (· == ·) p.core text
  | true, false => endsWith (· == ·) p.core text
  | false, true => startsWith (· == ·) p.core text
  | false, false => text == p.core

end LikePattern

/-- Whether a text is of the form that a pattern gives. Unless the test is exact, both are taken in
their upper form. -/
def isLike (exact : Bool) (text pattern : String) : Bool :=
  if exact then (LikePattern.ofText pattern.toList).accepts text.toList
  else (LikePattern.ofText (upper pattern.toList)).accepts (upper text.toList)

end TableFilter
