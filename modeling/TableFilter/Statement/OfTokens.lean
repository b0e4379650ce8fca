import TableFilter.Statement
import TableFilter.Term.OfTokens

/-!
# From tokens to statements

## Main definitions

* `Grammar.orderItems`: columns to sort by
* `Grammar.filterStatement`, `Grammar.statement`: single statements
* `Grammar.statements`: statements with semicolons between them
* `OrderItem.listOfText`, `Statement.listOfText`: whole texts
-/

namespace TableFilter

namespace Grammar

open TokenReader

/-! ### Sorting -/

/-- A direction, ascending where none is written. -/
def ascending : TokenReader Bool := do
  match ← peek with
  | .keyword .asc => do
    advance
    return true
  | .keyword .desc => do
    advance
    return false
  | _ => return true

/-- A column to sort by. -/
def orderItem : TokenReader OrderItem := do
  let exact ← skipIf (.keyword .binary)
  let column ← identifier
  let ascending ← ascending
  return { column, ascending, exact }

/-- Columns to sort by. -/
def orderItems : TokenReader (List OrderItem) := commaSeparated orderItem

/-! ### Statements on a named table -/

/-- Passes over a sign and tells whether it is a minus. -/
def minusSign : TokenReader Bool := do
  if ← skipIf (.symbol .minus) then return true
  else
    let _ ← skipIf (.symbol .plus)
    return false

/-- A number of rows with an optional sign. -/
def rowLimit : TokenReader Int := do
  let negative ← minusSign
  match ← peek with
  | .integer digits => do
    advance
    let text := signedText negative digits
    match (intOfText? text.toList).filter fitsInt32 with
    | some i => return i
    | none => throw (.malformed (.rowLimitOutOfRange text))
  | _ => unexpected .rowLimit

/-- A number of rows, if its keyword comes next. -/
def rowLimit? : TokenReader (Option Int) := do
  if ← skipIf (.keyword .top) then return some (← rowLimit) else return none

/-- The columns to sort by, if their keywords come next. -/
def orderClause : TokenReader (List OrderItem) := do
  if ← skipIf (.keyword .order) then
    expect (.keyword .by_)
    orderItems
  else return []

/-- The number of rows at the end of a statement, which may be given only once. -/
def finalLimit (before : Option Int) : TokenReader (Option Int) := do
  if before.isSome && (← peek) == .keyword .top then throw (.malformed .repeatedRowLimit)
  else return (← rowLimit?) <|> before

/-- A statement on a named table, from its keyword on. -/
def filterStatement : TokenReader FilterStatement := do
  expect (.keyword .filter)
  let before ← rowLimit?
  let table ← identifier
  expect (.keyword .where_)
  let condition ← Term.reader
  let order ← orderClause
  let limit ← finalLimit before
  return { table, limit, condition, order }

/-! ### All statements -/

/-- The identifier of a token that alone makes a statement. -/
def idLiteral? : Token → Option (Result IdLiteral)
  | .guid text => some ((guidLiteral text).map .guid)
  | .measurementKey text => some (.ok (.measurementKey text))
  | .pointTag text => some (.ok (.pointTag text))
  | _ => none

/-- A statement. -/
def statement : TokenReader Statement := do
  let t ← peek
  let second ← peekSecond
  match if second.endsStatement then idLiteral? t else none with
  | some id => do
    advance
    return .identifier (← id)
  | none =>
    if t == .keyword .filter then return .filter (← filterStatement)
    else return .condition (← Term.reader)

/-- A statement, after which there has to be a semicolon or the end. -/
def endedStatement : TokenReader Statement := do
  let s ← statement
  if (← peek).endsStatement then return s else unexpected .statementEnd

/-- Statements up to the end, with a bound on the number of tokens. Empty ones are left out. -/
def statementsTo : Nat → TokenReader (List Statement)
  | 0 => return []
  | n + 1 => do
    match ← peek with
    | .eof => return []
    | .symbol .semicolon => do
      advance
      statementsTo n
    | _ => do
      let s ← endedStatement
      return s :: (← statementsTo n)

/-- Statements up to the end. -/
def statements : TokenReader (List Statement) := fun ts => statementsTo (ts.length + 1) ts

end Grammar

/-! ### Whole texts -/

/-- A text of statements. -/
def Statement.listOfText (text : String) : Result (List Statement) := do
  let tokens ← Token.listOfText text
  Grammar.statements.run' tokens

/-- A text of columns to sort by. -/
def OrderItem.listOfText (text : String) : Result (List OrderItem) := do
  let tokens ← Token.listOfText text
  (TokenReader.toEnd Grammar.orderItems).run' tokens

end TableFilter
