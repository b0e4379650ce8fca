import TableFilter.Literal
import TableFilter.Term
import TableFilter.Token.Scan

/-!
# From tokens to terms

Operators bind in levels. From the loosest to the tightest these are disjunction, conjunction,
negation, predicates, operations on bits, sums, products, and signs. Operators of one level group to
the left.

Each level is a reader built from the reader of the next tighter level, and the tightest from the
reader of nested terms. Nesting is bounded by the number of tokens.

## Main definitions

* `TokenReader`: what reads the start of a list of tokens
* `Grammar.chain`: operands of one level with operators between them
* `Grammar.disjunction`, `conjunction`, `negation`, `predicate`, `bitOperation`, `sum`, `product`,
  `signed`, `primary`: the levels
* `Term.reader`: terms
* `Term.ofText`: a text that is one term
-/

namespace TableFilter

/-- Reads the start of a list of tokens and leaves the rest. -/
abbrev TokenReader (α : Type) := StateT (List Token) Result α

namespace TokenReader

/-- The next token, left in its place. After the last token there is the end. -/
def peek : TokenReader Token := do return ((← get).head?).getD .eof

/-- The token after the next one. -/
def peekSecond : TokenReader Token := do return ((← get)[1]?).getD .eof

/-- Passes over the next token. -/
def advance : TokenReader Unit := modify List.tail

/-- Fails because of the next token. -/
def unexpected {α : Type} (expected : Expected) : TokenReader α := do
  throw (.malformed (.unexpectedToken expected (← peek)))

/-- Passes over the next token if it is the given one, and tells whether it was. -/
def skipIf (t : Token) : TokenReader Bool := do
  let found := (← peek) == t
  if found then advance
  return found

/-- Passes over the given token, which has to come next. -/
def expect (t : Token) : TokenReader Unit := do
  if (← peek) == t then advance else unexpected (.token t)

/-- Passes over a name, which has to come next. -/
def identifier : TokenReader String := do
  match ← peek with
  | .identifier name => do
    advance
    return name
  | _ => unexpected .identifier

/-- What one reader reads, which has to be everything. -/
def toEnd {α : Type} (reader : TokenReader α) : TokenReader α := do
  let a ← reader
  if (← peek) == .eof then return a else unexpected (.token .eof)

/-- Items with commas between them, given those before and a bound on their number. -/
def commaSeparatedFrom {α : Type} (item : TokenReader α) : Nat → TokenReader (List α)
  | 0 => return []
  | n + 1 => do
    if ← skipIf (.symbol .comma) then
      let a ← item
      return a :: (← commaSeparatedFrom item n)
    else return []

/-- One item or several with commas between them. -/
def commaSeparated {α : Type} (item : TokenReader α) : TokenReader (List α) := do
  let a ← item
  return a :: (← commaSeparatedFrom item (← get).length)

end TokenReader

namespace Grammar

open TokenReader

/-! ### Chains of operators -/

/-- Further operators and operands after a term, with a bound on their number. -/
def chainFrom (operator? : Token → Option BinaryOperator) (operand : TokenReader Term) :
    Nat → Term → TokenReader Term
  | 0, left => return left
  | n + 1, left => do
    match operator? (← peek) with
    | none => return left
    | some op => do
      advance
      let right ← operand
      chainFrom operator? operand n (.binary op left right)

/-- Operands with operators of one level between them, grouped to the left. -/
def chain (operator? : Token → Option BinaryOperator) (operand : TokenReader Term) :
    TokenReader Term := do
  let first ← operand
  chainFrom operator? operand (← get).length first

/-- The operator of disjunction. -/
def disjunctionOperator? : Token → Option BinaryOperator
  | .keyword .or | .symbol .orOr => some (.logical .or)
  | _ => none

/-- The operator of conjunction. -/
def conjunctionOperator? : Token → Option BinaryOperator
  | .keyword .and | .symbol .andAnd => some (.logical .and)
  | _ => none

/-- The comparison that a token stands for. -/
def comparison? : Token → Option Comparison
  | .symbol .less => some .less
  | .symbol .lessEqual => some .lessOrEqual
  | .symbol .greater => some .greater
  | .symbol .greaterEqual => some .greaterOrEqual
  | .symbol .equal => some (.equal false)
  | .symbol .exactEqual => some (.equal true)
  | .symbol .notEqual => some (.notEqual false)
  | .symbol .exactNotEqual => some (.notEqual true)
  | _ => none

/-- The operators on bits. -/
def bitOperator? : Token → Option BinaryOperator
  | .symbol .shiftLeft => some (.shift .left)
  | .symbol .shiftRight => some (.shift .right)
  | .symbol .ampersand => some (.integer .and)
  | .symbol .pipe => some (.integer .or)
  | .symbol .caret | .keyword .xor => some (.integer .xor)
  | _ => none

/-- The operators of sums. -/
def sumOperator? : Token → Option BinaryOperator
  | .symbol .plus => some (.arithmetic .add)
  | .symbol .minus => some (.arithmetic .subtract)
  | _ => none

/-- The operators of products. -/
def productOperator? : Token → Option BinaryOperator
  | .symbol .star => some (.arithmetic .multiply)
  | .symbol .slash => some (.arithmetic .divide)
  | .symbol .percent => some (.integer .remainder)
  | _ => none

/-! ### The tightest level -/

/-- The value of a number token, `none` for other tokens. -/
def numberValue? (negative : Bool) : Token → Option (Result Value)
  | .integer digits => some (integerLiteral digits negative)
  | .hex digits => some (hexLiteral digits negative)
  | .real text => some (.ok (realLiteral text negative))
  | _ => none

/-- The value of a literal token, `none` for other tokens. -/
def literalValue? (t : Token) : Option (Result Value) :=
  match t with
  | .string s | .measurementKey s | .pointTag s => some (.ok (.string s))
  | .dateTime text => some (dateTimeLiteral text)
  | .guid text => some ((guidLiteral text).map .guid)
  | .keyword .true_ => some (.ok (.boolean true))
  | .keyword .false_ => some (.ok (.boolean false))
  | .keyword .null => some (.ok (.null .undefined))
  | _ => numberValue? false t

/-- The arguments of a function, from the opening parenthesis on. -/
def arguments (nested : TokenReader Term) : TokenReader (List Term) := do
  expect (.symbol .leftParen)
  let args ←
    if (← peek) == .symbol .rightParen then pure [] else commaSeparated nested
  expect (.symbol .rightParen)
  return args

/-- A name: of a function if a parenthesis follows, else of a column. -/
def named (nested : TokenReader Term) (name : String) : TokenReader Term := do
  if (← peek) == .symbol .leftParen then
    match Builtin.ofName? name with
    | some f => return .call f (← arguments nested)
    | none => throw (.malformed (.unknownFunction name))
  else return .column name

/-- A literal, a name, or a term in parentheses. -/
def primary (nested : TokenReader Term) : TokenReader Term := do
  let t ← peek
  match literalValue? t with
  | some value => do
    let v ← value
    advance
    return .literal v
  | none =>
    match t with
    | .identifier name => do
      advance
      named nested name
    | .symbol .leftParen => do
      advance
      let term ← nested
      expect (.symbol .rightParen)
      return term
    | _ => unexpected .expression

/-- The operator of a token that stands before its operand. -/
def prefixOperator? : Token → Option UnaryOperator
  | .symbol .plus => some .plus
  | .symbol .minus => some .minus
  | .symbol .tilde | .symbol .bang | .keyword .not => some .not
  | _ => none

/-- A term with any number of signs and negations before it. A minus sign directly before a number
belongs to the number. -/
def signed (primary : TokenReader Term) : TokenReader Term
  | [] => primary []
  | t :: ts =>
    match prefixOperator? t with
    | none => primary (t :: ts)
    | some op =>
      let number := if op == .minus then (ts.head?).bind (numberValue? true) else none
      match number with
      | some value => do .ok (.literal (← value), ts.tail)
      | none => do
        let (operand, rest) ← signed primary ts
        .ok (.unary op operand, rest)

/-! ### The other levels -/

/-- Products, quotients and remainders. -/
def product (nested : TokenReader Term) : TokenReader Term :=
  chain productOperator? (signed (primary nested))

/-- Sums and differences. -/
def sum (nested : TokenReader Term) : TokenReader Term := chain sumOperator? (product nested)

/-- Shifts and operations on bits. -/
def bitOperation (nested : TokenReader Term) : TokenReader Term :=
  chain bitOperator? (sum nested)

/-- Passes over a mark that makes letters of different case differ, and tells whether it was
there. -/
def exactMark : TokenReader Bool := do
  if ← skipIf (.keyword .binary) then return true else skipIf (.symbol .exactEqual)

/-- The list of a membership test, after its keyword. -/
def membership (nested : TokenReader Term) (probe : Term) (negated : Bool) :
    TokenReader Term := do
  let exact ← exactMark
  expect (.symbol .leftParen)
  let items ← commaSeparated nested
  expect (.symbol .rightParen)
  return .inList negated exact probe items

/-- The pattern of a test for likeness, after its keyword. -/
def likeness (nested : TokenReader Term) (text : Term) (negated : Bool) : TokenReader Term := do
  let exact ← exactMark
  let pattern ← bitOperation nested
  return .binary (.like negated exact) text pattern

/-- What a predicate says about the term before it. -/
inductive PredicateStart where
  | null
  | membership (negated : Bool)
  | likeness (negated : Bool)
  | comparison (op : Comparison)

/-- The predicate that starts with two tokens, and the number of tokens that name it. -/
def predicateStart? (t second : Token) : Option (PredicateStart × Nat) :=
  match t with
  | .keyword .is => some (.null, 1)
  | .keyword .in_ => some (.membership false, 1)
  | .keyword .like => some (.likeness false, 1)
  | .keyword .not =>
    match second with
    | .keyword .in_ => some (.membership true, 2)
    | .keyword .like => some (.likeness true, 2)
    | _ => none
  | _ => (comparison? t).map fun op => (.comparison op, 1)

/-- The rest of a predicate on a term. -/
def predicateRest (nested : TokenReader Term) (left : Term) :
    PredicateStart → TokenReader Term
  | .null => do
    let negated ← skipIf (.keyword .not)
    expect (.keyword .null)
    return .nullTest negated left
  | .membership negated => membership nested left negated
  | .likeness negated => likeness nested left negated
  | .comparison op => do
    let right ← bitOperation nested
    return .binary (.comparison op) left right

/-- Further predicates on a term, with a bound on their number. -/
def predicateFrom (nested : TokenReader Term) : Nat → Term → TokenReader Term
  | 0, left => return left
  | n + 1, left => do
    match predicateStart? (← peek) (← peekSecond) with
    | none => return left
    | some (start, count) => do
      modify (List.drop count)
      let term ← predicateRest nested left start
      predicateFrom nested n term

/-- A term with any number of predicates after it. -/
def predicate (nested : TokenReader Term) : TokenReader Term := do
  let left ← bitOperation nested
  predicateFrom nested (← get).length left

/-- Whether a token is a negation of a predicate. -/
def isNegation (t : Token) : Bool := t == .keyword .not || t == .symbol .bang

/-- A predicate with any number of negations before it. -/
def negation (predicate : TokenReader Term) : TokenReader Term
  | [] => predicate []
  | t :: ts =>
    if isNegation t then do
      let (operand, rest) ← negation predicate ts
      .ok (.unary .not operand, rest)
    else predicate (t :: ts)

/-- Terms joined by conjunction. -/
def conjunction (nested : TokenReader Term) : TokenReader Term :=
  chain conjunctionOperator? (negation (predicate nested))

/-- Terms joined by disjunction. -/
def disjunction (nested : TokenReader Term) : TokenReader Term :=
  chain disjunctionOperator? (conjunction nested)

end Grammar

/-! ### Terms -/

namespace Term

/-- A term nested at most so deep. -/
def readerTo : Nat → TokenReader Term
  | 0 => TokenReader.unexpected .expression
  | depth + 1 => Grammar.disjunction (readerTo depth)

/-- A term. No term is nested deeper than it has tokens. -/
def reader : TokenReader Term := fun ts => readerTo (ts.length + 1) ts

/-- A text that is one term. -/
def ofText (text : String) : Result Term := do
  let tokens ← Token.listOfText text
  reader.toEnd.run' tokens

end Term

end TableFilter
