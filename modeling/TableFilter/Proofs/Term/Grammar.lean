import TableFilter.Term.OfTokens

/-!
# The grammar of terms

Which lists of tokens are terms, said without reading them. Each level of binding is a set of lists:
the tokens of a looser level are those of the next tighter one with operators between them. A rule
that repeats an operator has its own level on the left, so that all repetitions group to the left.

Two tokens could be read at more than one level, and the rules say at which they are. A negation
that leads a term of the negation level belongs to that level and not to the operand of a sign. A
minus sign directly before a number belongs to the number.

## Main definitions

* `Level`: the levels of binding
* `Joins`, `Compares`, `Negates`, `Signs`: what single tokens mean as operators
* `NumberValue`, `LiteralValue`: the tokens that are literals, with their values
* `Derives`, `DerivesAll`: the terms of a level, and terms with commas between them
-/

namespace TableFilter.Grammar

/-- The levels of binding, from the loosest to the tightest. -/
inductive Level where
  | disjunction | conjunction | negation | predicate | bits | sum | product | signed
deriving DecidableEq, Repr

/-! ### Tokens as operators -/

/-- The levels that consist of operands with operators between them, with the level of the
operands. -/
inductive Chain : Level → Level → Prop
  | disjunction : Chain .disjunction .conjunction
  | conjunction : Chain .conjunction .negation
  | bits : Chain .bits .sum
  | sum : Chain .sum .product
  | product : Chain .product .signed

/-- The tokens that join two operands at a level, with the operator each stands for. -/
inductive Joins : Level → Token → BinaryOperator → Prop
  | or : Joins .disjunction (.keyword .or) (.logical .or)
  | orOr : Joins .disjunction (.symbol .orOr) (.logical .or)
  | and : Joins .conjunction (.keyword .and) (.logical .and)
  | andAnd : Joins .conjunction (.symbol .andAnd) (.logical .and)
  | shiftLeft : Joins .bits (.symbol .shiftLeft) (.shift .left)
  | shiftRight : Joins .bits (.symbol .shiftRight) (.shift .right)
  | ampersand : Joins .bits (.symbol .ampersand) (.integer .and)
  | pipe : Joins .bits (.symbol .pipe) (.integer .or)
  | caret : Joins .bits (.symbol .caret) (.integer .xor)
  | xor : Joins .bits (.keyword .xor) (.integer .xor)
  | plus : Joins .sum (.symbol .plus) (.arithmetic .add)
  | minus : Joins .sum (.symbol .minus) (.arithmetic .subtract)
  | star : Joins .product (.symbol .star) (.arithmetic .multiply)
  | slash : Joins .product (.symbol .slash) (.arithmetic .divide)
  | percent : Joins .product (.symbol .percent) (.integer .remainder)

/-- The tokens that compare two operands. -/
inductive Compares : Token → Comparison → Prop
  | less : Compares (.symbol .less) .less
  | lessEqual : Compares (.symbol .lessEqual) .lessOrEqual
  | greater : Compares (.symbol .greater) .greater
  | greaterEqual : Compares (.symbol .greaterEqual) .greaterOrEqual
  | equal : Compares (.symbol .equal) (.equal false)
  | exactEqual : Compares (.symbol .exactEqual) (.equal true)
  | notEqual : Compares (.symbol .notEqual) (.notEqual false)
  | exactNotEqual : Compares (.symbol .exactNotEqual) (.notEqual true)

/-- The tokens that negate a predicate. -/
inductive Negates : Token → Prop
  | not : Negates (.keyword .not)
  | bang : Negates (.symbol .bang)

/-- The tokens that stand before an operand, with the operator each stands for. -/
inductive Signs : Token → UnaryOperator → Prop
  | plus : Signs (.symbol .plus) .plus
  | minus : Signs (.symbol .minus) .minus
  | tilde : Signs (.symbol .tilde) .not
  | bang : Signs (.symbol .bang) .not
  | not : Signs (.keyword .not) .not

/-- The marks that make letters of different case differ, or none. -/
inductive ExactMark : List Token → Bool → Prop
  | none : ExactMark [] false
  | binary : ExactMark [.keyword .binary] true
  | exactEqual : ExactMark [.symbol .exactEqual] true

/-- The word before the name of a negated predicate. -/
def notTokens (negated : Bool) : List Token := if negated then [.keyword .not] else []

/-! ### Tokens as literals -/

/-- The tokens that are numbers. -/
inductive IsNumber : Token → Prop
  | integer (digits : String) : IsNumber (.integer digits)
  | hex (digits : String) : IsNumber (.hex digits)
  | real (text : String) : IsNumber (.real text)

/-- The value of a token that is a number, after a minus sign or not. -/
inductive NumberValue (negative : Bool) : Token → Value → Prop
  | integer {digits : String} {v : Value} (h : integerLiteral digits negative = .ok v) :
      NumberValue negative (.integer digits) v
  | hex {digits : String} {v : Value} (h : hexLiteral digits negative = .ok v) :
      NumberValue negative (.hex digits) v
  | real (text : String) : NumberValue negative (.real text) (realLiteral text negative)

/-- The value of a token that is a literal. -/
inductive LiteralValue : Token → Value → Prop
  | number {t : Token} {v : Value} (h : NumberValue false t v) : LiteralValue t v
  | string (s : String) : LiteralValue (.string s) (.string s)
  | measurementKey (s : String) : LiteralValue (.measurementKey s) (.string s)
  | pointTag (s : String) : LiteralValue (.pointTag s) (.string s)
  | dateTime {text : String} {v : Value} (h : dateTimeLiteral text = .ok v) :
      LiteralValue (.dateTime text) v
  | guid {text : String} {g : Guid} (h : guidLiteral text = .ok g) :
      LiteralValue (.guid text) (.guid g)
  | true_ : LiteralValue (.keyword .true_) (.boolean true)
  | false_ : LiteralValue (.keyword .false_) (.boolean false)
  | null : LiteralValue (.keyword .null) (.null .undefined)

/-! ### Terms -/

mutual

/-- The tokens of the terms of a level. -/
inductive Derives : Level → List Token → Term → Prop
  | operand {level tighter : Level} {ts : List Token} {e : Term} (chain : Chain level tighter)
      (h : Derives tighter ts e) : Derives level ts e
  | join {level tighter : Level} {l r : List Token} {t : Token} {op : BinaryOperator}
      {a b : Term} (chain : Chain level tighter) (joins : Joins level t op)
      (left : Derives level l a) (right : Derives tighter r b) :
      Derives level (l ++ t :: r) (.binary op a b)
  | negated {t : Token} {ts : List Token} {e : Term} (negates : Negates t)
      (h : Derives .negation ts e) : Derives .negation (t :: ts) (.unary .not e)
  | positive {ts : List Token} {e : Term} (head : ∀ t, ts.head? = some t → ¬ Negates t)
      (h : Derives .predicate ts e) : Derives .negation ts e
  | subject {ts : List Token} {e : Term} (h : Derives .bits ts e) : Derives .predicate ts e
  | nullTest (negated : Bool) {ts : List Token} {e : Term} (h : Derives .predicate ts e) :
      Derives .predicate (ts ++ .keyword .is :: (notTokens negated ++ [.keyword .null]))
        (.nullTest negated e)
  | membership (negated : Bool) {exact : Bool} {mark ts items : List Token} {e : Term}
      {es : List Term} (exactly : ExactMark mark exact) (h : Derives .predicate ts e)
      (all : DerivesAll items es) :
      Derives .predicate
        (ts ++ (notTokens negated ++ .keyword .in_ ::
          (mark ++ .symbol .leftParen :: (items ++ [.symbol .rightParen]))))
        (.inList negated exact e es)
  | likeness (negated : Bool) {exact : Bool} {mark l r : List Token} {a b : Term}
      (exactly : ExactMark mark exact) (left : Derives .predicate l a)
      (right : Derives .bits r b) :
      Derives .predicate (l ++ (notTokens negated ++ .keyword .like :: (mark ++ r)))
        (.binary (.like negated exact) a b)
  | comparison {l r : List Token} {t : Token} {op : Comparison} {a b : Term}
      (compares : Compares t op) (left : Derives .predicate l a) (right : Derives .bits r b) :
      Derives .predicate (l ++ t :: r) (.binary (.comparison op) a b)
  | sign {t : Token} {op : UnaryOperator} {ts : List Token} {e : Term} (signs : Signs t op)
      (number : op = .minus → ∀ u, ts.head? = some u → ¬ IsNumber u)
      (h : Derives .signed ts e) : Derives .signed (t :: ts) (.unary op e)
  | negativeNumber {t : Token} {v : Value} (value : NumberValue true t v) :
      Derives .signed [.symbol .minus, t] (.literal v)
  | literal {t : Token} {v : Value} (value : LiteralValue t v) : Derives .signed [t] (.literal v)
  | column (name : String) : Derives .signed [.identifier name] (.column name)
  | callNone {name : String} {f : Builtin} (known : Builtin.ofName? name = some f) :
      Derives .signed [.identifier name, .symbol .leftParen, .symbol .rightParen] (.call f [])
  | call {name : String} {f : Builtin} {args : List Token} {es : List Term}
      (known : Builtin.ofName? name = some f) (all : DerivesAll args es) :
      Derives .signed
        (.identifier name :: .symbol .leftParen :: (args ++ [.symbol .rightParen])) (.call f es)
  | parentheses {ts : List Token} {e : Term} (h : Derives .disjunction ts e) :
      Derives .signed (.symbol .leftParen :: (ts ++ [.symbol .rightParen])) e

/-- The tokens of terms with commas between them. -/
inductive DerivesAll : List Token → List Term → Prop
  | one {ts : List Token} {e : Term} (h : Derives .disjunction ts e) : DerivesAll ts [e]
  | cons {ts rest : List Token} {e : Term} {es : List Term} (h : Derives .disjunction ts e)
      (all : DerivesAll rest es) : DerivesAll (ts ++ .symbol .comma :: rest) (e :: es)

end

end TableFilter.Grammar
