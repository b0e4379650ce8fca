import TableFilter.Builtin.Call
import TableFilter.Catalog
import TableFilter.Operation

/-!
# Evaluation

An expression is evaluated on a row, or on none. The value of a computed column is kept for the row
once it is known.

## Main definitions

* `Surroundings`: the row and the present time
* `Evaluation`: what evaluates, keeping known values even if it fails
* `Expr.eval`: the value of an expression
* `Expr.evalOn`: the same with no values known before
-/

namespace TableFilter

/-- What an evaluation can look at. -/
structure Surroundings where
  clock : Clock
  row : Option Row

/-- Known values of computed columns, by place. -/
abbrev KnownValues := List (Nat × Value)

/-- What can fail and keeps values of computed columns. -/
abbrev Evaluation := ExceptT Error (StateM KnownValues)

namespace Surroundings

/-- The value of a stored column. -/
def read (s : Surroundings) (c : ColumnHead) : Result Value :=
  match s.row with
  | some row => row.value c.index
  | none => .error (.evaluation (.columnWithoutRow c.name))

end Surroundings

namespace Expr

mutual

/-- The value of an expression. Arguments are evaluated from left to right, and for a choice
between arguments only as far as it needs them. -/
def eval (s : Surroundings) : Expr → Evaluation Value
  | .literal v => return v
  | .column c => liftM (s.read c)
  | .computed c definition => do
    match (← get).lookup c.index with
    | some known => return known
    | none => do
      let v ← definition.eval s
      let v ← v.convert c.type
      modify ((c.index, v) :: ·)
      return v
  | .unary op e => do op.apply (← e.eval s)
  | .binary op a b => do
    let v ← a.eval s
    let w ← b.eval s
    op.apply v w
  | .unfinished op a => do
    let _ ← a.eval s
    throw (.evaluation (.missingOperand op))
  | .nullTest negated e => do return testNull negated (← e.eval s)
  | .inList negated exact e es => do
    let probe ← e.eval s
    if probe.isNull then return .null .boolean
    else return .boolean ((← holdsAny s exact probe es) != negated)
  | .call f es => do
    f.checkCount es.length
    match f with
    | .iif => evalBranch s es
    | .coalesce => evalFirst s (.null .undefined) es
    | _ => do f.call s.clock (← evalAll s es)

/-- The values of expressions. -/
def evalAll (s : Surroundings) : List Expr → Evaluation (List Value)
  | [] => return []
  | e :: es => do
    let v ← e.eval s
    return v :: (← evalAll s es)

/-- The first value that is no null, or else the last, given the one before. -/
def evalFirst (s : Surroundings) (last : Value) : List Expr → Evaluation Value
  | [] => return last
  | e :: es => do
    let v ← e.eval s
    if v.isNull then evalFirst s v es else return v

/-- The value of the branch that a test takes. -/
def evalBranch (s : Surroundings) : List Expr → Evaluation Value
  | [test, first, second] => do
    if ← Builtin.iifTest (← test.eval s) then first.eval s else second.eval s
  | _ => return .null .undefined

/-- Whether a value equals that of an expression in a list, looked at from left to right. -/
def holdsAny (s : Surroundings) (exact : Bool) (probe : Value) : List Expr → Evaluation Bool
  | [] => return false
  | e :: es => do
    let v ← e.eval s
    if (← probe.compare exact v) == some .eq then return true else holdsAny s exact probe es

end

/-- The value of an expression with no values of computed columns known before. -/
def evalOn (s : Surroundings) (e : Expr) : Result Value := ((e.eval s).run []).1

end Expr

/-- The value of a text without columns. -/
def evalFree (clock : Clock) (e : Expr) : Result Value := e.evalOn ⟨clock, none⟩

end TableFilter
