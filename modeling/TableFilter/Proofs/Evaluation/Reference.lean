import TableFilter.Evaluation

/-!
# Evaluation without keeping values

The value of an expression where nothing is kept from one column to the next: each time a computed
column is read, its expression is evaluated again and the value converted to the type of the column.

## Main definitions

* `Expr.value`: the value of an expression
* `Expr.valueAll`, `Expr.valueFirst`, `Expr.valueBranch`, `Expr.holdsAnyValue`: the same for the
  ways in which a list of expressions is used
-/

namespace TableFilter.Expr

mutual

/-- The value of an expression, computed columns being evaluated each time they are read. -/
def value (s : Surroundings) : Expr → Result Value
  | .literal v => .ok v
  | .column c => s.read c
  | .computed c definition => do (← definition.value s).convert c.type
  | .unary op e => do op.apply (← e.value s)
  | .binary op a b => do
    let v ← a.value s
    let w ← b.value s
    op.apply v w
  | .unfinished op a => do
    let _ ← a.value s
    .error (.evaluation (.missingOperand op))
  | .nullTest negated e => do .ok (testNull negated (← e.value s))
  | .inList negated exact e es => do
    let probe ← e.value s
    if probe.isNull then .ok (.null .boolean)
    else .ok (.boolean ((← holdsAnyValue s exact probe es) != negated))
  | .call f es => do
    f.checkCount es.length
    match f with
    | .iif => valueBranch s es
    | .coalesce => valueFirst s (.null .undefined) es
    | _ => f.call s.clock (← valueAll s es)

/-- The values of expressions. -/
def valueAll (s : Surroundings) : List Expr → Result (List Value)
  | [] => .ok []
  | e :: es => do
    let v ← e.value s
    .ok (v :: (← valueAll s es))

/-- The first value that is no null, or else the last, given the one before. -/
def valueFirst (s : Surroundings) (last : Value) : List Expr → Result Value
  | [] => .ok last
  | e :: es => do
    let v ← e.value s
    if v.isNull then valueFirst s v es else .ok v

/-- The value of the branch that a test takes. -/
def valueBranch (s : Surroundings) : List Expr → Result Value
  | [test, first, second] => do
    if ← Builtin.iifTest (← test.value s) then first.value s else second.value s
  | _ => .ok (.null .undefined)

/-- Whether a value equals that of an expression in a list, looked at from left to right. -/
def holdsAnyValue (s : Surroundings) (exact : Bool) (probe : Value) : List Expr → Result Bool
  | [] => .ok false
  | e :: es => do
    let v ← e.value s
    if (← probe.compare exact v) == some .eq then .ok true else holdsAnyValue s exact probe es

end

end TableFilter.Expr
