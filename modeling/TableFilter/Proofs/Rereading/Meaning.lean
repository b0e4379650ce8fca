import TableFilter.Proofs.Literal.Operands

/-!
# What is read back means the same

An expression evaluates as what it reads back as, on all rows and whatever values are known before,
if its literals read back and no negation is at the start of anything but an operation on truth
values. The values that are known afterwards are the same as well.

## Main results

* `Expr.call_congr`: arguments that evaluate alike
* `Expr.KeepsMeaning.eval_eq`: expressions evaluate as what they read back as
-/

namespace TableFilter

namespace Expr

variable {s : Surroundings} {e f : Expr} {es fs : List Expr}

/-! ### Expressions that evaluate alike -/

/-- Expressions that evaluate alike, one by one. -/
abbrev AllAlike (s : Surroundings) : List Expr → List Expr → Prop :=
  List.Forall₂ fun e f => e.eval s = f.eval s

theorem evalAll_congr (h : AllAlike s es fs) : evalAll s es = evalAll s fs := by
  induction h with
  | nil => rfl
  | cons he _ ih => rw [evalAll, evalAll, he, ih]

theorem evalFirst_congr (h : AllAlike s es fs) :
    ∀ last, evalFirst s last es = evalFirst s last fs := by
  induction h with
  | nil => exact fun _ => rfl
  | cons he _ ih => exact fun last => by simp only [evalFirst, he, ih]

theorem evalBranch_congr (h : AllAlike s es fs) : evalBranch s es = evalBranch s fs := by
  match h with
  | .cons test (.cons first (.cons second .nil)) =>
    rw [evalBranch, evalBranch, test, first, second]
  | .nil | .cons _ .nil | .cons _ (.cons _ .nil) | .cons _ (.cons _ (.cons _ (.cons _ _))) =>
    simp only [evalBranch]

theorem holdsAny_congr (h : AllAlike s es fs) (exact : Bool) (probe : Value) :
    holdsAny s exact probe es = holdsAny s exact probe fs := by
  induction h with
  | nil => rfl
  | cons he _ ih => rw [holdsAny, holdsAny, he, ih]

theorem call_congr (f : Builtin) (h : AllAlike s es fs) :
    (call f es).eval s = (call f fs).eval s := by
  unfold eval
  rw [h.length_eq, evalBranch_congr h, evalFirst_congr h, evalAll_congr h]

end Expr

/-! ### Literals -/

/-- A conversion of one literal needs no row. -/
theorem Expr.eval_convert (s : Surroundings) (v w : Value) :
    (call .convert [.literal v, .literal w]).eval s =
      liftM (Builtin.convert.call s.clock [v, w]) := by
  simp only [eval, evalAll]
  rfl

/-- A literal that reads back evaluates as what it reads back as. -/
theorem Value.ReadsBack.eval_eq {v : Value} (h : v.ReadsBack) (s : Surroundings) :
    v.reread.eval s = (Expr.literal v).eval s := by
  have heval := h s.clock
  rw [evalText_literal_eq] at heval
  have hliteral {w : Value} (hread : v.reread = .literal w) :
      v.reread.eval s = (Expr.literal v).eval s := by
    rw [hread] at heval ⊢
    rw [Except.ok.inj heval]
  cases v with
  | double x =>
    cases hfinite : Binary64.isFinite x with
    | true => exact hliteral (if_pos hfinite)
    | false =>
      rw [reread, hfinite, if_neg Bool.false_ne_true] at heval ⊢
      rw [evalFree, Expr.evalOn, Expr.eval_convert] at heval
      rw [Expr.eval_convert]
      generalize Builtin.convert.call s.clock _ = converted at heval ⊢
      have hconverted : converted = .ok (.double x) := heval
      rw [hconverted, Expr.eval]
      rfl
  | _ => exact hliteral rfl

/-! ### Expressions -/

namespace Expr

mutual

/-- An expression evaluates as what it reads back as. -/
theorem KeepsMeaning.eval_eq (s : Surroundings) {e : Expr} :
    e.KeepsMeaning → e.reread.eval s = e.eval s
  | .literal back => back.eval_eq s
  | .column _ => rfl
  | .computed _ _ => rfl
  | .unary _ h => by rw [reread, eval, eval, h.eval_eq s]
  | .binary start ha hb => by rw [reread_binary start, eval, eval, ha.eval_eq s, hb.eval_eq s]
  | .nullTest _ start h => by rw [reread_nullTest start, eval, eval, h.eval_eq s]
  | .inList _ exact start h all => by
    rw [reread_inList start, eval, eval, h.eval_eq s]
    simp only [holdsAny_congr (all.alike s)]
  | .call f all => call_congr f (all.alike s)

theorem AllKeepMeaning.alike (s : Surroundings) {es : List Expr} :
    AllKeepMeaning es → AllAlike s (rereadAll es) es
  | .nil => .nil
  | .cons h all => .cons (h.eval_eq s) (all.alike s)

end

end Expr

end TableFilter
