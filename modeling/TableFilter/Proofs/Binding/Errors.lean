import TableFilter.Binding
import TableFilter.Proofs.Maintenance

/-!
# With which errors binding fails

A term fails to bind because a function in it is given too few or too many arguments, or because
looking up a column in it fails. Looking up a column fails because there is none of that name,
because the formulas of other columns led to it, or because its own formula cannot be read or bound.
So to tell the errors of binding it suffices to tell those of these occasions.

## Main definitions

* `Term.PartOf`: a term is part of another

## Main results

* `Term.bindWith_failsOnly`: the errors of a term
* `Table.definitionOf_failsOnly`, `Table.lookUpBy_failsOnly`: the errors of a column
-/

namespace TableFilter

/-! ### Terms -/

/-- A term is part of another: it is that one, or part of an operand, an item or an argument. -/
inductive Term.PartOf : Term → Term → Prop
  | refl (a : Term) : PartOf a a
  | operand {part a : Term} {op : UnaryOperator} : PartOf part a → PartOf part (.unary op a)
  | left {part a b : Term} {op : BinaryOperator} : PartOf part a → PartOf part (.binary op a b)
  | right {part a b : Term} {op : BinaryOperator} : PartOf part b → PartOf part (.binary op a b)
  | tested {part a : Term} {negated : Bool} : PartOf part a → PartOf part (.nullTest negated a)
  | probe {part a : Term} {negated exact : Bool} {items : List Term} : PartOf part a →
      PartOf part (.inList negated exact a items)
  | item {part a b : Term} {negated exact : Bool} {items : List Term} : b ∈ items → PartOf part b →
      PartOf part (.inList negated exact a items)
  | argument {part a : Term} {f : Builtin} {args : List Term} : a ∈ args → PartOf part a →
      PartOf part (.call f args)

namespace Term

variable {kind : Error → Prop} {lookUp : String → Binding BoundColumn}

mutual

/-- A term fails with an error of a kind, if its calls and its columns do. -/
theorem bindWith_failsOnly : ∀ a : Term,
    (∀ f args, PartOf (.call f args) a → ∀ e, f.checkCount args.length = .error e → kind e) →
    (∀ name, PartOf (.column name) a → FailsOnly (lookUp name) kind) →
    FailsOnly (a.bindWith lookUp) kind
  | .literal _, _, _ => .pure _
  | .column name, _, names => (names name (.refl _)).bind fun _ => .pure _
  | .unary _ a, calls, names => by
    have operand := bindWith_failsOnly a (fun f args h => calls f args (.operand h))
      fun name h => names name (.operand h)
    exact operand.bind fun _ => .pure _
  | .binary _ a b, calls, names => by
    have left := bindWith_failsOnly a (fun f args h => calls f args (.left h))
      fun name h => names name (.left h)
    have right := bindWith_failsOnly b (fun f args h => calls f args (.right h))
      fun name h => names name (.right h)
    exact left.bind fun _ => right.bind fun _ => .pure _
  | .nullTest _ a, calls, names => by
    have operand := bindWith_failsOnly a (fun f args h => calls f args (.tested h))
      fun name h => names name (.tested h)
    exact operand.bind fun _ => .pure _
  | .inList _ _ a items, calls, names => by
    have probe := bindWith_failsOnly a (fun f args h => calls f args (.probe h))
      fun name h => names name (.probe h)
    have further := bindAllWith_failsOnly items (fun b hb f args h => calls f args (.item hb h))
      fun b hb name h => names name (.item hb h)
    exact probe.bind fun _ => further.bind fun _ => .pure _
  | .call f args, calls, names => by
    have further := bindAllWith_failsOnly args (fun b hb g gs h => calls g gs (.argument hb h))
      fun b hb name h => names name (.argument hb h)
    exact (FailsOnly.lift (calls f args (.refl _))).bind fun _ => further.bind fun _ => .pure _

theorem bindAllWith_failsOnly : ∀ as : List Term,
    (∀ a ∈ as, ∀ f args, PartOf (.call f args) a →
      ∀ e, f.checkCount args.length = .error e → kind e) →
    (∀ a ∈ as, ∀ name, PartOf (.column name) a → FailsOnly (lookUp name) kind) →
    FailsOnly (bindAllWith lookUp as) kind
  | [], _, _ => .pure _
  | a :: as, calls, names => by
    obtain ⟨callsFirst, callsRest⟩ := List.forall_mem_cons.1 calls
    obtain ⟨namesFirst, namesRest⟩ := List.forall_mem_cons.1 names
    have first := bindWith_failsOnly a callsFirst namesFirst
    have further := bindAllWith_failsOnly as callsRest namesRest
    exact first.bind fun _ => further.bind fun _ => .pure _

end

end Term

/-! ### Columns -/

theorem remember_failsOnly (kind : Error → Prop) (k : Nat) (e : Expr) :
    FailsOnly (remember k e) kind := by
  refine .get_bind fun bound => ?_
  cases bound.lookup k with
  | some known => exact .pure known
  | none => exact (FailsOnly.modify _).bind fun _ => .pure e

namespace Table

variable {t : Table} {resolving : List Nat} {kind : Error → Prop}

/-- A computed column fails with an error of a kind, if it does where it is followed already, where
its formula cannot be read, and where its formula fails to bind. -/
theorem definitionOf_failsOnly {k : Nat} {c : Column} {formula : String}
    {lookUp : String → Binding BoundColumn}
    (refused : k ∈ resolving → kind (.resolution (.selfReference c.name t.name)))
    (unreadable : ∀ e, Term.ofText formula = .error e → kind e)
    (h : k ∉ resolving → ∀ a, Term.ofText formula = .ok a → FailsOnly (a.bindWith lookUp) kind) :
    FailsOnly (t.definitionOf resolving k c formula lookUp) kind := by
  refine .get_bind fun bound => ?_
  cases bound.lookup k with
  | some known => exact .pure known
  | none =>
    dsimp only
    split
    · next hmem => exact .throw (refused (by simpa using hmem))
    · next hnew =>
      cases hread : Term.ofText formula with
      | error e => exact .throw (unreadable e hread)
      | ok a => exact (h (by simpa using hnew) a hread).bind (remember_failsOnly kind k)

/-- A name fails with an error of a kind, if it does where there is no column of that name, and
where the column is computed. -/
theorem lookUpBy_failsOnly {inner : Nat → Column → String → Binding BoundColumn} {name : String}
    (unknown : t.columnIndex? name = none → kind (.resolution (.unknownColumn name t.name)))
    (h : ∀ k c formula, t.columnIndex? name = some k → t.columns[k]? = some c →
      c.formula = some formula →
      FailsOnly (t.definitionOf resolving k c formula (inner k c)) kind) :
    FailsOnly (t.lookUpBy resolving inner name) kind := by
  unfold lookUpBy
  split
  · next hk => exact .throw (unknown hk)
  · next k hk =>
    split
    · next hc =>
      -- The place of a column is one of the table.
      have hlength : k < t.columns.length := (List.findIdx?_eq_some_iff_findIdx_eq.1 hk).1
      exact absurd (List.getElem?_eq_none_iff.1 hc) (by omega)
    · next c hc =>
      split
      · exact .pure _
      · next formula hf => exact (h k c formula hk hc hf).bind fun _ => .pure _

end Table

end TableFilter
