/-!
# Powers and word sizes

## Main definitions

* `twoTo`, `tenTo`: powers of two and of ten
* `word32`, `word64`: how many words of 32 and of 64 bits there are
-/

namespace TableFilter.Number

/-- A power of two. -/
def twoTo (k : Nat) : Nat := Nat.pow 2 k

/-- A power of ten. -/
def tenTo (k : Nat) : Nat := Nat.pow 10 k

@[simp] theorem twoTo_zero : twoTo 0 = 1 := rfl

theorem twoTo_succ (k : Nat) : twoTo (k + 1) = twoTo k * 2 := rfl

@[simp] theorem tenTo_zero : tenTo 0 = 1 := rfl

theorem tenTo_succ (k : Nat) : tenTo (k + 1) = tenTo k * 10 := rfl

theorem twoTo_pos (k : Nat) : 0 < twoTo k := by
  induction k with
  | zero => decide
  | succ k ih => rw [twoTo_succ]; omega

theorem tenTo_pos (k : Nat) : 0 < tenTo k := by
  induction k with
  | zero => decide
  | succ k ih => rw [tenTo_succ]; omega

/-- A positive power of ten is ten or more. -/
theorem ten_le_tenTo {k : Nat} (h : k ≠ 0) : 10 ≤ tenTo k := by
  obtain ⟨j, rfl⟩ := Nat.exists_eq_succ_of_ne_zero h
  rw [tenTo_succ]
  have := tenTo_pos j
  omega

/-- The number of words of 32 bits. -/
def word32 : Nat := 4294967296

/-- The number of words of 64 bits. -/
def word64 : Nat := 18446744073709551616

end TableFilter.Number
