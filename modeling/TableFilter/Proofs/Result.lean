import TableFilter.Error

/-!
# Results

Following a result through a chain of steps, and taking a successful one apart. Two results are
alike if they are one value or errors of one kind, whatever the causes of the errors are.

## Main definitions

* `Error.kind`: an error without its cause
* `Result.Alike`: one value, or errors of one kind

## Main results

* `Result.bind_eq_ok`, `Result.map_eq_ok`, `Result.mapError_eq_ok`: the results of steps that
  succeed
* `Result.exists_mapM_eq_ok`, `Result.mem_of_mapM_eq_ok`, `Result.mapM_eq_ok_map`,
  `Result.mapM_eq_ok_of_forall`: the results of all elements of a list
* `Result.Alike.bind`: sequencing of results that are alike
-/

namespace TableFilter.Result

variable {ε ε' α β : Type}

@[simp] theorem map_ok (f : α → β) (a : α) : (Except.ok a : Result α).map f = .ok (f a) := rfl

@[simp] theorem map_error (f : α → β) (e : Error) :
    (Except.error e : Result α).map f = .error e := rfl

@[simp] theorem ok_bind (a : α) (f : α → Result β) : ((.ok a : Result α) >>= f) = f a := rfl

@[simp] theorem error_bind (e : Error) (f : α → Result β) :
    ((.error e : Result α) >>= f) = .error e := rfl

section Success

variable {r : Except ε α} {a : α} {b : β}

theorem map_eq_ok {f : α → β} : r.map f = .ok b ↔ ∃ a, r = .ok a ∧ f a = b := by
  cases r <;> simp [Except.map]

theorem map_eq_bind (r : Except ε α) (f : α → β) : r.map f = r >>= fun a => .ok (f a) := by
  cases r <;> rfl

theorem mapError_eq_ok {f : ε → ε'} : r.mapError f = .ok a ↔ r = .ok a := by
  cases r with
  | error e => exact ⟨nofun, nofun⟩
  | ok b => exact ⟨fun h => congrArg _ (Except.ok.inj h), fun h => congrArg _ (Except.ok.inj h)⟩

theorem bind_eq_ok {f : α → Except ε β} : (r >>= f) = .ok b ↔ ∃ a, r = .ok a ∧ f a = .ok b := by
  cases r <;> simp [bind, Except.bind]

end Success

/-! ### Results of several elements -/

section All

variable {γ : Type} {f : α → Except ε β} {l : List α}

theorem mapM_map (g : β → γ) (l : List α) :
    l.mapM (fun a => (f a).map g) = (l.mapM f).map (List.map g) := by
  induction l with
  | nil => rfl
  | cons a l ih =>
    rw [List.mapM_cons, List.mapM_cons, ih]
    cases f a <;> cases l.mapM f <;> rfl

/-- All elements have results exactly if each has one. -/
theorem exists_mapM_eq_ok : (∃ bs, l.mapM f = .ok bs) ↔ ∀ a ∈ l, ∃ b, f a = .ok b := by
  induction l with
  | nil => exact ⟨fun _ => List.forall_mem_nil _, fun _ => ⟨[], rfl⟩⟩
  | cons a l ih =>
    rw [List.forall_mem_cons, ← ih, List.mapM_cons]
    cases f a <;> cases l.mapM f <;> simp [bind, Except.bind, pure, Except.pure]

theorem mem_of_mapM_eq_ok {bs : List β} (h : l.mapM f = .ok bs) {b : β} :
    b ∈ bs ↔ ∃ a ∈ l, f a = .ok b := by
  induction l generalizing bs with
  | nil =>
    obtain rfl : [] = bs := Except.ok.inj h
    simp
  | cons a l ih =>
    rw [List.mapM_cons] at h
    obtain ⟨c, hc, hrest⟩ := bind_eq_ok.1 h
    obtain ⟨cs, hcs, hcons⟩ := bind_eq_ok.1 hrest
    obtain rfl : c :: cs = bs := Except.ok.inj hcons
    simp [ih hcs, hc, eq_comm]

/-- Elements each of which has a result have all of these. -/
theorem mapM_eq_ok_map {g : α → β} (h : ∀ a ∈ l, f a = .ok (g a)) : l.mapM f = .ok (l.map g) := by
  induction l with
  | nil => rfl
  | cons a l ih =>
    obtain ⟨ha, hrest⟩ := List.forall_mem_cons.1 h
    rw [List.mapM_cons, ha, ih hrest]
    rfl

/-- Elements that have results have them by another function too, if this gives each of them. -/
theorem mapM_eq_ok_of_forall {g : α → Except ε β} {bs : List β}
    (h : ∀ a ∈ l, ∀ b, f a = .ok b → g a = .ok b) (hl : l.mapM f = .ok bs) :
    l.mapM g = .ok bs := by
  induction l generalizing bs with
  | nil => exact hl
  | cons a l ih =>
    obtain ⟨ha, hrest⟩ := List.forall_mem_cons.1 h
    rw [List.mapM_cons] at hl ⊢
    obtain ⟨b, hb, hl⟩ := bind_eq_ok.1 hl
    obtain ⟨bs, hbs, hcons⟩ := bind_eq_ok.1 hl
    rw [ha b hb, ih hrest hbs]
    exact hcons

end All

end TableFilter.Result

/-! ### Kinds of errors -/

namespace TableFilter

/-- The kinds of errors. -/
inductive ErrorKind where
  | malformed | typing | resolution | conversion | divisionByZero | argumentCount | evaluation
deriving DecidableEq, Repr

/-- An error without its cause. -/
def Error.kind : Error → ErrorKind
  | .malformed _ => .malformed
  | .typing _ => .typing
  | .resolution _ => .resolution
  | .conversion _ => .conversion
  | .divisionByZero => .divisionByZero
  | .argumentCount _ _ => .argumentCount
  | .evaluation _ => .evaluation

namespace Result

/-- One value, or errors of one kind. -/
inductive Alike {α : Type} : Result α → Result α → Prop
  | ok (a : α) : Alike (.ok a) (.ok a)
  | error {e e' : Error} (kind : e.kind = e'.kind) : Alike (.error e) (.error e')

namespace Alike

variable {α β : Type} {r r' r'' : Result α}

theorem refl : ∀ r : Result α, Alike r r
  | .ok a => .ok a
  | .error _ => .error rfl

theorem symm (h : Alike r r') : Alike r' r := by
  cases h with
  | ok a => exact .ok a
  | error kind => exact .error kind.symm

theorem trans (h : Alike r r') (h' : Alike r' r'') : Alike r r'' := by
  cases h with
  | ok a => exact h'
  | error kind =>
    cases h' with
    | error kind' => exact .error (kind.trans kind')

theorem bind {f g : α → Result β} (h : Alike r r') (hf : ∀ a, r = .ok a → Alike (f a) (g a)) :
    Alike (r >>= f) (r' >>= g) := by
  cases h with
  | ok a => exact hf a rfl
  | error kind => exact .error kind

theorem map (f : α → β) (h : Alike r r') : Alike (r.map f) (r'.map f) := by
  cases h with
  | ok a => exact .ok (f a)
  | error kind => exact .error kind

/-- Sequencing where the second results are those of the first with their values changed. -/
theorem bind_map {α' β' : Type} {s : Result α'} {f : α → α'} {g : β → β'} {k : α → Result β}
    {k' : α' → Result β'} (h : Alike s (r.map f)) (hk : ∀ a, Alike (k' (f a)) ((k a).map g)) :
    Alike (s >>= k') ((r >>= k).map g) := by
  cases r with
  | error e =>
    cases h with
    | error kind => exact .error kind
  | ok a =>
    cases h with
    | ok => exact hk a

theorem mapM {f g : α → Result β} {l : List α} (h : ∀ a ∈ l, Alike (f a) (g a)) :
    Alike (l.mapM f) (l.mapM g) := by
  induction l with
  | nil => exact .ok []
  | cons a l ih =>
    obtain ⟨ha, hrest⟩ := List.forall_mem_cons.1 h
    rw [List.mapM_cons, List.mapM_cons]
    exact ha.bind fun b _ => (ih hrest).bind fun bs _ => .ok (b :: bs)

end Alike

end Result

end TableFilter
