import TableFilter.Proofs.Result

/-!
# Actions that maintain a property of their state

Binding and evaluation can fail, and what they keep survives a failure. What is claimed of such an
action is said for all states with some property: the property still holds afterwards, whether the
action failed or not, and the result is of some kind.

## Main definitions

* `Maintains`: an action maintains a property of its state and has results of a kind
* `IsSteady`: an action has one result from all states with a property
* `AlwaysGives`: the values of an action are of a kind
* `FailsOnly`: the errors of an action are of a kind

## Main results

* `Maintains.bind`: sequencing
* `Maintains.bind_eq`: sequencing of actions whose result does not depend on the state
* `Maintains.bind_ok`: sequencing where only successful results are spoken of
* `IsSteady.result_eq`: the result does not depend on the state
-/

namespace TableFilter

variable {σ α β : Type} {holds : σ → Prop}

/-- An action that follows another runs in the state that the other leaves. -/
theorem run_bind (m : ExceptT Error (StateM σ) α) (f : α → ExceptT Error (StateM σ) β) (s : σ) :
    (m >>= f).run s =
      match (m.run s).1 with
      | .ok a => (f a).run (m.run s).2
      | .error e => (.error e, (m.run s).2) := by
  change (ExceptT.bindCont f (m.run s).1).run (m.run s).2 = _
  cases (m.run s).1 <;> rfl

/-- Two actions succeed exactly if both do. -/
theorem run_bind_eq_ok {m : ExceptT Error (StateM σ) α} {f : α → ExceptT Error (StateM σ) β} {s : σ}
    {b : β} : ((m >>= f).run s).1 = .ok b ↔
      ∃ a, (m.run s).1 = .ok a ∧ ((f a).run (m.run s).2).1 = .ok b := by
  rw [run_bind]
  cases (m.run s).1 <;> simp

/-- What catches an error runs in the state that the failed action leaves. -/
theorem run_tryCatch (m : ExceptT Error (StateM σ) α) (f : Error → ExceptT Error (StateM σ) α)
    (s : σ) : (tryCatch m f).run s =
      match (m.run s).1 with
      | .ok a => (.ok a, (m.run s).2)
      | .error e => (f e).run (m.run s).2 := by
  rw [ExceptT.run_tryCatch]
  change StateT.bind m.run _ s = _
  unfold StateT.bind
  rcases m.run s with ⟨e | a, after⟩ <;> rfl

/-- From states with a property an action leads to states with that property, and its result is of
a kind. -/
def Maintains (holds : σ → Prop) (m : ExceptT Error (StateM σ) α) (kind : Result α → Prop) :
    Prop :=
  ∀ s, holds s → kind (m.run s).1 ∧ holds (m.run s).2

namespace Maintains

variable {m : ExceptT Error (StateM σ) α} {f : α → ExceptT Error (StateM σ) β}

theorem mono {kind kind' : Result α → Prop} (h : Maintains holds m kind)
    (le : ∀ r, kind r → kind' r) : Maintains holds m kind' :=
  fun s hs => ⟨le _ (h s hs).1, (h s hs).2⟩

theorem pure {kind : Result α → Prop} {a : α} (h : kind (.ok a)) :
    Maintains holds (pure a) kind :=
  fun _ hs => ⟨h, hs⟩

theorem throw {kind : Result α → Prop} {e : Error} (h : kind (.error e)) :
    Maintains holds (throw e) kind :=
  fun _ hs => ⟨h, hs⟩

theorem lift {kind : Result α → Prop} {r : Result α} (h : kind r) :
    Maintains holds (liftM r : ExceptT Error (StateM σ) α) kind := by
  intro s hs
  cases r <;> exact ⟨h, hs⟩

/-- An action that goes on with the state as it is. -/
theorem get_bind {kind : Result β → Prop} {f : σ → ExceptT Error (StateM σ) β}
    (h : ∀ s, holds s → Maintains holds (f s) kind) : Maintains holds (get >>= f) kind :=
  fun s hs => h s hs s hs

theorem modify {kind : Result PUnit → Prop} {change : σ → σ} (h : kind (.ok ⟨⟩))
    (keeps : ∀ s, holds s → holds (change s)) :
    Maintains holds (modify change : ExceptT Error (StateM σ) PUnit) kind :=
  fun s hs => ⟨h, keeps s hs⟩

theorem bind {first : Result α → Prop} {kind : Result β → Prop} (hm : Maintains holds m first)
    (hf : ∀ a, first (.ok a) → Maintains holds (f a) kind)
    (he : ∀ e, first (.error e) → kind (.error e)) : Maintains holds (m >>= f) kind := by
  intro s hs
  obtain ⟨hfirst, hafter⟩ := hm s hs
  rw [run_bind]
  cases hr : (m.run s).1 with
  | ok a => exact hf a (hr ▸ hfirst) _ hafter
  | error e => exact ⟨he e (hr ▸ hfirst), hafter⟩

/-- What runs in place of an action that fails. -/
theorem tryCatch {first kind : Result α → Prop} {f : Error → ExceptT Error (StateM σ) α}
    (hm : Maintains holds m first) (hok : ∀ a, first (.ok a) → kind (.ok a))
    (hf : ∀ e, first (.error e) → Maintains holds (f e) kind) :
    Maintains holds (tryCatch m f) kind := by
  intro s hs
  obtain ⟨hfirst, hafter⟩ := hm s hs
  rw [run_tryCatch]
  cases hr : (m.run s).1 with
  | ok a => exact ⟨hok a (hr ▸ hfirst), hafter⟩
  | error e => exact hf e (hr ▸ hfirst) _ hafter

/-- Sequencing where each result is the same from all states. -/
theorem bind_eq {r : Result α} {g : α → Result β} (hm : Maintains holds m (· = r))
    (hf : ∀ a, r = .ok a → Maintains holds (f a) (· = g a)) :
    Maintains holds (m >>= f) (· = r >>= g) := by
  refine hm.bind (fun a ha => ?_) fun e he => ?_
  · subst ha
    exact hf a rfl
  · subst he
    rfl

/-- Sequencing where only the values of successful actions are spoken of. -/
theorem bind_ok {first : α → Prop} {kind : β → Prop}
    (hm : Maintains holds m fun r => ∀ a, r = .ok a → first a)
    (hf : ∀ a, first a → Maintains holds (f a) fun r => ∀ b, r = .ok b → kind b) :
    Maintains holds (m >>= f) fun r => ∀ b, r = .ok b → kind b :=
  hm.bind (fun a ha => hf a (ha a rfl)) fun _ _ _ h => nomatch h

end Maintains

/-! ### One result from all states -/

/-- From all states with a property an action leads to states with that property, and it has the
same result from each of them. -/
def IsSteady (holds : σ → Prop) (m : ExceptT Error (StateM σ) α) : Prop :=
  ∃ r, Maintains holds m (· = r)

namespace IsSteady

variable {m : ExceptT Error (StateM σ) α} {f : α → ExceptT Error (StateM σ) β}

theorem lift (r : Result α) : IsSteady holds (liftM r : ExceptT Error (StateM σ) α) :=
  ⟨r, .lift rfl⟩

theorem pure (a : α) : IsSteady holds (pure a : ExceptT Error (StateM σ) α) := lift (.ok a)

theorem throw (e : Error) : IsSteady holds (throw e : ExceptT Error (StateM σ) α) :=
  lift (.error e)

theorem bind (hm : IsSteady holds m) (hf : ∀ a, IsSteady holds (f a)) :
    IsSteady holds (m >>= f) := by
  obtain ⟨r, hr⟩ := hm
  exact ⟨r >>= fun a => (hf a).choose, hr.bind_eq fun a _ => (hf a).choose_spec⟩

theorem tryCatch {f : Error → ExceptT Error (StateM σ) α} (hm : IsSteady holds m)
    (hf : ∀ e, IsSteady holds (f e)) : IsSteady holds (tryCatch m f) := by
  obtain ⟨r | a, hr⟩ := hm
  · obtain ⟨r', hr'⟩ := hf r
    exact ⟨r', hr.tryCatch (fun _ h => nomatch h) fun e he => Except.error.inj he ▸ hr'⟩
  · exact ⟨.ok a, hr.tryCatch (fun _ h => h) fun _ h => nomatch h⟩

/-- The result does not depend on the state. -/
theorem result_eq (h : IsSteady holds m) {s s' : σ} (hs : holds s) (hs' : holds s') :
    (m.run s).1 = (m.run s').1 := by
  obtain ⟨r, hr⟩ := h
  exact (hr s hs).1.trans (hr s' hs').1.symm

end IsSteady

/-! ### Values of a kind from all states -/

/-- Whatever the state is, a value that an action gives is of a kind. -/
def AlwaysGives (m : ExceptT Error (StateM σ) α) (kind : α → Prop) : Prop :=
  ∀ s a, (m.run s).1 = .ok a → kind a

namespace AlwaysGives

variable {m : ExceptT Error (StateM σ) α} {f : α → ExceptT Error (StateM σ) β} {kind : β → Prop}

theorem pure {a : α} {kind : α → Prop} (h : kind a) :
    AlwaysGives (pure a : ExceptT Error (StateM σ) α) kind :=
  fun _ _ ha => Except.ok.inj ha ▸ h

theorem bind (h : ∀ a, AlwaysGives (f a) kind) : AlwaysGives (m >>= f) kind := by
  intro s b hb
  obtain ⟨a, -, hb⟩ := run_bind_eq_ok.1 hb
  exact h a _ b hb

end AlwaysGives

/-! ### Errors of a kind from all states -/

/-- Whatever the state is, an action fails with errors of a kind only. -/
abbrev FailsOnly (m : ExceptT Error (StateM σ) α) (kind : Error → Prop) : Prop :=
  Maintains (fun _ : σ => True) m fun r => ∀ e, r = .error e → kind e

namespace FailsOnly

variable {m : ExceptT Error (StateM σ) α} {f : α → ExceptT Error (StateM σ) β}
  {kind : Error → Prop}

theorem pure (a : α) : FailsOnly (pure a : ExceptT Error (StateM σ) α) kind :=
  Maintains.pure fun _ h => nomatch h

theorem throw {e : Error} (h : kind e) :
    FailsOnly (throw e : ExceptT Error (StateM σ) α) kind :=
  Maintains.throw fun _ he => Except.error.inj he ▸ h

theorem lift {r : Result α} (h : ∀ e, r = .error e → kind e) :
    FailsOnly (liftM r : ExceptT Error (StateM σ) α) kind :=
  Maintains.lift h

theorem modify (change : σ → σ) :
    FailsOnly (modify change : ExceptT Error (StateM σ) PUnit) kind :=
  Maintains.modify (fun _ h => nomatch h) fun _ _ => trivial

theorem get_bind {f : σ → ExceptT Error (StateM σ) β} (h : ∀ s, FailsOnly (f s) kind) :
    FailsOnly (get >>= f) kind :=
  Maintains.get_bind fun s _ => h s

theorem bind (hm : FailsOnly m kind) (hf : ∀ a, FailsOnly (f a) kind) :
    FailsOnly (m >>= f) kind :=
  Maintains.bind hm (fun a _ => hf a) fun _ h e he => h e (congrArg _ (Except.error.inj he))

end FailsOnly

end TableFilter
