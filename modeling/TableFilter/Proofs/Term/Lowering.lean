import TableFilter.Proofs.Term.Reader
import TableFilter.Proofs.Token.Recasing

/-!
# Reading terms in small names

Tokens that differ in the case of names are read as terms that differ in the case of names. A reader
looks at a name in two places only: it passes it on, and it looks for a function of this name, which
is found in any case.

What is shown of each reader is that it reads tokens with small names as it reads the tokens
themselves, up to names that are made small.

## Main definitions

* `Term.lowerNames`: a term with the names of its columns made small
* `TokenReader.Lowers`: what one reader reads on small names is what another one reads on names as
  they are, with small names

## Main results

* `TokenReader.Lowers.bind`: sequencing
* `Term.reader_lowers`: terms
-/

namespace TableFilter

open Result TableFilter.Text

/-! ### Names in any case -/

theorem toList_lowerName (name : String) : (lowerName name).toList = asciiLower name.toList :=
  String.toList_ofList

/-- Equality of names up to case does not see case. -/
theorem sameAsciiCase_lowerName (a name : String) :
    sameAsciiCase a (lowerName name) = sameAsciiCase a name := by
  rw [sameAsciiCase, sameAsciiCase, toList_lowerName, asciiLower_asciiLower]

theorem Builtin.ofName?_lowerName (name : String) : ofName? (lowerName name) = ofName? name := by
  simp only [ofName?, sameAsciiCase_lowerName]

/-- What is the same for all names does not see their case. -/
theorem Token.apply_lowerNames {γ : Type} {p : Token → γ}
    (h : ∀ name name', p (.identifier name) = p (.identifier name')) (t : Token) :
    p t.lowerNames = p t := by
  cases t with
  | identifier name => exact h _ _
  | _ => rfl

/-- A token that is no name is found among tokens in any case. -/
theorem Token.beq_lowerNames {t : Token} (ht : ∀ name, t ≠ .identifier name) (u : Token) :
    (u.lowerNames == t) = (u == t) := by
  refine apply_lowerNames (p := (· == t)) (fun name name' => ?_) u
  rw [beq_eq_false_iff_ne.2 (ht name).symm, beq_eq_false_iff_ne.2 (ht name').symm]

/-! ### Terms -/

namespace Term

mutual

/-- A term with the names of its columns made small. -/
def lowerNames : Term → Term
  | .literal v => .literal v
  | .column name => .column (lowerName name)
  | .unary op a => .unary op a.lowerNames
  | .binary op a b => .binary op a.lowerNames b.lowerNames
  | .nullTest negated a => .nullTest negated a.lowerNames
  | .inList negated exact a items => .inList negated exact a.lowerNames (lowerAllNames items)
  | .call f args => .call f (lowerAllNames args)

/-- Terms with the names of their columns made small. -/
def lowerAllNames : List Term → List Term
  | [] => []
  | a :: as => a.lowerNames :: lowerAllNames as

end

theorem lowerAllNames_eq_map (as : List Term) : lowerAllNames as = as.map lowerNames := by
  induction as with
  | nil => rfl
  | cons a as ih => rw [lowerAllNames, ih, List.map_cons]

end Term

namespace TokenReader

variable {α β : Type} {f : α → α} {g : β → β} {x y : TokenReader α}

/-- On tokens with small names a reader `y` reads what a reader `x` reads on the tokens as they are,
with what is read changed by `f`. -/
def Lowers (f : α → α) (x y : TokenReader α) : Prop :=
  ∀ ts, Result.Alike (y (ts.map Token.lowerNames))
    ((x ts).map fun p => (f p.1, p.2.map Token.lowerNames))

namespace Lowers

theorem bind {k k' : α → TokenReader β} (h : Lowers f x y) (hk : ∀ a, Lowers g (k a) (k' (f a))) :
    Lowers g (x >>= k) (y >>= k') := by
  intro ts
  rw [bind_apply, bind_apply]
  exact (h ts).bind_map fun p => hk p.1 p.2

/-- Tokens that differ in the case of names are read as what differs in the case of names. -/
theorem run'_alike {ts ts' : List Token} (h : Lowers f x x)
    (same : ts'.map Token.lowerNames = ts.map Token.lowerNames) :
    Result.Alike ((x.run' ts').map f) ((x.run' ts).map f) := by
  have value (ts : List Token) : ((x ts).map fun p => (f p.1, p.2.map Token.lowerNames)).map
      (·.1) = (x.run' ts).map f := by
    change _ = ((·.1) <$> x ts).map f
    cases x ts <;> rfl
  rw [← value, ← value]
  exact ((h ts').symm.trans (same ▸ h ts)).map (·.1)

theorem pure (a : α) : Lowers f (pure a) (Pure.pure (f a)) := fun _ => .ok _

theorem throw {e e' : Error} (kind : e'.kind = e.kind) :
    Lowers f (throw e : TokenReader α) (MonadExcept.throw e') := fun _ => .error kind

theorem lift (r : Result α) : Lowers id (liftM r) (liftM r) := by
  intro ts
  cases r with
  | error e => exact .error rfl
  | ok a => exact .ok _

theorem get : Lowers (List.map Token.lowerNames) MonadState.get MonadState.get := fun _ => .ok _

theorem peek : Lowers Token.lowerNames TokenReader.peek TokenReader.peek := by
  intro ts
  rw [peek_apply, peek_apply]
  cases ts <;> exact .ok _

theorem peekSecond : Lowers Token.lowerNames TokenReader.peekSecond TokenReader.peekSecond := by
  intro ts
  rw [peekSecond_apply, peekSecond_apply, List.getElem?_map]
  cases ts[1]? <;> exact .ok _

theorem modifyDrop (count : Nat) :
    Lowers id (modify (List.drop count)) (modify (List.drop count)) := by
  intro ts
  rw [modify_apply, modify_apply, ← List.map_drop]
  exact .ok _

theorem advance : Lowers id TokenReader.advance TokenReader.advance := by
  intro ts
  rw [advance_apply, advance_apply, ← List.map_tail]
  exact .ok _

theorem unexpected (expected : Expected) :
    Lowers f (TokenReader.unexpected expected) (TokenReader.unexpected expected) :=
  fun _ => .error rfl

theorem skipIf {t : Token} (ht : ∀ name, t ≠ .identifier name) :
    Lowers id (TokenReader.skipIf t) (TokenReader.skipIf t) := by
  refine bind peek fun u => ?_
  dsimp only
  rw [Token.beq_lowerNames ht]
  split
  · exact bind advance fun _ => pure _
  · exact pure _

theorem expect {t : Token} (ht : ∀ name, t ≠ .identifier name) :
    Lowers id (TokenReader.expect t) (TokenReader.expect t) := by
  refine bind peek fun u => ?_
  rw [Token.beq_lowerNames ht]
  split
  · exact advance
  · exact unexpected _

theorem identifier : Lowers lowerName TokenReader.identifier TokenReader.identifier := by
  refine bind peek fun u => ?_
  cases u with
  | identifier name => exact bind advance fun _ => pure name
  | _ => exact unexpected _

theorem commaSeparated (h : Lowers f x y) :
    Lowers (List.map f) (TokenReader.commaSeparated x) (TokenReader.commaSeparated y) := by
  have further (n : Nat) :
      Lowers (List.map f) (commaSeparatedFrom x n) (commaSeparatedFrom y n) := by
    induction n with
    | zero => exact pure []
    | succ n ih =>
      refine bind (skipIf nofun) fun found => ?_
      dsimp only [id]
      split
      · exact bind h fun a => bind ih fun as => pure (a :: as)
      · exact pure []
  refine bind h fun a => bind get fun ts => ?_
  rw [List.length_map]
  exact bind (further _) fun as => pure (a :: as)

end Lowers

end TokenReader

/-! ### Readers of terms -/

namespace Grammar

open TokenReader TokenReader.Lowers

variable {x y : TokenReader Term} {t : Token}

theorem chain_lowers {operator? : Token → Option BinaryOperator}
    (ho : ∀ name name', operator? (.identifier name) = operator? (.identifier name'))
    (h : Lowers Term.lowerNames x y) :
    Lowers Term.lowerNames (chain operator? x) (chain operator? y) := by
  have further (n : Nat) : ∀ left : Term, Lowers Term.lowerNames (chainFrom operator? x n left)
      (chainFrom operator? y n left.lowerNames) := by
    induction n with
    | zero => exact fun left => .pure left
    | succ n ih =>
      intro left
      refine .bind .peek fun t => ?_
      rw [Token.apply_lowerNames ho]
      split
      · exact .pure left
      · next op _ => exact .bind .advance fun _ => .bind h fun right => ih (.binary op left right)
  refine .bind h fun first => .bind .get fun ts => ?_
  rw [List.length_map]
  exact further _ first

theorem arguments_lowers (h : Lowers Term.lowerNames x y) :
    Lowers (List.map Term.lowerNames) (arguments x) (arguments y) := by
  refine .bind (.expect nofun) fun _ => .bind .peek fun t => ?_
  rw [Token.beq_lowerNames (t := .symbol .rightParen) nofun]
  have closed (args : List Term) : Lowers (List.map Term.lowerNames)
      (expect (.symbol .rightParen) >>= fun _ => pure args)
      (expect (.symbol .rightParen) >>= fun _ => pure (args.map Term.lowerNames)) :=
    .bind (.expect nofun) fun _ => .pure args
  split
  · exact closed []
  · exact .bind (.commaSeparated h) closed

theorem named_lowers (h : Lowers Term.lowerNames x y) (name : String) :
    Lowers Term.lowerNames (named x name) (named y (lowerName name)) := by
  refine .bind .peek fun t => ?_
  rw [Token.beq_lowerNames (t := .symbol .leftParen) nofun, Builtin.ofName?_lowerName]
  split
  · split
    · next f _ =>
      refine .bind (arguments_lowers h) fun args => ?_
      rw [← Term.lowerAllNames_eq_map]
      exact .pure (Term.call f args)
    · exact .throw rfl
  · exact .pure (Term.column name)

theorem primary_lowers (h : Lowers Term.lowerNames x y) :
    Lowers Term.lowerNames (primary x) (primary y) := by
  refine .bind .peek fun t => ?_
  rw [Token.apply_lowerNames (p := literalValue?) fun _ _ => rfl]
  split
  · exact .bind (.lift _) fun v => .bind .advance fun _ => .pure (Term.literal v)
  · cases t with
    | identifier name => exact .bind .advance fun _ => named_lowers h name
    | symbol s =>
      cases s with
      | leftParen =>
        exact .bind .advance fun _ => .bind h fun a => .bind (.expect nofun) fun _ => .pure a
      | _ => exact .unexpected _
    | _ => exact .unexpected _

theorem signed_lowers (h : Lowers Term.lowerNames x y) :
    Lowers Term.lowerNames (signed x) (signed y) := by
  intro ts
  induction ts with
  | nil => exact h []
  | cons t ts ih =>
    rw [List.map_cons, signed, signed, Token.apply_lowerNames (p := prefixOperator?) fun _ _ => rfl]
    split
    · exact h (t :: ts)
    · next op _ =>
      have hnumber : ((ts.map Token.lowerNames).head?).bind (numberValue? true) =
          (ts.head?).bind (numberValue? true) := by
        cases ts with
        | nil => rfl
        | cons t ts => exact Token.apply_lowerNames (p := numberValue? true) (fun _ _ => rfl) t
      dsimp only
      rw [hnumber]
      split
      · next value _ =>
        rw [← List.map_tail]
        cases value with
        | error e => exact .error rfl
        | ok v => exact .ok _
      · exact ih.bind_map fun p => .ok _

theorem bitOperation_lowers (h : Lowers Term.lowerNames x y) :
    Lowers Term.lowerNames (bitOperation x) (bitOperation y) :=
  chain_lowers (fun _ _ => rfl) (chain_lowers (fun _ _ => rfl) (chain_lowers (fun _ _ => rfl)
    (signed_lowers (primary_lowers h))))

theorem exactMark_lowers : Lowers id exactMark exactMark := by
  refine .bind (.skipIf nofun) fun found => ?_
  dsimp only [id]
  split
  · exact .pure true
  · exact .skipIf nofun

theorem predicateRest_lowers (h : Lowers Term.lowerNames x y) (left : Term)
    (start : PredicateStart) : Lowers Term.lowerNames (predicateRest x left start)
      (predicateRest y left.lowerNames start) := by
  cases start with
  | null =>
    exact .bind (.skipIf nofun) fun negated => .bind (.expect nofun) fun _ =>
      .pure (Term.nullTest negated left)
  | membership negated =>
    refine .bind exactMark_lowers fun exact => .bind (.expect nofun) fun _ =>
      .bind (.commaSeparated h) fun items => .bind (.expect nofun) fun _ => ?_
    rw [← Term.lowerAllNames_eq_map]
    exact .pure (Term.inList negated exact left items)
  | likeness negated =>
    exact .bind exactMark_lowers fun exact => .bind (bitOperation_lowers h) fun pattern =>
      .pure (Term.binary (.like negated exact) left pattern)
  | comparison op =>
    exact .bind (bitOperation_lowers h) fun right => .pure (Term.binary (.comparison op) left right)

theorem predicateStart?_lowerNames (t second : Token) :
    predicateStart? t.lowerNames second.lowerNames = predicateStart? t second := by
  rw [Token.apply_lowerNames (p := (predicateStart? · second.lowerNames)) fun _ _ => rfl]
  refine Token.apply_lowerNames (fun _ _ => ?_) second
  cases t with
  | keyword k => cases k <;> rfl
  | _ => rfl

theorem predicate_lowers (h : Lowers Term.lowerNames x y) :
    Lowers Term.lowerNames (predicate x) (predicate y) := by
  have further (n : Nat) : ∀ left : Term, Lowers Term.lowerNames (predicateFrom x n left)
      (predicateFrom y n left.lowerNames) := by
    induction n with
    | zero => exact fun left => .pure left
    | succ n ih =>
      intro left
      refine .bind .peek fun t => .bind .peekSecond fun second => ?_
      rw [predicateStart?_lowerNames]
      split
      · exact .pure left
      · next start count _ =>
        exact .bind (.modifyDrop count) fun _ => .bind (predicateRest_lowers h left start) ih
  refine .bind (bitOperation_lowers h) fun left => .bind .get fun ts => ?_
  rw [List.length_map]
  exact further _ left

theorem negation_lowers (h : Lowers Term.lowerNames x y) :
    Lowers Term.lowerNames (negation x) (negation y) := by
  intro ts
  induction ts with
  | nil => exact h []
  | cons t ts ih =>
    rw [List.map_cons, negation, negation, Token.apply_lowerNames (p := isNegation) fun _ _ => rfl]
    split
    · exact ih.bind_map fun p => .ok _
    · exact h (t :: ts)

end Grammar

namespace Term

theorem readerTo_lowers (depth : Nat) :
    TokenReader.Lowers lowerNames (readerTo depth) (readerTo depth) := by
  induction depth with
  | zero => exact .unexpected _
  | succ depth ih =>
    exact Grammar.chain_lowers (fun _ _ => rfl) (Grammar.chain_lowers (fun _ _ => rfl)
      (Grammar.negation_lowers (Grammar.predicate_lowers ih)))

/-- Terms are read from small names as they are read, with small names. -/
theorem reader_lowers : TokenReader.Lowers lowerNames reader reader := by
  intro ts
  rw [reader, reader, List.length_map]
  exact readerTo_lowers _ ts

end Term

end TableFilter
