import TableFilter.Proofs.Binding.Resolution
import TableFilter.Proofs.Literal.Operands

/-!
# Written expressions are read

The text of an expression is a term: that of the expression which it reads back as. All operations
are in parentheses, with the exception of negations, so that levels of binding matter at one place
only. What goes on with a negation is part of what is negated.

A membership test without items could not be written, but is not read either. So the induction is on
how the term was read that the expression was bound from, and not on the expression.

## Main definitions

* `Expr.Written`, `Expr.AllWritten`: the tokens of the texts of expressions, read as terms

## Main results

* `Expr.Written.enclosed`: what goes on with an expression
* `exists_written`: an expression that was bound from a text is written so that it is read
-/

namespace TableFilter

open Grammar

namespace Expr

/-- Tokens that the text of an expression is written as, and that are read as what the expression
reads back as. A negation is an operand only after the word that negates. -/
inductive Written : Expr → List Token → Prop
  | operand {e : Expr} {ts : List Token} (writes : Writes e.text.toList ts)
      (plain : e.isNegation = false) (h : IsOperand ts e.reread.term) : Written e ts
  | negation {e : Expr} {ts : List Token}
      (writes : Writes (unary .not e).text.toList (.keyword .not :: ts))
      (h : IsOperand ts e.reread.term) : Written (.unary .not e) (.keyword .not :: ts)

/-- Tokens that the texts of expressions with commas between them are written as, and that are read
as what the expressions read back as. -/
structure AllWritten (es : List Expr) (ts : List Token) : Prop where
  /-- The tokens are those of the text. -/
  writes : Writes (listText es).toList ts
  /-- They are read. -/
  derives : DerivesAll ts (terms (rereadAll es))

variable {a b e : Expr} {l r ts : List Token}

namespace Written

theorem writes (h : Written e ts) : Writes e.text.toList ts := by
  cases h with
  | operand writes => exact writes
  | negation writes => exact writes

theorem signed (h : Written e ts) : Derives .signed ts e.reread.term := by
  cases h with
  | operand _ _ h => exact h.signed
  | negation _ h => exact .sign .not nofun h.signed

theorem negated (h : Written e ts) : Derives .negation ts e.reread.term := by
  cases h with
  | operand _ _ h => exact h.negation
  | negation _ h => exact .negated .not h.negation

theorem disjunction (h : Written e ts) : Derives .disjunction ts e.reread.term :=
  h.negated.disjunction

/-- What goes on with an expression, in parentheses. A negation at the start is that of the
whole. -/
theorem enclosed {tail : List Token} {f : Expr → Expr} (h : Written a l)
    (writes : Writes e.text.toList (.symbol .leftParen :: (l ++ tail ++ [.symbol .rightParen])))
    (plain : e.isNegation = false)
    (goesOn : ∀ {ts x}, Derives .signed ts x.term → Derives .predicate (ts ++ tail) (f x).term)
    (hplain : a.isNegation = false → e.reread = f a.reread)
    (hnegation : ∀ x, a = .unary .not x → e.reread = .unary .not (f x.reread)) :
    ∃ ts, Written e ts := by
  refine ⟨_, .operand writes plain (.parentheses ?_)⟩
  cases h with
  | operand _ hstart h =>
    rw [hplain hstart]
    exact (h.negation_append (goesOn h.signed)).disjunction
  | negation _ h =>
    rw [hnegation _ rfl]
    exact (Derives.negated .not (h.negation_append (goesOn h.signed))).disjunction

end Written

/-! ### One case for each kind of expression -/

theorem exists_written_literal (v : Value) : ∃ ts, Written (.literal v) ts := by
  obtain ⟨ts, writes, operand⟩ := v.exists_operand
  exact ⟨ts, .operand writes rfl operand⟩

theorem exists_written_column {c : BoundColumn} (named : IsName c.head.name) :
    ∃ ts, Written c.toExpr ts := by
  have operand : IsOperand [.identifier c.head.name] (.column c.head.name) :=
    ⟨.column _, _, _, rfl, nofun⟩
  obtain ⟨head, _ | e⟩ := c
  · exact ⟨_, .operand (.name named) rfl operand⟩
  · exact ⟨_, .operand (.name named) rfl operand⟩

theorem exists_written_unary (op : UnaryOperator) (h : Written e ts) :
    ∃ us, Written (.unary op e) us := by
  have writes : Writes (unary op e).text.toList
      (op.token :: .symbol .leftParen :: (ts ++ [.symbol .rightParen])) := by
    simpa [text] using op.writes_parentheses h.writes.parentheses
  have enclosed := IsOperand.parentheses h.disjunction
  have hsigned : Derives .signed (op.token :: .symbol .leftParen :: (ts ++ [.symbol .rightParen]))
      (.unary op e.reread.term) := by
    refine .sign op.signs_token (fun _ u hu => ?_) enclosed.signed
    cases hu
    exact nofun
  cases op with
  | plus => exact ⟨_, .operand writes rfl ⟨hsigned, _, _, rfl, nofun⟩⟩
  | minus => exact ⟨_, .operand writes rfl ⟨hsigned, _, _, rfl, nofun⟩⟩
  | not => exact ⟨_, .negation writes enclosed⟩

theorem exists_written_binary (op : BinaryOperator) (ha : Written a l) (hb : Written b r) :
    ∃ ts, Written (.binary op a b) ts := by
  have writes {ts : List Token} (hop : Writes op.text.toList ts) :
      Writes (binary op a b).text.toList
        (.symbol .leftParen :: (l ++ (ts ++ r) ++ [.symbol .rightParen])) := by
    simpa [text] using (ha.writes.spaced (hop.spaced hb.writes)).parentheses
  cases hlogical : op.isLogical with
  | false =>
    obtain ⟨ts, connects⟩ := exists_connects hlogical
    refine ha.enclosed (f := fun x => .binary op x b.reread) (writes connects.writes) rfl
      (fun hx => connects.derives hx hb.signed) (fun hplain => ?_) ?_
    · exact reread_binary (fun hneg => absurd (hplain.symm.trans hneg) Bool.false_ne_true) b
    · rintro x rfl
      exact if_neg (hlogical ▸ Bool.false_ne_true)
  | true =>
    obtain ⟨op, rfl⟩ : ∃ logical, op = .logical logical := by
      cases op with
      | logical op => exact ⟨op, rfl⟩
      | _ => cases hlogical
    obtain ⟨ts, hop, hderives⟩ := exists_logicalTokens op
    refine ⟨_, .operand (writes hop) rfl (.parentheses ?_)⟩
    rw [reread_binary (fun _ => rfl)]
    exact hderives ha.negated hb.negated

theorem exists_written_nullTest (negated : Bool) (h : Written e ts) :
    ∃ us, Written (.nullTest negated e) us := by
  obtain ⟨us, htest, hderives⟩ := exists_nullTestTokens negated
  refine h.enclosed (f := .nullTest negated) ?_ rfl hderives
    (fun hplain => reread_nullTest hplain negated) ?_
  · simpa [text] using (h.writes.spaced htest).parentheses
  · rintro x rfl
    rfl

theorem exists_written_inList (negated exact : Bool) {es : List Expr} (h : Written e ts)
    (all : AllWritten es r) : ∃ us, Written (.inList negated exact e es) us := by
  obtain ⟨us, htest, hderives⟩ := exists_membershipTokens negated exact all.writes all.derives
  refine h.enclosed (f := fun x => .inList negated exact x (rereadAll es)) ?_ rfl hderives
    (fun hplain => reread_inList hplain negated exact es) ?_
  · simpa [text] using (h.writes.spaced htest).parentheses
  · rintro x rfl
    rfl

theorem exists_written_callNone (f : Builtin) : ∃ ts, Written (.call f []) ts := by
  obtain ⟨ts, writes, operand⟩ := f.exists_callNoneTokens
  exact ⟨ts, .operand (by simpa [text, listText] using writes) rfl operand⟩

theorem exists_written_call (f : Builtin) {es : List Expr} (all : AllWritten es r) :
    ∃ ts, Written (.call f es) ts := by
  obtain ⟨ts, writes, operand⟩ := f.exists_callTokens all.writes all.derives
  exact ⟨ts, .operand (by simpa [text] using writes) rfl operand⟩

theorem Written.one (h : Written e ts) : AllWritten [e] ts :=
  ⟨by simpa [listText] using h.writes, .one h.disjunction⟩

theorem Written.cons {es : List Expr} (h : Written e ts) (all : AllWritten es r) :
    AllWritten (e :: es) (ts ++ .symbol .comma :: r) := by
  refine ⟨?_, .cons h.disjunction all.derives⟩
  have hne : es.isEmpty = false := by
    obtain ⟨-, hderives⟩ := all
    cases es with
    | nil => cases hderives
    | cons => rfl
  simpa [listText, hne] using h.writes.append rfl (.cons spells_comma all.writes.blank)

end Expr

/-! ### All expressions -/

variable {t : Table}

theorem exists_written_resolved (columns : ∀ c ∈ t.columns, IsName c.name) {name : String}
    {c : BoundColumn} (h : t.Resolves name c) : ∃ ts, c.toExpr.Written ts := by
  obtain ⟨k, d, -, hd, hhead⟩ := h.head_eq
  refine Expr.exists_written_column ?_
  rw [hhead]
  exact columns d (List.mem_of_getElem? hd)

open TableFilter.Expr

mutual

/-- **Bound expressions are written.** Where the names of columns are names, the text of an
expression that was bound from a term which was read is read as what the expression reads back
as. -/
theorem exists_written (columns : ∀ c ∈ t.columns, IsName c.name) {level : Level}
    {ts : List Token} {a : Term} {e : Expr} : Derives level ts a → t.Binds a e → ∃ us, e.Written us
  | .operand _ h, hb => exists_written columns h hb
  | .join _ _ hl hr, .binary ha hb => by
    obtain ⟨l, left⟩ := exists_written columns hl ha
    obtain ⟨r, right⟩ := exists_written columns hr hb
    exact exists_written_binary _ left right
  | .negated _ h, .unary hb => by
    obtain ⟨us, written⟩ := exists_written columns h hb
    exact exists_written_unary _ written
  | .positive _ h, hb => exists_written columns h hb
  | .subject h, hb => exists_written columns h hb
  | .nullTest negated h, .nullTest hb => by
    obtain ⟨us, written⟩ := exists_written columns h hb
    exact exists_written_nullTest negated written
  | .membership negated _ h all, .inList hb hall => by
    obtain ⟨us, written⟩ := exists_written columns h hb
    obtain ⟨items, allWritten⟩ := exists_allWritten columns all hall
    exact exists_written_inList negated _ written allWritten
  | .likeness _ _ hl hr, .binary ha hb => by
    obtain ⟨l, left⟩ := exists_written columns hl ha
    obtain ⟨r, right⟩ := exists_written columns hr hb
    exact exists_written_binary _ left right
  | .comparison _ hl hr, .binary ha hb => by
    obtain ⟨l, left⟩ := exists_written columns hl ha
    obtain ⟨r, right⟩ := exists_written columns hr hb
    exact exists_written_binary _ left right
  | .sign _ _ h, .unary hb => by
    obtain ⟨us, written⟩ := exists_written columns h hb
    exact exists_written_unary _ written
  | .negativeNumber _, .literal v => exists_written_literal v
  | .literal _, .literal v => exists_written_literal v
  | .column _, .column h => exists_written_resolved columns h
  | .callNone _, .call _ .nil => exists_written_callNone _
  | .call _ all, .call _ hall => by
    obtain ⟨args, allWritten⟩ := exists_allWritten columns all hall
    exact exists_written_call _ allWritten
  | .parentheses h, hb => exists_written columns h hb

theorem exists_allWritten (columns : ∀ c ∈ t.columns, IsName c.name) {ts : List Token}
    {as : List Term} {es : List Expr} : DerivesAll ts as → t.BindsAll as es →
      ∃ us, AllWritten es us
  | .one h, .cons hb .nil => by
    obtain ⟨us, written⟩ := exists_written columns h hb
    exact ⟨us, written.one⟩
  | .cons h all, .cons hb hall => by
    obtain ⟨us, written⟩ := exists_written columns h hb
    obtain ⟨vs, allWritten⟩ := exists_allWritten columns all hall
    exact ⟨_, written.cons allWritten⟩

end

end TableFilter
