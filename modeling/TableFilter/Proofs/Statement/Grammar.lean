import TableFilter.Proofs.Term.Completeness
import TableFilter.Statement.OfTokens

/-!
# The grammar of statements

Which lists of tokens are filters, said without reading them. A filter is a sequence of statements
with semicolons between them, and empty statements do not count. So filters can be put one after the
other: the end of a statement and the end of the tokens are the same to the grammar.

An identifier that stands alone is a statement of its own kind. The same token is also a term, and
the rule for terms leaves it out.

## Main definitions

* `DerivesItems`: columns to sort by
* `DerivesFilter`: statements on a named table
* `DerivesStatement`, `DerivesStatements`: single statements and filters

## Main results

* `DerivesStatements.append`: one filter after another
* `continues_of_statement`: no token of a statement ends it
-/

namespace TableFilter.Grammar

/-! ### Sorting -/

/-- The mark that makes letters of different case differ when values are sorted. -/
def binaryTokens (exact : Bool) : List Token := if exact then [.keyword .binary] else []

/-- The direction to sort in, ascending if there is none. -/
inductive Direction : List Token → Bool → Prop
  | none : Direction [] true
  | asc : Direction [.keyword .asc] true
  | desc : Direction [.keyword .desc] false

/-- The tokens of a column to sort by. -/
inductive DerivesItem : List Token → OrderItem → Prop
  | column (exact : Bool) (name : String) {direction : List Token} {ascending : Bool}
      (directed : Direction direction ascending) :
      DerivesItem (binaryTokens exact ++ .identifier name :: direction) ⟨name, ascending, exact⟩

/-- The tokens of columns to sort by, with commas between them. -/
inductive DerivesItems : List Token → List OrderItem → Prop
  | one {ts : List Token} {item : OrderItem} (h : DerivesItem ts item) : DerivesItems ts [item]
  | cons {ts rest : List Token} {item : OrderItem} {items : List OrderItem}
      (h : DerivesItem ts item) (all : DerivesItems rest items) :
      DerivesItems (ts ++ .symbol .comma :: rest) (item :: items)

/-! ### Statements on a named table -/

/-- The sign before a number of rows. -/
inductive LimitSign : List Token → Bool → Prop
  | none : LimitSign [] false
  | plus : LimitSign [.symbol .plus] false
  | minus : LimitSign [.symbol .minus] true

/-- The tokens of a number of rows, if there is one. -/
inductive DerivesLimit : List Token → Option Int → Prop
  | none : DerivesLimit [] none
  | top {sign : List Token} {negative : Bool} {digits : String} {i : Int}
      (signed : LimitSign sign negative)
      (value : (intOfText? (signedText negative digits).toList).filter fitsInt32 = some i) :
      DerivesLimit (.keyword .top :: (sign ++ [.integer digits])) (some i)

/-- The tokens of the columns to sort by with their keywords, if there are any. -/
inductive DerivesOrder : List Token → List OrderItem → Prop
  | none : DerivesOrder [] []
  | by_ {ts : List Token} {items : List OrderItem} (h : DerivesItems ts items) :
      DerivesOrder (.keyword .order :: .keyword .by_ :: ts) items

/-- The tokens of a statement on a named table. The number of rows stands before the name or at the
end. -/
inductive DerivesFilter : List Token → FilterStatement → Prop
  | where_ (table : String) {first condition order last : List Token} {before after : Option Int}
      {e : Term} {items : List OrderItem} (limited : DerivesLimit first before)
      (h : Derives .disjunction condition e) (sorted : DerivesOrder order items)
      (limitedLast : DerivesLimit last after) (once : before = none ∨ after = none) :
      DerivesFilter
        (.keyword .filter :: (first ++ .identifier table :: .keyword .where_ ::
          (condition ++ (order ++ last))))
        ⟨table, after <|> before, e, items⟩

/-! ### All statements -/

/-- The tokens that name a row, with the identifier each stands for. -/
inductive Identifies : Token → IdLiteral → Prop
  | guid {text : String} {g : Guid} (h : guidLiteral text = .ok g) :
      Identifies (.guid text) (.guid g)
  | measurementKey (text : String) : Identifies (.measurementKey text) (.measurementKey text)
  | pointTag (text : String) : Identifies (.pointTag text) (.pointTag text)

/-- The tokens that alone make a statement. -/
inductive StandsAlone : Token → Prop
  | guid (text : String) : StandsAlone (.guid text)
  | measurementKey (text : String) : StandsAlone (.measurementKey text)
  | pointTag (text : String) : StandsAlone (.pointTag text)

/-- The tokens of a statement. -/
inductive DerivesStatement : List Token → Statement → Prop
  | identifier {t : Token} {id : IdLiteral} (h : Identifies t id) :
      DerivesStatement [t] (.identifier id)
  | filter {ts : List Token} {f : FilterStatement} (h : DerivesFilter ts f) :
      DerivesStatement ts (.filter f)
  | condition {ts : List Token} {e : Term} (alone : ∀ t, ts = [t] → ¬ StandsAlone t)
      (h : Derives .disjunction ts e) : DerivesStatement ts (.condition e)

/-- The tokens of a filter. -/
inductive DerivesStatements : List Token → List Statement → Prop
  | done : DerivesStatements [] []
  | empty {ts : List Token} {ss : List Statement} (h : DerivesStatements ts ss) :
      DerivesStatements (.symbol .semicolon :: ts) ss
  | last {ts : List Token} {s : Statement} (h : DerivesStatement ts s) : DerivesStatements ts [s]
  | cons {ts rest : List Token} {s : Statement} {ss : List Statement} (h : DerivesStatement ts s)
      (all : DerivesStatements rest ss) :
      DerivesStatements (ts ++ .symbol .semicolon :: rest) (s :: ss)

/-- One filter after another. -/
theorem DerivesStatements.append {ts us : List Token} {ss rs : List Statement}
    (h : DerivesStatements ts ss) (hnext : DerivesStatements us rs) :
    DerivesStatements (ts ++ .symbol .semicolon :: us) (ss ++ rs) := by
  induction h with
  | done => exact .empty hnext
  | empty _ ih => exact .empty ih
  | last h => exact .cons h hnext
  | cons h _ ih => simpa using DerivesStatements.cons h ih

/-! ### The end of a statement -/

theorem continues_of_items {ts : List Token} {items : List OrderItem} (h : DerivesItems ts items) :
    Continues ts := by
  have hitem : ∀ {ts item}, DerivesItem ts item → Continues ts := by
    rintro _ _ ⟨exact, name, directed⟩
    have hexact : Continues (binaryTokens exact) := by
      cases exact <;> simp [binaryTokens, Token.endsStatement]
    cases directed <;> simp [hexact, Token.endsStatement]
  induction h with
  | one h => exact hitem h
  | cons h _ ih => simp [hitem h, ih, Token.endsStatement]

theorem continues_of_limit {ts : List Token} {limit : Option Int} (h : DerivesLimit ts limit) :
    Continues ts := by
  cases h with
  | none => exact continues_nil
  | top signed => cases signed <;> simp [Token.endsStatement]

/-- No token of a statement ends it. -/
theorem continues_of_statement {ts : List Token} {s : Statement} (h : DerivesStatement ts s) :
    Continues ts := by
  cases h with
  | identifier h => cases h <;> simp [Token.endsStatement]
  | condition _ h => exact continues_of_derives h
  | filter h =>
    obtain ⟨table, limited, h, sorted, limitedLast, -⟩ := h
    have horder : ∀ {order items}, DerivesOrder order items → Continues order := by
      rintro _ _ (_ | h)
      · exact continues_nil
      · simp [continues_of_items h, Token.endsStatement]
    simp [continues_of_limit limited, continues_of_derives h, horder sorted,
      continues_of_limit limitedLast, Token.endsStatement]

theorem ne_nil_of_statement {ts : List Token} {s : Statement} (h : DerivesStatement ts s) :
    ts ≠ [] := by
  cases h with
  | identifier => exact List.cons_ne_nil _ _
  | filter h =>
    cases h
    exact List.cons_ne_nil _ _
  | condition _ h =>
    obtain ⟨t, tail, rfl, -⟩ := (reaches_of_derives h).1
    exact List.cons_ne_nil _ _

/-- A semicolon starts no statement. -/
theorem DerivesStatement.head_ne {ts : List Token} {s : Statement} (h : DerivesStatement ts s)
    (rest more : List Token) : ts ++ rest ≠ .symbol .semicolon :: more := by
  intro heq
  obtain ⟨t, tail, rfl⟩ := List.exists_cons_of_ne_nil (ne_nil_of_statement h)
  cases heq
  exact Bool.false_ne_true (continues_of_statement h _ (.head _)).symm

/-- A semicolon at the start of a filter is left out. -/
theorem derivesStatements_semicolon {ts : List Token} {ss : List Statement} :
    DerivesStatements (.symbol .semicolon :: ts) ss ↔ DerivesStatements ts ss := by
  refine ⟨fun h => ?_, .empty⟩
  generalize hus : Token.symbol .semicolon :: ts = us at h
  cases h with
  | done => cases hus
  | empty h =>
    cases hus
    exact h
  | last h => exact absurd (by simpa using hus.symm) (h.head_ne [] ts)
  | cons h _ => exact absurd hus.symm (h.head_ne _ ts)

end TableFilter.Grammar
