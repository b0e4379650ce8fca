import TableFilter.Proofs.Selection.Rows

/-!
# The order of sort keys

Rows are sorted by comparing their keys, one column after the other. Sorting asks of a comparison
that it is a total preorder, and comparing values is none: a null and a double that is no number
have no order, values of some types cannot be compared, and where they can the order depends on the
two types. None of this comes up among keys. The keys of one column are of its type, as stored
values fit their columns and computed ones are converted, and what has no order is no key but comes
last.

## Main definitions

* `Preorders`: a comparison is a total preorder among the elements with a property
* `OrderTerm.HasKey`: the keys of a column
* `Table.BoundOrder`: columns to sort by that were bound on a table up to now
* `Table.KeysOf`: the keys of the rows of a table

## Main results

* `compareKey_preorders`, `compareKeys_preorders`: keys of one column and of several
* `Table.BoundOrder.hasKeys`: the keys of a row are keys of the columns
* `sortKeys_preordered`: comparing the keys of the rows of a table
-/

namespace TableFilter

/-! ### Total preorders -/

/-- A comparison is a total preorder among the elements with a property. -/
structure Preorders {α : Type} (P : α → Prop) (cmp : α → α → Ordering) : Prop where
  /-- An element compares as equal to itself. -/
  refl : ∀ {a}, P a → cmp a a = .eq
  /-- Comparing the other way round gives the opposite. -/
  swap : ∀ {a b}, P a → P b → cmp a b = (cmp b a).swap
  /-- An element that is not greater than a second is not greater than a third that the second is
  not greater than. -/
  trans : ∀ {a b c}, P a → P b → P c → (cmp a b).isLE = true → (cmp b c).isLE = true →
    (cmp a c).isLE = true

namespace Preorders

variable {α : Type} {P : α → Prop} {cmp : α → α → Ordering} {a b c : α}

/-- A comparison that decides a weak order is a total preorder. -/
theorem of_weaklyOrders {lt : α → α → Prop} (h : WeaklyOrders P lt)
    (hlt : ∀ a b, P a → P b → (cmp a b = .lt ↔ lt a b))
    (hgt : ∀ a b, P a → P b → (cmp a b = .gt ↔ lt b a)) : Preorders P cmp where
  refl {a} ha := by
    have hnot : ¬lt a a := fun haa => h.asymm ha ha haa haa
    cases hcmp : cmp a a with
    | eq => rfl
    | lt => exact absurd ((hlt a a ha ha).1 hcmp) hnot
    | gt => exact absurd ((hgt a a ha ha).1 hcmp) hnot
  swap {a b} ha hb := by
    cases hcmp : cmp b a with
    | lt => exact (hgt a b ha hb).2 ((hlt b a hb ha).1 hcmp)
    | gt => exact (hlt a b ha hb).2 ((hgt b a hb ha).1 hcmp)
    | eq =>
      have hba : ¬lt b a := fun h => nomatch hcmp.symm.trans ((hlt b a hb ha).2 h)
      have hab : ¬lt a b := fun h => nomatch hcmp.symm.trans ((hgt b a hb ha).2 h)
      rw [← hlt a b ha hb] at hab
      rw [← hgt a b ha hb] at hba
      cases hcmp' : cmp a b with
      | eq => rfl
      | lt => exact absurd hcmp' hab
      | gt => exact absurd hcmp' hba
  trans {a b c} ha hb hc hab hbc := by
    have isLE_iff {x y : α} (hx : P x) (hy : P y) : (cmp x y).isLE = true ↔ ¬lt y x :=
      Ordering.ne_gt_iff_isLE.symm.trans (not_congr (hgt x y hx hy))
    rw [isLE_iff ha hb] at hab
    rw [isLE_iff hb hc] at hbc
    rw [isLE_iff ha hc]
    exact fun hca => (h.cotrans hc hb ha hca).elim hbc hab

theorem mono {Q : α → Prop} (h : Preorders P cmp) (imp : ∀ a, Q a → P a) : Preorders Q cmp where
  refl ha := h.refl (imp _ ha)
  swap ha hb := h.swap (imp _ ha) (imp _ hb)
  trans ha hb hc := h.trans (imp _ ha) (imp _ hb) (imp _ hc)

/-- A comparison of elements by what they are made of. -/
theorem of_image {β : Type} {Q : β → Prop} {f : β → α} (h : Preorders Q fun x y => cmp (f x) (f y))
    (image : ∀ a, P a → ∃ b, Q b ∧ f b = a) : Preorders P cmp where
  refl ha := by
    obtain ⟨x, hx, rfl⟩ := image _ ha
    exact h.refl hx
  swap ha hb := by
    obtain ⟨x, hx, rfl⟩ := image _ ha
    obtain ⟨y, hy, rfl⟩ := image _ hb
    exact h.swap hx hy
  trans ha hb hc := by
    obtain ⟨x, hx, rfl⟩ := image _ ha
    obtain ⟨y, hy, rfl⟩ := image _ hb
    obtain ⟨z, hz, rfl⟩ := image _ hc
    exact h.trans hx hy hz

/-- Of two steps between elements that are equal none goes up. -/
theorem eq_of_eq (h : Preorders P cmp) (ha : P a) (hb : P b) (hc : P c)
    (hab : (cmp a b).isLE = true) (hbc : (cmp b c).isLE = true) (hac : cmp a c = .eq) :
    cmp a b = .eq ∧ cmp b c = .eq := by
  have hca : (cmp c a).isLE = true := by rw [h.swap hc ha, hac]; rfl
  have hba := h.trans hb hc ha hbc hca
  have hcb := h.trans hc ha hb hca hab
  rw [h.swap hb ha] at hba
  rw [h.swap hc hb] at hcb
  constructor
  · revert hab hba
    cases cmp a b <;> decide
  · revert hbc hcb
    cases cmp b c <;> decide

end Preorders

/-! ### Keys of one column -/

/-- The keys of a column: none, or a value of its type that can be sorted by. -/
def OrderTerm.HasKey (o : OrderTerm) (k : Option Value) : Prop :=
  ∀ v, k = some v → v.IsKeyOf o.column.head.type

/-- Two values of one type that can be sorted by have an order. -/
theorem exists_comparePresent {v w : Value} {type : DataType} (exact : Bool)
    (hv : v.IsKeyOf type) (hw : w.IsKeyOf type) :
    ∃ order, Value.comparePresent exact v w = some order := by
  have htype : v.dataType = w.dataType := hv.dataType.trans hw.dataType.symm
  cases v with
  | null => exact nomatch hv.present
  | double x =>
    cases w with
    | double y => exact exists_compareDouble (hv.number x rfl) (hw.number y rfl)
    | null => exact nomatch hw.present
    | _ => exact nomatch htype
  | _ =>
    cases w with
    | null => exact nomatch hw.present
    | _ => first | exact ⟨_, rfl⟩ | exact nomatch htype

/-- The keys of a column are in a total preorder. -/
theorem compareKey_preorders (o : OrderTerm) : Preorders o.HasKey (compareKey o) := by
  have results : Preorders (HasType o.column.head.type) fun r s =>
      compareKey o (sortKey r) (sortKey s) :=
    .of_weaklyOrders (places_weaklyOrders o _) (fun _ _ => compareKey_eq_lt)
      fun _ _ => compareKey_eq_gt
  refine results.of_image fun k hk => ?_
  cases k with
  | none =>
    refine ⟨.ok (.null o.column.head.type), ?_, rfl⟩
    rintro _ ⟨⟩
    rfl
  | some v =>
    have hv := hk v rfl
    refine ⟨.ok v, ?_, sortKey_eq_some.2 ⟨rfl, hv.present, hv.number⟩⟩
    rintro _ ⟨⟩
    exact hv.dataType

/-! ### Keys of several columns -/

/-- The value of a key at a place can be sorted by, in the type of the column at this place. -/
theorem OrderTerm.hasKey_getElem? {os : List OrderTerm} {ks : List (Option Value)}
    (h : List.Forall₂ OrderTerm.HasKey os ks) {k : Nat} {o : OrderTerm} {v : Value}
    (ho : os[k]? = some o) (hv : ks[k]? = some (some v)) : v.IsKeyOf o.column.head.type := by
  obtain ⟨hcolumn, rfl⟩ := List.getElem?_eq_some_iff.1 ho
  obtain ⟨hkey, heq⟩ := List.getElem?_eq_some_iff.1 hv
  exact h.get hcolumn hkey v heq

theorem isLE_of_then {x y : Ordering} (h : (x.then y).isLE = true) : x.isLE = true := by
  cases x with
  | gt => exact h
  | lt | eq => rfl

/-- The keys of columns one after the other are in a total preorder, of which the first column
decides where it tells two keys apart. -/
theorem compareKeys_preorders (os : List OrderTerm) :
    Preorders (List.Forall₂ OrderTerm.HasKey os) (compareKeys os) := by
  induction os with
  | nil =>
    refine ⟨?_, ?_, ?_⟩
    · rintro _ ⟨⟩
      rfl
    · rintro _ _ ⟨⟩ ⟨⟩
      rfl
    · rintro _ _ _ ⟨⟩ ⟨⟩ ⟨⟩ - -
      rfl
  | cons o os ih =>
    have first := compareKey_preorders o
    refine ⟨?_, ?_, ?_⟩
    · rintro _ (_ | ⟨ha, has⟩)
      rw [compareKeys, first.refl ha, ih.refl has]
      rfl
    · rintro _ _ (_ | ⟨ha, has⟩) (_ | ⟨hb, hbs⟩)
      rw [compareKeys, compareKeys, first.swap ha hb, ih.swap has hbs, Ordering.swap_then]
    · intro _ _ _ hx hy hz
      obtain ⟨a, as, ha, has, rfl⟩ := List.forall₂_cons_left_iff.1 hx
      obtain ⟨b, bs, hb, hbs, rfl⟩ := List.forall₂_cons_left_iff.1 hy
      obtain ⟨c, cs, hc, hcs, rfl⟩ := List.forall₂_cons_left_iff.1 hz
      rw [compareKeys, compareKeys, compareKeys]
      intro hab hbc
      have hab₁ := isLE_of_then hab
      have hbc₁ := isLE_of_then hbc
      have hac₁ := first.trans ha hb hc hab₁ hbc₁
      cases hac : compareKey o a c with
      | lt => rfl
      | gt =>
        rw [hac] at hac₁
        cases hac₁
      | eq =>
        -- The first column tells none of the three apart, so the others decide.
        obtain ⟨hab₁, hbc₁⟩ := first.eq_of_eq ha hb hc hab₁ hbc₁ hac
        rw [hab₁] at hab
        rw [hbc₁] at hbc
        exact ih.trans has hbs hcs hab hbc

/-! ### Keys of rows -/

namespace Table

variable {t u : Table} {os : List OrderTerm}

/-- Columns to sort by that were bound on a reachable table, which may have changed since. -/
inductive BoundOrder : Table → List OrderTerm → Prop
  | bindOrder {t : Table} {items : List OrderItem} {os : List OrderTerm} : Reachable t →
      (t.remembering (·.bindOrder items)).1 = .ok os →
      BoundOrder (t.remembering (·.bindOrder items)).2 os
  | change {t u : Table} {os : List OrderTerm} : BoundOrder t os → Changes t u → BoundOrder u os

theorem BoundOrder.reachable (h : t.BoundOrder os) : t.Reachable := by
  induction h with
  | bindOrder reachable _ => exact .change reachable (.binds (.bindOrder _))
  | change _ h ih => exact .change ih h

theorem BoundOrder.resolves (h : t.BoundOrder os) : ∀ o ∈ os, ∃ name, t.Resolves name o.column := by
  induction h with
  | @bindOrder t items os reachable hos =>
    intro o ho
    have hitems := (bindOrder_yields items).remembering reachable.coherent hos
    obtain ⟨item, -, hcolumn⟩ := hitems o ho
    exact ⟨item.column, hcolumn.mono (Changes.columns_isPrefix (.binds (.bindOrder items)))⟩
  | change _ h ih =>
    intro o ho
    obtain ⟨name, hname⟩ := ih o ho
    exact ⟨name, hname.mono h.columns_isPrefix⟩

/-- The keys that some row of a table has at some time. -/
def KeysOf (t : Table) (os : List OrderTerm) (ks : List (Option Value)) : Prop :=
  ∃ clock, ∃ r ∈ t.rows, ks = ((sortKeys ⟨clock, some r⟩ os).run []).1

/-- The keys of a row are keys of the columns. -/
theorem BoundOrder.hasKeys (h : t.BoundOrder os) {ks : List (Option Value)}
    (hks : t.KeysOf os ks) : List.Forall₂ OrderTerm.HasKey os ks := by
  obtain ⟨clock, r, hr, rfl⟩ := hks
  rw [sortKeys_eq h.resolves knownOn_nil, keysOn, List.forall₂_map_right_iff, List.forall₂_same]
  intro o ho v hv
  obtain ⟨name, hname⟩ := h.resolves o ho
  exact (sortKey_eq_some.1 hv).isKeyOf (hname.hasType (h.reachable.fits r hr))

end Table

/-- **Sort keys are in a total preorder.** Among the keys of the rows of a reachable table,
comparing by columns that were bound on it is a total preorder, and two keys of one column that are
there are values that have an order. -/
theorem sortKeys_preordered {t : Table} {os : List OrderTerm} (bound : t.BoundOrder os) :
    Preorders (t.KeysOf os) (compareKeys os) ∧
      ∀ as bs, t.KeysOf os as → t.KeysOf os bs → ∀ (k : Nat) (o : OrderTerm) (v w : Value),
        os[k]? = some o → as[k]? = some (some v) → bs[k]? = some (some w) →
        ∃ order, v.compare o.exact w = .ok (some order) := by
  refine ⟨(compareKeys_preorders os).mono fun _ => bound.hasKeys, ?_⟩
  intro as bs has hbs k o v w ho hv hw
  have hv : v.IsKeyOf o.column.head.type := OrderTerm.hasKey_getElem? (bound.hasKeys has) ho hv
  have hw : w.IsKeyOf o.column.head.type := OrderTerm.hasKey_getElem? (bound.hasKeys hbs) ho hw
  obtain ⟨order, horder⟩ := exists_comparePresent o.exact hv hw
  exact ⟨order, (Value.compare_eq hv hw).trans (congrArg _ horder)⟩

/-- The table of numbers and doubles sorted by doubles, the greatest first. -/
def byDoubles : List OrderItem := [⟨"Twice", false, false⟩]

/-- The column to sort by as it is bound. -/
def doublesDescending : OrderTerm where
  column := ⟨⟨1, "Twice", .int32⟩, some (.binary (.arithmetic .add) (.column ⟨0, "N", .int32⟩)
    (.column ⟨0, "N", .int32⟩))⟩
  ascending := false
  exact := false

/-- The double of two is before the double of one. -/
theorem doubles_preordered :
    (Table.doubling.remembering (·.bindOrder byDoubles)).2.BoundOrder [doublesDescending] ∧
      (Table.doubling.remembering (·.bindOrder byDoubles)).2.KeysOf [doublesDescending]
        [some (.int32 4)] ∧
      (Table.doubling.remembering (·.bindOrder byDoubles)).2.KeysOf [doublesDescending]
        [some (.int32 2)] ∧
      compareKeys [doublesDescending] [some (.int32 4)] [some (.int32 4)] = .eq ∧
      compareKeys [doublesDescending] [some (.int32 4)] [some (.int32 2)] = .lt ∧
      compareKeys [doublesDescending] [some (.int32 2)] [some (.int32 4)] = .gt ∧
      (compareKeys [doublesDescending] [some (.int32 4)] [some (.int32 2)]).isLE = true ∧
      ∃ order, (Value.int32 4).compare false (.int32 2) = .ok (some order) := by
  have bound : (Table.doubling.remembering (·.bindOrder byDoubles)).2.BoundOrder
      [doublesDescending] := .bindOrder Table.doubling_reachable rfl
  have four : (Table.doubling.remembering (·.bindOrder byDoubles)).2.KeysOf [doublesDescending]
      [some (.int32 4)] := ⟨⟨default, default⟩, [.int32 2, .null .int32], by decide, rfl⟩
  have two : (Table.doubling.remembering (·.bindOrder byDoubles)).2.KeysOf [doublesDescending]
      [some (.int32 2)] := ⟨⟨default, default⟩, [.int32 1, .null .int32], by decide, rfl⟩
  have before : compareKeys [doublesDescending] [some (.int32 4)] [some (.int32 2)] = .lt := rfl
  obtain ⟨preorder, ordered⟩ := sortKeys_preordered bound
  refine ⟨bound, four, two, preorder.refl four, before, ?_, ?_,
    ordered _ _ four two 0 doublesDescending _ _ rfl rfl rfl⟩
  · rw [preorder.swap two four, before]
    rfl
  · exact preorder.trans four four two (by rw [preorder.refl four]; rfl) (by rw [before]; rfl)

end TableFilter
