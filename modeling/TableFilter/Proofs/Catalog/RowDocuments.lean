import TableFilter.Proofs.Catalog.DataSets

/-!
# Rows as documents hold them

A row of a document is an array of data in the order of columns, or an object with data by column.
For an object, each column in turn takes the first member of its name away from what is left of the
members. Names of columns differ, so no column takes what another one would have taken: the datum
for a column is the same in what is left as it was at first, and a member is left over exactly if no
column has its name or a member before has a name of the same column.

## Main definitions

* `Column.takes`: a member has the name of a column
* `Column.datumIn`: the datum that members hold for a column
* `Covers`: each member has a column of its own
* `HoldsByName`: members that hold data by the names of their columns, in any order and spelling
* `Stores`: a row that holds data by the places of their columns

## Main results

* `arrange_fst`, `arrange_snd_eq_nil_iff`: what columns take of members, and what is left
* `rowOfData_eq_ok`, `exists_of_rowOfData_eq_error`: what comes of data, a row or an error
* `row_documents_alike`: arrays and objects lead to the same rows
-/

namespace TableFilter

open TableFilter.Text Result

/-- A member has the name of a column, up to the case of ASCII letters. -/
def Column.takes (c : Column) (m : String × Datum) : Bool := sameAsciiCase c.name m.1

/-- The datum of the first member that has the name of a column, or a null. -/
def Column.datumIn (c : Column) (members : List (String × Datum)) : Datum :=
  ((members.find? c.takes).map (·.2)).getD .null

/-- Each member has the name of a column, and no two members have the name of the same one. -/
structure Covers (cs : List Column) (members : List (String × Datum)) : Prop where
  /-- A member has the name of a column. -/
  known : ∀ m ∈ members, ∃ c ∈ cs, c.takes m = true
  /-- A column has one member at most. -/
  once : ∀ c ∈ cs, members.countP c.takes ≤ 1

/-- Members that hold data, in any order: each datum has the name of the column at its place, in any
spelling. -/
def HoldsByName (cs : List Column) (items : List Datum) (members : List (String × Datum)) : Prop :=
  ∃ inOrder, List.Forall₂ (fun c m => Column.takes c m = true) (cs.take items.length) inOrder ∧
    inOrder.map (·.2) = items ∧ inOrder.Perm members

/-- A row that a table stores for data: for each column the value of the datum at its place, or a
null of its type if there is none. -/
structure Stores (cs : List Column) (items : List Datum) (row : Row) : Prop where
  /-- There is a value for each column. -/
  length_eq : row.length = cs.length
  /-- A datum has the value that the type of the column makes of it. -/
  given : ∀ (k : ℕ) (c : Column) (d : Datum), cs[k]? = some c → items[k]? = some d →
    ∃ v, row[k]? = some v ∧ d.toValue c.type = .ok v
  /-- Where a datum is missing there is a null. -/
  missing : ∀ (k : ℕ) (c : Column), cs[k]? = some c → items[k]? = none →
    row[k]? = some (.null c.type)

variable {c : Column} {cs : List Column} {m : String × Datum}
  {members others : List (String × Datum)} {ds items : List Datum} {row : Row}

/-! ### Members of columns -/

/-- Columns whose names differ take different members. -/
theorem takes_eq_false {a b : Column} (differ : sameAsciiCase a.name b.name = false)
    (ha : a.takes m = true) : b.takes m = false := by
  refine Bool.eq_false_iff.2 fun hb => Bool.eq_false_iff.1 differ ?_
  have hlower := (eq_of_beq ha).trans (eq_of_beq hb).symm
  exact beq_of_eq hlower

theorem sameAsciiCase_comm (a b : String) : sameAsciiCase a b = sameAsciiCase b a :=
  BEq.comm

/-- What the first column takes, no other does. -/
theorem NamesDiffer.takes_tail (differ : NamesDiffer ((c :: cs).map (·.name)))
    (hc : c.takes m = true) : ∀ d ∈ cs, d.takes m = false := fun _ hd =>
  takes_eq_false ((List.pairwise_cons.1 differ).1 _ (List.mem_map_of_mem hd)) hc

/-- What another column takes, the first does not. -/
theorem NamesDiffer.takes_head (differ : NamesDiffer ((c :: cs).map (·.name)))
    (known : ∃ d ∈ cs, d.takes m = true) : c.takes m = false := by
  obtain ⟨d, hd, htakes⟩ := known
  refine takes_eq_false ?_ htakes
  rw [sameAsciiCase_comm]
  exact (List.pairwise_cons.1 differ).1 _ (List.mem_map_of_mem hd)

theorem NamesDiffer.tail (differ : NamesDiffer ((c :: cs).map (·.name))) :
    NamesDiffer (cs.map (·.name)) :=
  (List.pairwise_cons.1 differ).2

theorem Covers.perm (h : Covers cs members) (perm : members.Perm others) : Covers cs others where
  known := fun m hm => h.known m (perm.mem_iff.2 hm)
  once := fun c hc => perm.countP_eq c.takes ▸ h.once c hc

theorem covers_cons_iff (differ : NamesDiffer ((c :: cs).map (·.name))) (hm : c.takes m = true) :
    Covers (c :: cs) (m :: members) ↔ Covers cs members := by
  have others : ∀ d ∈ cs, (m :: members).countP d.takes = members.countP d.takes := fun d hd =>
    List.countP_cons_of_neg (by simp [differ.takes_tail hm d hd])
  have own : (m :: members).countP c.takes = members.countP c.takes + 1 :=
    List.countP_cons_of_pos hm
  constructor
  · rintro ⟨known, once⟩
    have none : members.countP c.takes = 0 := by
      have := once c List.mem_cons_self
      omega
    refine ⟨fun n hn => ?_, fun d hd => others d hd ▸ once d (List.mem_cons_of_mem _ hd)⟩
    obtain ⟨d, hd, htakes⟩ := known n (List.mem_cons_of_mem _ hn)
    rcases List.mem_cons.1 hd with rfl | hd
    · exact absurd htakes (List.countP_eq_zero.1 none n hn)
    · exact ⟨d, hd, htakes⟩
  · rintro ⟨known, once⟩
    have none : members.countP c.takes = 0 :=
      List.countP_eq_zero.2 fun n hn => by simp [differ.takes_head (known n hn)]
    constructor
    · rintro n (_ | ⟨_, hn⟩)
      · exact ⟨c, List.mem_cons_self, hm⟩
      · obtain ⟨d, hd, htakes⟩ := known n hn
        exact ⟨d, List.mem_cons_of_mem _ hd, htakes⟩
    · rintro d (_ | ⟨_, hd⟩)
      · omega
      · exact others d hd ▸ once d hd

/-- A column without a member does not matter. -/
theorem covers_cons_of_none (none : ∀ m ∈ members, c.takes m = false) :
    Covers (c :: cs) members ↔ Covers cs members := by
  constructor
  · rintro ⟨known, once⟩
    refine ⟨fun m hm => ?_, fun d hd => once d (List.mem_cons_of_mem _ hd)⟩
    obtain ⟨d, hd, htakes⟩ := known m hm
    rcases List.mem_cons.1 hd with rfl | hd
    · exact nomatch htakes.symm.trans (none m hm)
    · exact ⟨d, hd, htakes⟩
  · rintro ⟨known, once⟩
    constructor
    · intro m hm
      obtain ⟨d, hd, htakes⟩ := known m hm
      exact ⟨d, List.mem_cons_of_mem _ hd, htakes⟩
    · rintro d (_ | ⟨_, hd⟩)
      · rw [List.countP_eq_zero.2 fun m hm => by simp [none m hm]]
        exact Nat.zero_le 1
      · exact once d hd

/-- Members do not have a column each exactly if one is unknown or two are for the same column. -/
theorem not_covers_iff : ¬ Covers cs members ↔
    (∃ m ∈ members, ∀ c ∈ cs, c.takes m = false) ∨ ∃ c ∈ cs, 2 ≤ members.countP c.takes := by
  constructor
  · intro h
    by_contra none
    obtain ⟨unknown, twice⟩ := not_or.1 none
    refine h ⟨fun m hm => ?_, fun c hc => ?_⟩
    · by_contra alone
      exact unknown
        ⟨m, hm, fun c hc => Bool.eq_false_iff.2 fun htakes => alone ⟨c, hc, htakes⟩⟩
    · by_contra many
      exact twice ⟨c, hc, Nat.lt_of_not_le many⟩
  · rintro (⟨m, hm, unknown⟩ | ⟨c, hc, twice⟩) h
    · obtain ⟨c, hc, htakes⟩ := h.known m hm
      exact nomatch htakes.symm.trans (unknown c hc)
    · have := h.once c hc
      omega

/-! ### Taking members -/

theorem takeMember_eq (c : Column) (members : List (String × Datum)) :
    takeMember c members = ((members.find? c.takes).map (·.2), members.eraseP c.takes) := by
  induction members with
  | nil => rfl
  | cons m rest ih =>
    rw [takeMember, ih, List.find?_cons, List.eraseP_cons]
    change (if c.takes m = true then _ else _) = _
    cases c.takes m <;> rfl

theorem arrange_cons (c : Column) (cs : List Column) (members : List (String × Datum)) :
    arrange (c :: cs) members =
      (c.datumIn members :: (arrange cs (members.eraseP c.takes)).1,
        (arrange cs (members.eraseP c.takes)).2) := by
  rw [arrange, takeMember_eq]
  rfl

/-- Taking a member away does not matter to columns that do not take it. -/
theorem find?_eraseP {α : Type} {p q : α → Bool} (h : ∀ a, p a = true → q a = false) (l : List α) :
    (l.eraseP p).find? q = l.find? q := by
  induction l with
  | nil => rfl
  | cons a l ih =>
    rw [List.eraseP_cons]
    cases hp : p a with
    | true => rw [cond_true, List.find?_cons_of_neg (by simp [h a hp])]
    | false => rw [cond_false, List.find?_cons, List.find?_cons, ih]

/-- What columns take: each the datum that the members held for it at first. -/
theorem arrange_fst (differ : NamesDiffer (cs.map (·.name))) (members : List (String × Datum)) :
    (arrange cs members).1 = cs.map (·.datumIn members) := by
  induction cs generalizing members with
  | nil => rfl
  | cons c cs ih =>
    rw [arrange_cons, List.map_cons, ih differ.tail]
    refine congrArg _ (List.map_congr_left fun d hd => ?_)
    rw [Column.datumIn, find?_eraseP fun m hm => differ.takes_tail hm d hd]
    rfl

/-- Nothing is left exactly if each member has a column of its own. -/
theorem arrange_snd_eq_nil_iff (differ : NamesDiffer (cs.map (·.name))) :
    (arrange cs members).2 = [] ↔ Covers cs members := by
  induction cs generalizing members with
  | nil =>
    refine ⟨fun h => ?_, fun h => List.eq_nil_iff_forall_not_mem.2 fun m hm => ?_⟩
    · obtain rfl : members = [] := h
      exact ⟨nofun, nofun⟩
    · obtain ⟨c, hc, -⟩ := h.known m hm
      exact nomatch hc
  | cons c cs ih =>
    rw [arrange_cons, ih differ.tail]
    by_cases some : ∃ m ∈ members, c.takes m = true
    · obtain ⟨m, hmem, hm⟩ := some
      obtain ⟨first, before, after, -, hfirst, rfl, herase⟩ := List.exists_of_eraseP hmem hm
      rw [herase, ← covers_cons_iff differ hfirst]
      exact ⟨fun h => h.perm List.perm_middle.symm, fun h => h.perm List.perm_middle⟩
    · have none : ∀ m ∈ members, c.takes m = false := by simpa using some
      rw [List.eraseP_of_forall_not (by simpa using none), covers_cons_of_none none]

/-- What is left is among the members. -/
theorem mem_of_mem_arrange (h : m ∈ (arrange cs members).2) : m ∈ members := by
  induction cs generalizing members with
  | nil => exact h
  | cons c cs ih =>
    rw [arrange_cons] at h
    exact List.mem_of_mem_eraseP (ih h)

/-! ### Rows of data -/

theorem headD_eq_getElem? (ds : List Datum) : ds.headD .null = (ds[0]?).getD .null := by
  rw [List.headD_eq_head?_getD, List.head?_eq_getElem?]

/-- Data by column lead to the same row as data by place, where nulls stand for missing data. -/
theorem rowOfData_map {f : Column → Datum}
    (h : ∀ (k : ℕ) (c : Column), cs[k]? = some c → f c = (ds[k]?).getD .null) :
    rowOfData cs (cs.map f) = rowOfData cs ds := by
  induction cs generalizing ds with
  | nil => rfl
  | cons c cs ih =>
    have head : f c = ds.headD .null := (h 0 c rfl).trans (headD_eq_getElem? ds).symm
    have tail : rowOfData cs (cs.map f) = rowOfData cs ds.tail :=
      ih fun k c' hc => List.getElem?_tail ▸ h (k + 1) c' hc
    rw [List.map_cons, rowOfData, rowOfData, List.headD_cons, List.tail_cons, head, tail]

theorem rowOfData_cons_eq_ok : rowOfData (c :: cs) ds = .ok row ↔
    ∃ v rest, (ds.headD .null).toValue c.type = .ok v ∧ rowOfData cs ds.tail = .ok rest ∧
      v :: rest = row := by
  rw [rowOfData, bind_eq_ok]
  simp only [mapError_eq_ok, bind_eq_ok, Except.ok.injEq, exists_and_left]

theorem stores_cons_iff : Stores (c :: cs) ds row ↔
    ∃ v rest, (ds.headD .null).toValue c.type = .ok v ∧ Stores cs ds.tail rest ∧
      v :: rest = row := by
  constructor
  · rintro ⟨length_eq, given, missing⟩
    obtain ⟨v, rest, rfl⟩ := List.exists_cons_of_length_eq_add_one length_eq
    refine ⟨v, rest, ?_, ⟨Nat.succ.inj length_eq, ?_, ?_⟩, rfl⟩
    · cases ds with
      | nil => exact congrArg _ (Option.some.inj (missing 0 c rfl rfl)).symm
      | cons d ds =>
        obtain ⟨w, hw, hv⟩ := given 0 c d rfl rfl
        exact Option.some.inj hw ▸ hv
    · exact fun k c' d hc hd => given (k + 1) c' d hc (List.getElem?_tail ▸ hd)
    · exact fun k c' hc hd => missing (k + 1) c' hc (List.getElem?_tail ▸ hd)
  · rintro ⟨v, rest, hv, ⟨length_eq, given, missing⟩, rfl⟩
    rw [headD_eq_getElem?] at hv
    refine ⟨congrArg Nat.succ length_eq, ?_, ?_⟩
    · rintro (_ | k) c' d hc hd
      · obtain rfl := Option.some.inj hc
        rw [hd] at hv
        exact ⟨v, rfl, hv⟩
      · exact given k c' d hc (List.getElem?_tail ▸ hd)
    · rintro (_ | k) c' hc hd
      · obtain rfl := Option.some.inj hc
        rw [hd] at hv
        exact congrArg some (Except.ok.inj hv).symm
      · exact missing k c' hc (List.getElem?_tail ▸ hd)

/-- Data are stored as the values that the types of their columns make of them. -/
theorem rowOfData_eq_ok : rowOfData cs ds = .ok row ↔ Stores cs ds row := by
  induction cs generalizing ds row with
  | nil =>
    constructor
    · intro h
      obtain rfl := Except.ok.inj h
      exact ⟨rfl, nofun, nofun⟩
    · intro h
      rw [List.length_eq_zero_iff.1 h.length_eq]
      rfl
  | cons c cs ih =>
    rw [rowOfData_cons_eq_ok, stores_cons_iff]
    simp only [ih]

/-- Data are refused for a column, and for the value that it cannot have. -/
theorem exists_of_rowOfData_eq_error {e : RowFault} (h : rowOfData cs ds = .error e) :
    ∃ c ∈ cs, ∃ cause, e = .column c.name cause := by
  induction cs generalizing ds with
  | nil => cases h
  | cons c cs ih =>
    rw [rowOfData] at h
    cases hv : (ds.headD .null).toValue c.type with
    | error cause =>
      rw [hv] at h
      exact ⟨c, List.mem_cons_self, cause, (Except.error.inj h).symm⟩
    | ok v =>
      rw [hv] at h
      cases hrest : rowOfData cs ds.tail with
      | error cause =>
        rw [hrest] at h
        obtain rfl := Except.error.inj h
        obtain ⟨c', hc', found⟩ := ih hrest
        exact ⟨c', List.mem_cons_of_mem _ hc', found⟩
      | ok rest =>
        rw [hrest] at h
        cases h

/-! ### Arrays and objects -/

theorem datumIn_cons_of_pos (hm : c.takes m = true) : c.datumIn (m :: members) = m.2 := by
  rw [Column.datumIn, List.find?_cons_of_pos hm]
  rfl

theorem datumIn_cons_of_neg (hm : c.takes m = false) :
    c.datumIn (m :: members) = c.datumIn members := by
  rw [Column.datumIn, List.find?_cons_of_neg (by simp [hm])]
  rfl

/-- The order of members does not matter to a column with one member at most. -/
theorem datumIn_perm (perm : members.Perm others) (once : members.countP c.takes ≤ 1) :
    c.datumIn members = c.datumIn others := by
  induction perm with
  | nil => rfl
  | @cons m left right _ ih =>
    cases hm : c.takes m with
    | true => rw [datumIn_cons_of_pos hm, datumIn_cons_of_pos hm]
    | false =>
      rw [datumIn_cons_of_neg hm, datumIn_cons_of_neg hm]
      exact ih (by rwa [List.countP_cons_of_neg (by simp [hm])] at once)
  | swap m n rest =>
    cases hm : c.takes m with
    | false =>
      cases hn : c.takes n <;> simp [datumIn_cons_of_pos, datumIn_cons_of_neg, hm, hn]
    | true =>
      have hn : c.takes n = false := by
        by_contra hn
        rw [List.countP_cons_of_pos (by simpa using hn), List.countP_cons_of_pos hm] at once
        omega
      simp [datumIn_cons_of_pos, datumIn_cons_of_neg, hm, hn]
  | trans first _ ih ih' => exact (ih once).trans (ih' (first.countP_eq _ ▸ once))

/-- Members in the order of columns have a column each, and this has the datum of its member. -/
theorem covers_of_forall₂ (differ : NamesDiffer (cs.map (·.name)))
    (htakes : List.Forall₂ (fun c m => Column.takes c m = true) (cs.take members.length) members) :
    Covers cs members ∧ ∀ (k : ℕ) (c : Column), cs[k]? = some c →
      c.datumIn members = ((members.map (·.2))[k]?).getD .null := by
  induction cs generalizing members with
  | nil =>
    rw [List.take_nil, List.forall₂_nil_left_iff] at htakes
    subst htakes
    exact ⟨⟨nofun, nofun⟩, nofun⟩
  | cons c cs ih =>
    cases members with
    | nil => exact ⟨⟨nofun, fun _ _ => Nat.zero_le 1⟩, fun _ _ _ => rfl⟩
    | cons m members =>
      obtain ⟨hm, htakes⟩ := List.forall₂_cons.1 htakes
      obtain ⟨covers, same⟩ := ih differ.tail htakes
      refine ⟨(covers_cons_iff differ hm).2 covers, ?_⟩
      rintro (_ | k) d hd
      · obtain rfl := Option.some.inj hd
        exact datumIn_cons_of_pos hm
      · rw [datumIn_cons_of_neg (differ.takes_tail hm d (List.mem_of_getElem? hd)), same k d hd]
        rfl

/-- Members that hold data by the names of columns have a column each, and this has the datum at its
place. -/
theorem HoldsByName.covers (h : HoldsByName cs items members)
    (differ : NamesDiffer (cs.map (·.name))) :
    Covers cs members ∧ ∀ (k : ℕ) (c : Column), cs[k]? = some c →
      c.datumIn members = (items[k]?).getD .null := by
  obtain ⟨inOrder, htakes, rfl, perm⟩ := h
  rw [List.length_map] at htakes
  obtain ⟨covers, same⟩ := covers_of_forall₂ differ htakes
  refine ⟨covers.perm perm, fun k c hc => ?_⟩
  rw [← same k c hc]
  exact (datumIn_perm perm (covers.once c (List.mem_of_getElem? hc))).symm

theorem HoldsByName.length_le (h : HoldsByName cs items members) : items.length ≤ cs.length := by
  obtain ⟨inOrder, htakes, rfl, -⟩ := h
  have := htakes.length_eq
  rw [List.length_take, List.length_map] at this
  rw [List.length_map]
  omega

namespace Table

variable {t : Table}

/-- An array that is not too long is the data of its row. -/
theorem rowOf_values (h : items.length ≤ t.columns.length) :
    t.rowOf (.values items) = rowOfData t.columns items :=
  if_neg (Nat.not_lt.2 h)

theorem rowOf_values_eq_tooMany_iff :
    t.rowOf (.values items) = .error (.tooManyValues items.length t.columns.length) ↔
      t.columns.length < items.length := by
  refine ⟨fun h => ?_, fun h => if_pos h⟩
  by_contra hle
  rw [rowOf_values (Nat.not_lt.1 hle)] at h
  obtain ⟨c, -, cause, heq⟩ := exists_of_rowOfData_eq_error h
  cases heq

/-- An object whose members have a column each has the datum of a member for each column. -/
theorem rowOf_named_of_covers (differ : NamesDiffer (t.columns.map (·.name)))
    (h : Covers t.columns members) :
    t.rowOf (.named members) = rowOfData t.columns (t.columns.map (·.datumIn members)) := by
  rw [rowOf, ← arrange_fst differ]
  have hrest := (arrange_snd_eq_nil_iff differ).2 h
  rcases harrange : arrange t.columns members with ⟨data, rest⟩
  rw [harrange] at hrest
  dsimp only at hrest
  subst hrest
  rfl

/-- Any other object is refused for the name of a member. -/
theorem exists_rowOf_named_of_not_covers (differ : NamesDiffer (t.columns.map (·.name)))
    (h : ¬ Covers t.columns members) :
    ∃ m ∈ members, t.rowOf (.named members) = .error (.unknownColumn m.1) := by
  rw [← arrange_snd_eq_nil_iff differ] at h
  rw [rowOf]
  rcases harrange : arrange t.columns members with ⟨data, _ | ⟨m, rest⟩⟩
  · rw [harrange] at h
    exact absurd rfl h
  · have hm : m ∈ (arrange t.columns members).2 := by
      rw [harrange]
      exact List.mem_cons_self
    exact ⟨m, mem_of_mem_arrange hm, rfl⟩

theorem exists_rowOf_named_iff (differ : NamesDiffer (t.columns.map (·.name))) :
    (∃ m ∈ members, t.rowOf (.named members) = .error (.unknownColumn m.1)) ↔
      ¬ Covers t.columns members := by
  refine ⟨?_, exists_rowOf_named_of_not_covers differ⟩
  rintro ⟨m, -, h⟩ covers
  rw [rowOf_named_of_covers differ covers] at h
  obtain ⟨c, -, cause, heq⟩ := exists_of_rowOfData_eq_error h
  cases heq

/-- Data by the names of their columns lead to what data by place lead to. -/
theorem rowOf_named_of_holdsByName (differ : NamesDiffer (t.columns.map (·.name)))
    (h : HoldsByName t.columns items members) :
    t.rowOf (.named members) = t.rowOf (.values items) := by
  obtain ⟨covers, same⟩ := h.covers differ
  rw [rowOf_named_of_covers differ covers, rowOf_values h.length_le]
  exact rowOfData_map same

end Table

/-- **Arrays and objects load alike.** Where the names of columns differ, an object that holds data
by the names of their columns, in any order and any spelling, leads to the same row as the array of
the data, or to the same error. The row has the values of the data, and nulls for missing data. An
object is refused for the name of a member exactly if a member has the name of no column or two have
that of the same one. An array is refused for its length exactly if it has more data than there are
columns. -/
theorem row_documents_alike {t : Table} (differ : NamesDiffer (t.columns.map (·.name))) :
    (∀ items members, HoldsByName t.columns items members →
      t.rowOf (.named members) = t.rowOf (.values items)) ∧
    (∀ items, items.length ≤ t.columns.length → ∀ row,
      t.rowOf (.values items) = .ok row ↔ Stores t.columns items row) ∧
    (∀ members, (∃ m ∈ members, t.rowOf (.named members) = .error (.unknownColumn m.1)) ↔
      (∃ m ∈ members, ∀ c ∈ t.columns, c.takes m = false) ∨
        ∃ c ∈ t.columns, 2 ≤ members.countP c.takes) ∧
    ∀ items, t.rowOf (.values items) = .error (.tooManyValues items.length t.columns.length) ↔
      t.columns.length < items.length := by
  refine ⟨fun items members h => t.rowOf_named_of_holdsByName differ h, fun items hle row => ?_,
    fun members => (Table.exists_rowOf_named_iff differ).trans not_covers_iff,
    fun items => Table.rowOf_values_eq_tooMany_iff⟩
  rw [Table.rowOf_values hle]
  exact rowOfData_eq_ok

/-- An object in another order and spelling than the columns has the row of an array. A missing
value is a null, and two names of one column or an array that is too long are refused. -/
theorem doubling_rowOf :
    NamesDiffer (Table.doubling.columns.map (·.name)) ∧
      HoldsByName Table.doubling.columns [.string "1", .string " 2"]
        [("TWICE", .string " 2"), ("n", .string "1")] ∧
      Table.doubling.rowOf (.named [("TWICE", .string " 2"), ("n", .string "1")]) =
        Table.doubling.rowOf (.values [.string "1", .string " 2"]) ∧
      Table.doubling.rowOf (.values [.string "1", .string " 2"]) = .ok [.int32 1, .int32 2] ∧
      Stores Table.doubling.columns [.string "1"] [.int32 1, .null .int32] ∧
      (∃ m ∈ [("n", Datum.null), ("N", Datum.null)],
        Table.doubling.rowOf (.named [("n", .null), ("N", .null)]) = .error (.unknownColumn m.1)) ∧
      Table.doubling.rowOf (.values [.null, .null, .null]) = .error (.tooManyValues 3 2) := by
  have differ := Table.doubling_reachable.wellFormed.names_differ
  obtain ⟨alike, stored, refused, tooMany⟩ := row_documents_alike differ
  have byName : HoldsByName Table.doubling.columns [.string "1", .string " 2"]
      [("TWICE", .string " 2"), ("n", .string "1")] :=
    ⟨[("n", .string "1"), ("TWICE", .string " 2")], .cons rfl (.cons rfl .nil), rfl, .swap _ _ _⟩
  refine ⟨differ, byName, alike _ _ byName, by rfl, ?_, ?_, ?_⟩
  · exact (stored [.string "1"] (by decide) _).1 (by rfl)
  · exact (refused _).2 (.inr ⟨⟨"N", .int32, none⟩, List.mem_cons_self, by decide⟩)
  · exact (tooMany [.null, .null, .null]).2 (by decide)

end TableFilter
