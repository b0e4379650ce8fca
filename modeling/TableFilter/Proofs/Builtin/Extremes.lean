import TableFilter.Proofs.Builtin.Faults
import TableFilter.Proofs.Value.Ranking

/-!
# The largest and the least argument

`MaxOf` and `MinOf` go through their arguments once and keep the best so far. Nulls are passed over.
What is kept at last is better than what it replaced, and so on, but each of these comparisons may
be carried out in a type of its own. The result is an extreme of all arguments where comparing them
is transitive. Where three of them go in a circle, there is an order of arguments in which another
one is better than the result.

## Main definitions

* `SeeksExtreme`: the two functions with what they look for

## Main results

* `bestOf_spec`: what a run keeps at last
* `call_circle_eq`: a circle of three arguments
* `gives_extreme_argument`: what the functions give
-/

namespace TableFilter.Builtin

open Result Value

/-- A function for an extreme argument, with the order in which a better argument stands to the best
so far. -/
inductive SeeksExtreme : Builtin → Ordering → Prop
  | maxOf : SeeksExtreme .maxOf .gt
  | minOf : SeeksExtreme .minOf .lt

section Runs

variable {f : Builtin} {wanted : Ordering} {v best b r : Value} {args vs all : List Value}

/-! ### Keeping the best -/

/-- One of two values is kept: the new one if it comes before the best so far. -/
theorem better_eq_ok (h : better f wanted v best = .ok b) :
    b = v ∧ v.Precedes wanted best ∨ b = best ∧ ¬v.Precedes wanted best := by
  obtain ⟨order, horder, h⟩ := bind_eq_ok.1 h
  cases order with
  | none => cases h
  | some order =>
    have hkept := Except.ok.inj h
    rw [Precedes, horder, Except.ok.injEq, Option.some_inj]
    by_cases hwanted : order = wanted
    · rw [if_pos (beq_iff_eq.2 hwanted)] at hkept
      exact .inl ⟨hkept.symm, hwanted⟩
    · rw [if_neg (mt beq_iff_eq.1 hwanted)] at hkept
      exact .inr ⟨hkept.symm, hwanted⟩

theorem bestOf_mem (h : bestOf f wanted best vs = .ok r) : r ∈ best :: vs := by
  induction vs generalizing best with
  | nil => exact Except.ok.inj h ▸ List.mem_cons_self
  | cons v vs ih =>
    obtain ⟨b, hb, h⟩ := bind_eq_ok.1 h
    rcases List.mem_cons.1 (ih h) with rfl | hmem
    · rcases better_eq_ok hb with ⟨rfl, -⟩ | ⟨rfl, -⟩ <;> simp
    · exact List.mem_cons_of_mem _ (List.mem_cons_of_mem _ hmem)

/-- What comes before the result of a run came before every best so far, and nothing that the run
has gone through does. -/
theorem bestOf_spec (hwanted : wanted ≠ .eq) (htrans : ComparesTransitively all)
    (hbest : best ∈ all) (hvs : ∀ v ∈ vs, v ∈ all) (h : bestOf f wanted best vs = .ok r) :
    (∀ u ∈ all, u.Precedes wanted r → u.Precedes wanted best) ∧
      ∀ v ∈ vs, ¬v.Precedes wanted r := by
  induction vs generalizing best with
  | nil =>
    obtain rfl := Except.ok.inj h
    exact ⟨fun _ _ hu => hu, fun _ hv => nomatch hv⟩
  | cons v vs ih =>
    obtain ⟨hv, hrest⟩ := List.forall_mem_cons.1 hvs
    obtain ⟨b, hb, hrun⟩ := bind_eq_ok.1 h
    rcases better_eq_ok hb with ⟨rfl, hbetter⟩ | ⟨rfl, hworse⟩
    · obtain ⟨before, rest⟩ := ih hv hrest hrun
      refine ⟨fun u hu hur => ?_, List.forall_mem_cons.2 ⟨fun hvr => ?_, rest⟩⟩
      · exact htrans.precedes_trans hwanted hu hv hbest (before u hu hur) hbetter
      · exact not_precedes_self hwanted _ (before _ hv hvr)
    · obtain ⟨before, rest⟩ := ih hbest hrest hrun
      exact ⟨before, List.forall_mem_cons.2 ⟨fun hvr => hworse (before v hv hvr), rest⟩⟩

/-! ### Nulls apart -/

theorem mem_present : v ∈ args.filter (fun v => !v.isNull) ↔ v ∈ args ∧ v.isNull = false := by
  rw [List.mem_filter, Bool.not_eq_true']

/-- The arguments other than nulls decide the result, if there are any. -/
theorem extreme_congr {rest : List Value} (hsome : ∃ v ∈ args, v.isNull = false)
    (hsame : rest.filter (fun v => !v.isNull) = args.filter fun v => !v.isNull) :
    rest ≠ [] ∧ extreme f wanted rest = extreme f wanted args := by
  obtain ⟨v, hv⟩ := hsome
  have hpresent := mem_present.2 hv
  refine ⟨?_, ?_⟩
  · rintro rfl
    rw [← hsame] at hpresent
    cases hpresent
  · rw [extreme, extreme, hsame]
    cases h : args.filter fun v => !v.isNull with
    | nil => exact nomatch h ▸ hpresent
    | cons v vs => rfl

theorem extreme_of_nulls (hargs : args ≠ []) (hnull : ∀ v ∈ args, v.isNull = true)
    (h : extreme f wanted args = .ok r) : args.head? = some r := by
  have hnone : args.filter (fun v => !v.isNull) = [] :=
    List.filter_eq_nil_iff.2 fun v hv => by rw [hnull v hv]; exact Bool.false_ne_true
  obtain ⟨w, rest, rfl⟩ := List.exists_cons_of_ne_nil hargs
  rw [extreme, hnone] at h
  exact congrArg some (Except.ok.inj h)

/-- The result is an argument, and none comes before it where comparing is transitive. -/
theorem extreme_spec (hwanted : wanted ≠ .eq) (hsome : ∃ v ∈ args, v.isNull = false)
    (h : extreme f wanted args = .ok r) :
    (r ∈ args ∧ r.isNull = false) ∧
      (ComparesTransitively args → ∀ v ∈ args, v.isNull = false → ¬v.Precedes wanted r) := by
  obtain ⟨u, hu⟩ := hsome
  rw [extreme] at h
  cases hpresent : args.filter fun v => !v.isNull with
  | nil => exact nomatch hpresent ▸ mem_present.2 hu
  | cons first vs =>
    rw [hpresent] at h
    have hmem (v : Value) (hv : v ∈ first :: vs) : v ∈ args ∧ v.isNull = false :=
      mem_present.1 (hpresent ▸ hv)
    refine ⟨hmem r (bestOf_mem h), fun htrans v hv hnull => ?_⟩
    obtain ⟨before, rest⟩ := bestOf_spec hwanted htrans (hmem first List.mem_cons_self).1
      (fun v hv => (hmem v (List.mem_cons_of_mem _ hv)).1) h
    have hlisted : v ∈ first :: vs := hpresent ▸ mem_present.2 ⟨hv, hnull⟩
    rcases List.mem_cons.1 hlisted with rfl | hlater
    · exact fun hvr => not_precedes_self hwanted v (before v hv hvr)
    · exact rest v hlater

/-! ### Calls -/

theorem SeeksExtreme.ne_eq (hf : SeeksExtreme f wanted) : wanted ≠ .eq := by
  cases hf <;> exact nofun

theorem SeeksExtreme.call_eq (hf : SeeksExtreme f wanted) (clock : Clock) (hargs : args ≠ []) :
    call clock f args = extreme f wanted args := by
  obtain ⟨v, vs, rfl⟩ := List.exists_cons_of_ne_nil hargs
  cases hf <;> exact callWith_eq_apply .standard clock rfl

theorem SeeksExtreme.ne_nil {clock : Clock} (hf : SeeksExtreme f wanted)
    (h : call clock f args = .ok r) : args ≠ [] := by
  rintro rfl
  cases hf <;> cases h

/-- Three arguments in a circle: the last one is kept, although one that came before is better. -/
theorem call_circle_eq (hf : SeeksExtreme f wanted) (clock : Clock) {a b c : Value}
    {order : Ordering} (hac : a.Precedes wanted c) (hcb : c.Precedes wanted b)
    (hab : a.compare false b = .ok (some order)) (hworse : order ≠ wanted) :
    call clock f [b, a, c] = .ok c := by
  have present : [b, a, c].filter (fun v => !v.isNull) = [b, a, c] := by
    simp [hac.left, hac.right, hcb.right]
  have first : better f wanted a b = .ok b := by
    rw [better, hab, ok_bind]
    dsimp only
    rw [if_neg (mt beq_iff_eq.1 hworse)]
  have second : better f wanted c b = .ok c := by
    rw [better, show c.compare false b = .ok (some wanted) from hcb, ok_bind]
    dsimp only
    rw [if_pos (beq_self_eq_true wanted)]
  rw [hf.call_eq clock (List.cons_ne_nil _ _), extreme, present]
  dsimp only
  rw [bestOf, first, ok_bind, bestOf, second, ok_bind, bestOf]

end Runs

/-- **`MaxOf` and `MinOf` give an extreme argument** where comparing is transitive. Of nulls alone
they give the first. Otherwise the result is an argument that is no null, it does not depend on the
nulls, and no argument is greater (less) than it if comparing the arguments is transitive. So it is
for arguments of one type, for truth values, integers and decimals, and for truth values, integers
and doubles. -/
theorem gives_extreme_argument (clock : Clock) {f : Builtin} {wanted : Ordering}
    (hf : SeeksExtreme f wanted) {args : List Value} {r : Value} (h : call clock f args = .ok r) :
    ((∀ v ∈ args, v.isNull = true) → args.head? = some r) ∧
    ((∃ v ∈ args, v.isNull = false) →
      (r ∈ args ∧ r.isNull = false) ∧
      (∀ rest : List Value,
        (rest.filter fun v => !v.isNull) = (args.filter fun v => !v.isNull) →
        call clock f rest = .ok r) ∧
      (ComparesTransitively args →
        ∀ v ∈ args, v.isNull = false → v.compare false r ≠ .ok (some wanted))) ∧
    (Ranked args → ComparesTransitively args) := by
  have hargs := hf.ne_nil h
  have hextreme := (hf.call_eq clock hargs).symm.trans h
  refine ⟨fun hnull => extreme_of_nulls hargs hnull hextreme, fun hsome => ?_,
    Ranked.comparesTransitively⟩
  obtain ⟨argument, bounds⟩ := extreme_spec hf.ne_eq hsome hextreme
  refine ⟨argument, fun rest hsame => ?_, bounds⟩
  obtain ⟨hrest, hequal⟩ := extreme_congr hsome hsame
  rw [hf.call_eq clock hrest, hequal, hextreme]

/-- The number nine and a half: `9.5`. -/
def nineAndHalf : Decimal := (Decimal.ofSignedParts? false 95 1).get (by decide)

/-- Numbers of four types and a null. -/
def mixedNumbers : List Value :=
  [.null .undefined, .int32 3, .decimal nineAndHalf, .boolean true, .int64 (-2)]

/-- The largest of mixed numbers, with the null at another place, and the least of nulls alone. -/
theorem largest_of_mixed_numbers :
    SeeksExtreme .maxOf .gt ∧ SeeksExtreme .minOf .lt ∧ Ranked mixedNumbers ∧
      call ⟨default, default⟩ .maxOf mixedNumbers = .ok (.decimal nineAndHalf) ∧
      call ⟨default, default⟩ .maxOf
          [.int32 3, .null .string, .decimal nineAndHalf, .boolean true, .int64 (-2)] =
        .ok (.decimal nineAndHalf) ∧
      (∀ v ∈ mixedNumbers, v.isNull = false →
        v.compare false (.decimal nineAndHalf) ≠ .ok (some .gt)) ∧
      call ⟨default, default⟩ .minOf [.null .int32, .null .undefined] = .ok (.null .int32) ∧
      [Value.null .int32, .null .undefined].head? = some (.null .int32) := by
  have ranked : Ranked mixedNumbers := by
    refine .exact fun v hv hnull => ?_
    simp only [mixedNumbers, List.mem_cons, List.not_mem_nil, or_false] at hv
    rcases hv with rfl | rfl | rfl | rfl | rfl
    · cases hnull
    · exact .int32 3
    · exact .decimal _
    · exact .boolean true
    · exact .int64 (-2)
  have greatest : call ⟨default, default⟩ .maxOf mixedNumbers =
      .ok (.decimal nineAndHalf) := by rfl
  have nulls : call ⟨default, default⟩ .minOf [.null .int32, .null .undefined] =
      .ok (.null .int32) := by rfl
  obtain ⟨-, present, transitive⟩ := gives_extreme_argument ⟨default, default⟩ .maxOf greatest
  obtain ⟨-, moved, bounds⟩ := present ⟨.int32 3, by simp [mixedNumbers], rfl⟩
  have first := (gives_extreme_argument ⟨default, default⟩ .minOf nulls).1
    (by simp [Value.isNull])
  exact ⟨.maxOf, .minOf, ranked, greatest, moved _ rfl, bounds (transitive ranked), nulls, first⟩

/-- As texts `10` is less than `9`, and as numbers `9` is less than `9.5` and that less than `10`.
So the last of `9`, `10` and `9.5` is kept, and `10` is greater. -/
theorem not_gives_extreme_argument :
    ¬ ∀ (clock : Clock) (args : List Value) (r : Value), call clock .maxOf args = .ok r →
      ∀ v ∈ args, v.isNull = false → v.compare false r ≠ .ok (some .gt) := by
  intro h
  have greater : (Value.string "10").Precedes .gt (.decimal nineAndHalf) := by rfl
  have kept := call_circle_eq .maxOf ⟨default, default⟩ greater
    (show (Value.decimal nineAndHalf).Precedes .gt (.string "9") by rfl)
    (show (Value.string "10").compare false (.string "9") = .ok (some .lt) by rfl) nofun
  exact h _ _ _ kept (.string "10") (by simp) rfl greater

end TableFilter.Builtin
