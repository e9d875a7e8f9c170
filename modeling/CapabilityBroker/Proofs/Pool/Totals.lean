/-
CapabilityBroker/Proofs/Pool/Totals.lean

What the objects of a pool come to.

A weight is summed over the objects of a pool, whatever slots they are in
(`total`).  Reservations weigh nothing: between two pools of which only the
reservations differ (`Shuffles`), every total and the count of objects are the
same.  An object that is published adds its weight, and an object that changes
adds the difference.
-/
import Mathlib.Algebra.BigOperators.Group.Finset.Basic
import CapabilityBroker.Proofs.Pool.Dense

namespace CapabilityBroker.Pool

variable {α : Type} {p p' p'' : Pool α} {i : Nat} {weight : α → Nat}

/-! ### Totals -/

/-- The slots that were ever touched. -/
def touched (p : Pool α) : Finset Nat := p.entries.keys.toFinset

/-- The weight of the object in a slot, if there is one. -/
def weightAt (weight : α → Nat) (p : Pool α) (i : Nat) : Nat := (p.at? i).elim 0 weight

/-- What the objects of the pool weigh together. -/
def total (weight : α → Nat) (p : Pool α) : Nat := ∑ i ∈ p.touched, p.weightAt weight i

theorem weightAt_of_not_touched (h : i ∉ p.touched) : p.weightAt weight i = 0 := by
  have hnone : p.entries[i]? = none := by
    rw [touched, List.mem_toFinset, Std.ExtTreeMap.mem_keys] at h
    exact Std.ExtTreeMap.getElem?_eq_none h
  unfold weightAt at? entry
  rw [hnone]
  rfl

/-- Slots that were never touched may be added. -/
theorem total_eq_sum {s : Finset Nat} (h : p.touched ⊆ s) :
    p.total weight = ∑ i ∈ s, p.weightAt weight i :=
  Finset.sum_subset h fun _ _ hi => weightAt_of_not_touched hi

theorem total_create (name : String) (capacity : Nat) :
    (create name capacity : Pool α).total weight = 0 := by
  refine Finset.sum_eq_zero fun i _ => ?_
  unfold weightAt at?
  rw [entry_create]
  rfl

/-- If the objects differ in one slot at most, the totals differ by what is in
it. -/
theorem total_change (weight : α → Nat) (h : ∀ j, j ≠ i → p'.at? j = p.at? j) :
    p'.total weight + p.weightAt weight i = p.total weight + p'.weightAt weight i := by
  have hi : i ∈ insert i (p.touched ∪ p'.touched) := Finset.mem_insert_self _ _
  rw [total_eq_sum (s := insert i (p.touched ∪ p'.touched)) (p := p)
      (Finset.subset_union_left.trans (Finset.subset_insert _ _)),
    total_eq_sum (s := insert i (p.touched ∪ p'.touched)) (p := p')
      (Finset.subset_union_right.trans (Finset.subset_insert _ _)),
    ← Finset.add_sum_erase _ _ hi, ← Finset.add_sum_erase _ _ hi]
  have hrest : ∑ j ∈ (insert i (p.touched ∪ p'.touched)).erase i, p'.weightAt weight j =
      ∑ j ∈ (insert i (p.touched ∪ p'.touched)).erase i, p.weightAt weight j := by
    refine Finset.sum_congr rfl fun j hj => ?_
    unfold weightAt
    rw [h j (Finset.ne_of_mem_erase hj)]
  omega

theorem total_congr (h : ∀ j, p'.at? j = p.at? j) : p'.total weight = p.total weight := by
  have hchange := total_change (i := 0) weight fun j _ => h j
  unfold weightAt at hchange
  rw [h 0] at hchange
  omega

/-- A new object adds its weight. -/
theorem total_publish {r : Reservation α} {o : α} (h : p.Holds r) :
    (p.publish r o).total weight = p.total weight + weight o := by
  have hothers : ∀ j, j ≠ r.index → (p.publish r o).at? j = p.at? j := fun j hj => by
    rw [at?_publish, if_neg (Ne.symm hj)]
  have hchange := total_change weight hothers
  unfold weightAt at hchange
  rw [at?_publish, if_pos rfl, show p.at? r.index = none by unfold at?; rw [h]] at hchange
  exact hchange

/-- An object that changes gives its weight for another. -/
theorem total_modify {hd : Handle α} {f : α → α} {o : α} (h : p.get? hd = some o) :
    (p.modify hd f).total weight + weight o = p.total weight + weight (f o) := by
  have hentry : ∀ j, (p.modify hd f).entry j =
      if hd.index = j then ⟨hd.generation, .active (f o)⟩ else p.entry j := by
    intro j
    rw [entry_modify, h]
  have hothers : ∀ j, j ≠ hd.index → (p.modify hd f).at? j = p.at? j := fun j hj =>
    at?_congr (by rw [hentry, if_neg (Ne.symm hj)])
  have hchange := total_change weight hothers
  unfold weightAt at hchange
  rw [at?_eq_some ((hentry _).trans (if_pos rfl)), at?_eq_some (get?_eq_some_iff.1 h)] at hchange
  exact hchange

theorem active_modify (hd : Handle α) (f : α → α) : (p.modify hd f).active = p.active := by
  obtain ⟨entries, heq⟩ := p.modify_eq hd f
  rw [heq]

/-! ### Reservations -/

/-- Only reservations differ. -/
structure Shuffles (p p' : Pool α) : Prop where
  objects : p.Reserves p'
  active : p'.active = p.active

instance : IsPreorder (Pool α) Shuffles where
  refl p := ⟨.refl p, rfl⟩
  trans _ _ _ h h' :=
    ⟨h.objects.trans (fun _ _ _ => False.elim) h'.objects, h'.active.trans h.active⟩

theorem Shuffles.total (h : p.Shuffles p') : p'.total weight = p.total weight :=
  total_congr fun _ => h.objects.at?_eq

theorem active_reserveAll (indices : List Nat) : (p.reserveAll indices).active = p.active := by
  induction indices generalizing p with
  | nil => rfl
  | cons j rest ih => exact ih

theorem allocate_shuffles :
    Step.Stays Shuffles (allocate : Step (Pool α) Refusal (Reservation α)) := by
  refine fun p => ((allocate_stays (C := Eq) (P := fun _ => False) p).and allocate_leads).mono ?_ ?_
  · rintro r _ ⟨hmoves, _, _, rfl⟩
    exact ⟨hmoves, rfl⟩
  · rintro why _ ⟨hmoves, _, _, rfl⟩
    exact ⟨hmoves, rfl⟩

theorem allocateRun_shuffles {count : Nat} (hc : count ≠ 0) : Step.Stays Shuffles
    (allocateRun count : Step (Pool α) Refusal (List (Reservation α))) := by
  have hstays := allocateRun_stays (α := α) (C := Eq) (P := fun _ => False) count
  refine fun p => ((hstays p).and (allocateRun_leads hc)).mono ?_ ?_
  · rintro run _ ⟨hmoves, start, _, _, rfl⟩
    exact ⟨hmoves, active_reserveAll _⟩
  · rintro why _ ⟨hmoves, _, _, rfl⟩
    exact ⟨hmoves, rfl⟩

theorem allocateAt_shuffles (index : Nat) : Step.Stays Shuffles
    (allocateAt index : Step (Pool α) Refusal (Reservation α)) := by
  have hstays := allocateAt_stays (α := α) (C := Eq) (P := fun _ => False) index
  refine fun p => ((hstays p).and allocateAt_leads).mono ?_ ?_
  · rintro r _ ⟨hmoves, _, _, _, _, rfl⟩
    exact ⟨hmoves, rfl⟩
  · rintro why _ ⟨hmoves, _, _, rfl⟩
    exact ⟨hmoves, rfl⟩

theorem Shuffles.unreserve (r : Reservation α) : p.Shuffles (p.unreserve r) := by
  refine ⟨.unreserve r, ?_⟩
  unfold Pool.unreserve
  split
  · rfl
  · rfl

theorem Shuffles.unreserveAll (rs : List (Reservation α)) : p.Shuffles (p.unreserveAll rs) := by
  induction rs generalizing p with
  | nil => exact refl_of Shuffles p
  | cons r rest ih => exact trans_of Shuffles (.unreserve r) ih

end CapabilityBroker.Pool
