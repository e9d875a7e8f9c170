/-
CapabilityBroker/Proofs/Pool/Dense.lean

Pools that fill up from below.

Where nothing is ever taken out, every slot from the low-water mark on is
free.  A run of slots then begins at the mark, and it is refused only if too
few slots are left behind it.  A run that is given up takes the mark back to
where it was.
-/
import CapabilityBroker.Proofs.Pool.Moves

namespace CapabilityBroker.Pool

variable {α : Type} {p : Pool α} {i start count tries : Nat}

/-- Every slot from the low-water mark on is free. -/
structure Dense (p : Pool α) : Prop where
  pos : 1 ≤ p.lowWater
  free : ∀ i, p.lowWater ≤ i → (p.entry i).slot = .free

/-- Whether `count` slots are left from the low-water mark on. -/
def hasRun (p : Pool α) (count : Nat) : Bool := p.lowWater + count ≤ p.capacity + 1

theorem hasRun_iff : p.hasRun count = true ↔ p.lowWater + count ≤ p.capacity + 1 :=
  decide_eq_true_iff

theorem slot_create {name : String} {capacity : Nat} :
    ((create name capacity : Pool α).entry i).slot = .free := by
  rw [entry_create]
  rfl

theorem at?_create {name : String} {capacity : Nat} :
    (create name capacity : Pool α).at? i = none := by
  unfold at?
  rw [slot_create]

theorem dense_create (name : String) (capacity : Nat) : (create name capacity : Pool α).Dense where
  pos := Nat.le_refl 1
  free _ _ := slot_create

/-! ### Taking a run -/

theorem firstBusy?_of_free (h : ∀ j, start ≤ j → (p.entry j).slot = .free) :
    p.firstBusy? count start = none := by
  induction count generalizing start with
  | zero => rfl
  | succ count ih =>
    unfold firstBusy?
    rw [if_pos (isFree_iff.2 (h start (Nat.le_refl _)))]
    exact ih fun j hj => h j (Nat.le_of_succ_le hj)

theorem Dense.findRun?_eq (h : p.Dense) :
    p.findRun? count (tries + 1) p.lowWater =
      if p.lowWater + count ≤ p.capacity + 1 then some p.lowWater else none := by
  unfold findRun?
  rw [firstBusy?_of_free h.free]

/-- A run begins at the mark, if there are slots enough. -/
theorem Dense.allocateRun_leads (h : p.Dense) (hc : count ≠ 0) :
    (allocateRun count).Leads p
      (fun run p' => p.hasRun count = true ∧ run = p.runOf p.lowWater count ∧
        p' = p.reserveRun p.lowWater count)
      (fun why p' => ¬ p.hasRun count = true ∧ (∃ reason, why = .refused (.exhausted reason)) ∧
        p' = p) := by
  have hpos := h.pos
  refine (Pool.allocateRun_leads hc).mono ?_ ?_
  · rintro run p' ⟨start, hrun, rfl, rfl⟩
    rw [h.findRun?_eq] at hrun
    split at hrun
    · next hle =>
      cases Option.some.inj hrun
      exact ⟨hasRun_iff.2 hle, rfl, rfl⟩
    · cases hrun
  · rintro why p' ⟨hfull, rfl, rfl⟩
    refine ⟨fun hroom => ?_, ⟨_, rfl⟩, rfl⟩
    rw [hasRun_iff] at hroom
    rcases hfull with hlt | hnone
    · omega
    · rw [h.findRun?_eq, if_pos hroom] at hnone
      cases hnone

theorem Dense.reserves_reserveRun (h : p.Dense) : p.Reserves (p.reserveRun p.lowWater count) :=
  Moves.reserveRun (Nat.le_refl _) fun i hi _ => Entry.Idle.of_free (h.free i hi)

theorem capacity_reserveAll (indices : List Nat) :
    (p.reserveAll indices).capacity = p.capacity := by
  induction indices generalizing p with
  | nil => rfl
  | cons j rest ih => exact ih

theorem capacity_reserveRun : (p.reserveRun start count).capacity = p.capacity :=
  capacity_reserveAll _

/-! ### Giving it up -/

@[simp] theorem capacity_unreserve (r : Reservation α) : (p.unreserve r).capacity = p.capacity := by
  unfold unreserve
  split
  · rfl
  · rfl

theorem capacity_unreserveAll (rs : List (Reservation α)) :
    (p.unreserveAll rs).capacity = p.capacity := by
  induction rs generalizing p with
  | nil => rfl
  | cons r rest ih => exact ih.trans (capacity_unreserve r)

theorem lowWater_unreserve_of_reserved {r : Reservation α}
    (h : (p.entry r.index).slot = .reserved) :
    (p.unreserve r).lowWater = min p.lowWater r.index := by
  unfold unreserve
  rw [h]
  rfl

theorem lowWater_unreserve_of_le {r : Reservation α} (h : p.lowWater ≤ r.index) :
    (p.unreserve r).lowWater = p.lowWater := by
  unfold unreserve
  split
  · exact Nat.min_eq_left h
  · rfl

theorem lowWater_unreserveAll_of_le {rs : List (Reservation α)}
    (h : ∀ r ∈ rs, p.lowWater ≤ r.index) : (p.unreserveAll rs).lowWater = p.lowWater := by
  induction rs generalizing p with
  | nil => rfl
  | cons r rest ih =>
    have hr : (p.unreserve r).lowWater = p.lowWater :=
      lowWater_unreserve_of_le (h r List.mem_cons_self)
    refine (ih fun r' hr' => ?_).trans hr
    rw [hr]
    exact h r' (List.mem_cons_of_mem _ hr')

/-- The slots of a run that is given up are free again, and the mark is back at
the first of them. -/
theorem Dense.unreserveRun (h : p.Dense) (hc : count ≠ 0) :
    ((p.reserveRun p.lowWater count).unreserveAll (p.runOf p.lowWater count)).Dense ∧
      ((p.reserveRun p.lowWater count).unreserveAll (p.runOf p.lowWater count)).lowWater =
        p.lowWater := by
  obtain ⟨rest, rfl⟩ := Nat.exists_eq_succ_of_ne_zero hc
  have hmark : ((p.reserveRun p.lowWater (rest + 1)).unreserveAll
      (p.runOf p.lowWater (rest + 1))).lowWater = p.lowWater := by
    -- The first slot takes the mark back, and the others lie behind it.
    have hhead : ((p.reserveRun p.lowWater (rest + 1)).unreserve
        (p.reservation p.lowWater)).lowWater = p.lowWater := by
      rw [lowWater_unreserve_of_reserved]
      · show min (if p.lowWater = p.lowWater then p.lowWater + (rest + 1) else _) p.lowWater = _
        rw [if_pos rfl]
        omega
      · show ((p.reserveRun p.lowWater (rest + 1)).entry p.lowWater).slot = _
        rw [entry_reserveRun, if_pos (by omega)]
    show (((p.reserveRun p.lowWater (rest + 1)).unreserve
      (p.reservation p.lowWater)).unreserveAll
        ((List.range' (p.lowWater + 1) rest).map p.reservation)).lowWater = _
    refine (lowWater_unreserveAll_of_le fun r hr => ?_).trans hhead
    rw [hhead]
    obtain ⟨i, hi, rfl⟩ := List.mem_map.1 hr
    exact Nat.le_of_succ_le (List.mem_range'_1.1 hi).1
  refine ⟨⟨by rw [hmark]; exact h.pos, fun i hi => ?_⟩, hmark⟩
  rw [hmark] at hi
  have hindex : i ∈ (p.runOf p.lowWater (rest + 1)).map Reservation.index ↔
      p.lowWater ≤ i ∧ i < p.lowWater + (rest + 1) := by
    unfold runOf
    rw [List.map_map]
    show i ∈ (List.range' p.lowWater (rest + 1)).map (fun j => j) ↔ _
    rw [List.map_id', List.mem_range'_1]
  rw [entry_unreserveAll, entry_reserveRun]
  split
  · next hin =>
    rw [if_pos (hindex.1 hin)]
    rfl
  · next hout =>
    rw [if_neg fun hin => hout (hindex.2 hin)]
    exact h.free i hi

/-! ### Single slots -/

/-- Whether a slot is free. -/
def hasFree (p : Pool α) : Bool := (p.firstFree? (p.capacity + 1 - p.lowWater) p.lowWater).isSome

/-- One slot is kept, if one is free. -/
theorem allocate_holds : allocate.Leads p
    (fun r p' => p.hasFree = true ∧ p.Reserves p' ∧ p'.capacity = p.capacity ∧ p'.Holds r ∧
      r.index ≤ p.capacity)
    (fun why p' => ¬ p.hasFree = true ∧ (∃ name, why = .refused (.exhausted name)) ∧ p' = p) := by
  refine allocate_leads.mono ?_ ?_
  · rintro r p' ⟨hfree, hr, rfl⟩
    obtain ⟨hle, hlt, hslot⟩ := firstFree?_eq_some hfree
    have hmoves : p.Reserves { p.reserve r.index with lowWater := r.index + 1 } :=
      .reserve (.of_free hslot) fun hmark => by omega
    refine ⟨Option.isSome_iff_exists.2 ⟨_, hfree⟩, hmoves, rfl, ?_, by omega⟩
    show (p.reserve r.index).entry r.index = _
    rw [entry_reserve, if_pos rfl, hr]
    rfl
  · rintro why p' ⟨hnone, rfl, rfl⟩
    refine ⟨fun hfree => ?_, ⟨_, rfl⟩, rfl⟩
    unfold hasFree at hfree
    rw [hnone] at hfree
    cases hfree

/-- The slot at an index is kept, if it is free. -/
theorem allocateAt_holds {index : Nat} : (allocateAt index).Leads p
    (fun r p' => r.index = index ∧ p.Reserves p' ∧ p'.capacity = p.capacity ∧ p'.Holds r)
    (fun why p' => (∃ reason, why = .refused reason) ∧ p' = p) := by
  refine allocateAt_leads.mono ?_ fun _ _ h => h.2
  rintro r p' ⟨hindex, _, hslot, rfl, rfl⟩
  have hmoves : p.Reserves (p.reserve index) :=
    .reserve (n := p.lowWater) (.of_free hslot) fun hmark => ⟨hindex, hmark⟩
  refine ⟨rfl, hmoves, rfl, ?_⟩
  show (p.reserve index).entry index = _
  rw [entry_reserve, if_pos rfl]
  rfl

/-! ### What stays -/

theorem Moves.at?_eq {p' : Pool α} (h : p.Reserves p') : p'.at? i = p.at? i := by
  refine Option.ext fun o => ?_
  rw [at?_eq_some_iff, at?_eq_some_iff]
  constructor
  · rintro ⟨g, hg⟩
    rcases h.added i g o hg with ⟨_, rfl, ho⟩ | hnew
    · exact ⟨g, ho⟩
    · exact hnew.elim
  · rintro ⟨g, hg⟩
    obtain ⟨_, rfl, ho⟩ := h.kept i g o hg
    exact ⟨g, ho⟩

theorem at?_congr {p' : Pool α} (h : p'.entry i = p.entry i) : p'.at? i = p.at? i := by
  unfold at?
  rw [h]

theorem at?_publish {r : Reservation α} {o : α} :
    (p.publish r o).at? i = if r.index = i then some o else p.at? i := by
  unfold at?
  rw [entry_publish]
  by_cases h : r.index = i
  · rw [if_pos h, if_pos h]
  · rw [if_neg h, if_neg h]

/-- There are no objects behind the low-water mark. -/
theorem Dense.lt_of_at? {o : α} (h : p.Dense) (ho : p.at? i = some o) : i < p.lowWater := by
  refine Nat.lt_of_not_le fun hle => ?_
  obtain ⟨g, hg⟩ := at?_eq_some_iff.1 ho
  have hfree := h.free i hle
  rw [hg] at hfree
  cases hfree

theorem capacity_modify (h : Handle α) (f : α → α) : (p.modify h f).capacity = p.capacity := by
  obtain ⟨entries, heq⟩ := p.modify_eq h f
  rw [heq]

/-- No operation makes a pool larger or smaller. -/
def AsLarge (p p' : Pool α) : Prop := p'.capacity = p.capacity

theorem allocate_asLarge : Step.Stays AsLarge
    (allocate : Step (Pool α) Refusal (Reservation α)) := by
  refine fun p => allocate_leads.mono ?_ ?_
  · rintro _ _ ⟨_, _, rfl⟩
    rfl
  · rintro why _ ⟨_, _, rfl⟩
    rfl

theorem allocateAt_asLarge (index : Nat) : Step.Stays AsLarge
    (allocateAt index : Step (Pool α) Refusal (Reservation α)) := by
  refine fun p => allocateAt_leads.mono ?_ ?_
  · rintro _ _ ⟨_, _, _, _, rfl⟩
    rfl
  · rintro why _ ⟨_, _, rfl⟩
    rfl

theorem allocateRun_asLarge (count : Nat) : Step.Stays AsLarge
    (allocateRun count : Step (Pool α) Refusal (List (Reservation α))) := by
  intro p
  by_cases hc : count = 0
  · unfold allocateRun
    apply Step.StaysFrom.get_bind
    rw [if_pos hc]
    exact Step.leads_pure.2 rfl
  · refine (Pool.allocateRun_leads hc).mono ?_ ?_
    · rintro _ _ ⟨start, _, _, rfl⟩
      exact capacity_reserveRun
    · rintro why _ ⟨_, _, rfl⟩
      rfl

theorem activate_asLarge {ε : Type} (r : Reservation α) (o : α) : Step.Stays AsLarge
    (activate r o : Step (Pool α) ε (Handle α)) := by
  refine fun p => activate_leads.mono ?_ ?_
  · rintro _ _ ⟨_, _, rfl⟩
    rfl
  · rintro why _ ⟨_, _, rfl⟩
    rfl

theorem lowWater_modify (h : Handle α) (f : α → α) : (p.modify h f).lowWater = p.lowWater := by
  obtain ⟨entries, heq⟩ := p.modify_eq h f
  rw [heq]

theorem Dense.modify (hp : p.Dense) (h : Handle α) (f : α → α) : (p.modify h f).Dense := by
  refine ⟨by rw [lowWater_modify]; exact hp.pos, fun i hi => ?_⟩
  rw [lowWater_modify] at hi
  have hfree := hp.free i hi
  rw [entry_modify]
  split
  · next o ho =>
    split
    · next heq =>
      rw [get?_eq_some_iff, heq] at ho
      rw [ho] at hfree
      cases hfree
    · exact hfree
  · exact hfree

end CapabilityBroker.Pool
