/-
CapabilityBroker/Proofs/Pool/Packed.lean

Pools from which nothing is taken out.

Two kinds of them are told apart.  A pool is packed if its objects are in the
first slots, one behind the other, and all slots behind them are free: a run of
slots is found in it as long as so many are left.  A pool is settled if it is
regular and no slot of it is kept: single slots may be taken anywhere, and one is
found as long as there are fewer objects than slots.  What is kept of either is
published or given up, and both ways lead back to a pool of its kind, so that
refusals leave no gap and lose no slot.
-/
import CapabilityBroker.Proofs.LowWater
import CapabilityBroker.Proofs.Pool.Totals

namespace CapabilityBroker.Pool

variable {α : Type} {p p' : Pool α} {i index count : Nat} {r : Reservation α}

/-! ### Packed pools -/

/-- The objects are in the first slots, and every slot behind them is free. -/
structure Packed (p : Pool α) : Prop where
  mark : p.lowWater = p.active + 1
  within : p.active ≤ p.capacity
  fromOne : p.FromOne
  there : ∀ i, 1 ≤ i → i ≤ p.active → (p.at? i).isSome = true
  free : ∀ i, p.active < i → (p.entry i).slot = .free

theorem packed_create (name : String) (capacity : Nat) :
    (create name capacity : Pool α).Packed where
  mark := rfl
  within := Nat.zero_le capacity
  fromOne := ⟨Nat.one_ne_zero, slot_create⟩
  there _ hpos hle := absurd hpos (Nat.not_le.2 (Nat.lt_of_le_of_lt hle Nat.one_pos))
  free _ _ := slot_create

theorem at?_of_free (h : (p.entry i).slot = .free) : p.at? i = none := by
  unfold at?
  rw [h]

namespace Packed

theorem dense (h : p.Packed) : p.Dense where
  pos := h.mark ▸ Nat.le_add_left 1 p.active
  free i hi := h.free i (by rw [h.mark] at hi; exact hi)

/-- The slots with objects are numbered from one on, without a gap. -/
theorem isSome_at?_iff (h : p.Packed) : (p.at? i).isSome = true ↔ 1 ≤ i ∧ i ≤ p.active := by
  refine ⟨fun hi => ?_, fun hi => h.there i hi.1 hi.2⟩
  obtain ⟨o, ho⟩ := Option.isSome_iff_exists.1 hi
  have hlt := h.dense.lt_of_at? ho
  rw [h.mark] at hlt
  exact ⟨Nat.pos_of_ne_zero (h.fromOne.ne_zero_of_at? ho), Nat.le_of_lt_succ hlt⟩

/-- There is a run of slots as long as so many are left. -/
theorem hasRun_iff (h : p.Packed) : p.hasRun count = true ↔ p.active + count ≤ p.capacity := by
  rw [Pool.hasRun_iff, h.mark]
  omega

/-- A pool with the same number of objects in the same slots, and with the same slots
free behind them. -/
theorem of_dense (h : p.Packed) (hdense : p'.Dense) (hone : p'.FromOne)
    (hmark : p'.lowWater = p.lowWater) (hactive : p'.active = p.active)
    (hcapacity : p'.capacity = p.capacity)
    (hthere : ∀ i, (p.at? i).isSome = true → (p'.at? i).isSome = true) : p'.Packed where
  mark := by rw [hmark, hactive, h.mark]
  within := by rw [hactive, hcapacity]; exact h.within
  fromOne := hone
  there i hpos hle := hthere i (h.there i hpos (hactive ▸ hle))
  free i hi := hdense.free i (by rw [hmark, h.mark]; exact hactive ▸ hi)

theorem modify (h : p.Packed) (hd : Handle α) (f : α → α) : (p.modify hd f).Packed := by
  have hmoves : Moves (fun _ _ => True) (fun _ => False) p (p.modify hd f) := by
    have : IsPreorder α fun _ _ => True :=
      { refl := fun _ => trivial, trans := fun _ _ _ _ _ => trivial }
    exact .modify fun _ => trivial
  refine h.of_dense (h.dense.modify hd f) (h.fromOne.modify hd f) (lowWater_modify hd f)
    (active_modify hd f) (capacity_modify hd f) fun i hi => ?_
  obtain ⟨o, ho⟩ := Option.isSome_iff_exists.1 hi
  obtain ⟨o', _, ho'⟩ := hmoves.at? ho
  exact Option.isSome_iff_exists.2 ⟨o', ho'⟩

theorem shuffles_reserveRun (h : p.Packed) : p.Shuffles (p.reserveRun p.lowWater count) :=
  ⟨h.dense.reserves_reserveRun, active_reserveAll _⟩

/-- A run that is given up leaves no gap. -/
theorem giveUp (h : p.Packed) (hc : count ≠ 0) :
    ((p.reserveRun p.lowWater count).unreserveAll (p.runOf p.lowWater count)).Packed := by
  obtain ⟨hdense, hmark⟩ := h.dense.unreserveRun hc
  have hsame : p.Shuffles ((p.reserveRun p.lowWater count).unreserveAll
      (p.runOf p.lowWater count)) :=
    trans_of Shuffles h.shuffles_reserveRun (.unreserveAll _)
  refine h.of_dense hdense (hsame.objects.based h.fromOne) hmark hsame.active
    ((capacity_unreserveAll _).trans capacity_reserveRun) fun i hi => ?_
  rw [hsame.objects.at?_eq]
  exact hi

end Packed

/-! ### Settled pools -/

/-- The pool is regular, and no slot of it is kept. -/
structure Settled (p : Pool α) : Prop where
  regular : p.Regular
  unkept : ∀ i, (p.entry i).slot ≠ .reserved

/-- The pool is regular, and only the slot of one reservation is kept. -/
structure Pending (r : Reservation α) (p : Pool α) : Prop where
  regular : p.Regular
  holds : p.Holds r
  others : ∀ i, r.index ≠ i → (p.entry i).slot ≠ .reserved

theorem settled_create (name : String) (capacity : Nat) :
    (create name capacity : Pool α).Settled where
  regular := regular_create name capacity
  unkept i := by
    rw [slot_create]
    exact nofun

/-- Where nothing is kept, a slot that is not free has an object. -/
theorem Settled.isSome_at? (h : p.Settled) (hi : p.isFree i = false) :
    (p.at? i).isSome = true := by
  rw [isFree_eq_false_iff] at hi
  have hkept := h.unkept i
  unfold at?
  cases hslot : (p.entry i).slot with
  | free => exact absurd hslot hi
  | reserved => exact absurd hslot hkept
  | active o => rfl

/-- A slot is free as long as there are fewer objects than slots. -/
theorem Settled.hasFree_iff (h : p.Settled) : p.hasFree = true ↔ p.active < p.capacity := by
  have hfull : p.active = p.capacity ↔ ∀ i ∈ List.range' 1 p.capacity, (p.at? i).isSome = true := by
    have hlength : (List.range' 1 p.capacity).length = p.capacity := List.length_range'
    rw [h.regular.counted, objects]
    conv_lhs => rhs; rw [← hlength]
    exact List.countP_eq_length
  have hsearch : p.hasFree = false ↔ p.vacant = ∅ := by
    rw [← h.regular.firstFree?_eq_none_iff]
    exact Option.isSome_eq_false_iff.trans Option.isNone_iff_eq_none
  have hle := h.regular.active_le
  rw [← Bool.not_eq_false, hsearch]
  constructor
  · intro hsome
    refine Nat.lt_of_le_of_ne hle fun heq => hsome (Set.eq_empty_iff_forall_notMem.2 ?_)
    rintro i ⟨hpos, hi, hfree⟩
    have hobject := hfull.1 heq i (List.mem_range'_1.2 ⟨hpos, by omega⟩)
    rw [at?_of_free (isFree_iff.1 hfree)] at hobject
    cases hobject
  · intro hlt hnone
    refine Nat.ne_of_lt hlt (hfull.2 fun i hi => h.isSome_at? ?_)
    rw [List.mem_range'_1] at hi
    refine Bool.eq_false_iff.2 fun hfree => ?_
    have hmem : i ∈ p.vacant := ⟨hi.1, by omega, hfree⟩
    rw [hnone] at hmem
    exact hmem

/-- One slot more is kept. -/
theorem Settled.pending (h : p.Settled) (hregular : p'.Regular) (holds : p'.Holds r)
    (hother : ∀ i, r.index ≠ i → p'.entry i = p.entry i) : p'.Pending r where
  regular := hregular
  holds := holds
  others i hi := hother i hi ▸ h.unkept i

/-- A slot is kept as long as there are fewer objects than slots. -/
theorem Settled.allocate_keeps (h : p.Settled) : allocate.Leads p
    (fun r p' => p.active < p.capacity ∧ p'.Pending r ∧ p'.active = p.active ∧
      p'.capacity = p.capacity)
    (fun why p' => ¬ p.active < p.capacity ∧ (∃ reason, why = .refused reason) ∧ p' = p) := by
  rw [← h.hasFree_iff]
  refine (allocate_holds.and allocate_leads).mono ?_ ?_
  · rintro r _ ⟨⟨hfree, _, hcapacity, holds, _⟩, hfirst, hr, rfl⟩
    have hregular := h.regular.effect (.allocate hfirst) nofun
    refine ⟨hfree, h.pending hregular holds fun i hi => ?_, rfl, hcapacity⟩
    show (p.reserve r.index).entry i = _
    rw [entry_reserve, if_neg hi]
  · rintro why _ ⟨⟨hfull, ⟨name, hwhy⟩, heq⟩, _⟩
    exact ⟨hfull, ⟨_, hwhy⟩, heq⟩

theorem Settled.allocateAt_keeps (h : p.Settled) : (allocateAt index).Leads p
    (fun r p' => p'.Pending r ∧ p'.active = p.active ∧ p'.capacity = p.capacity)
    (fun _ _ => True) := by
  refine (allocateAt_holds.and allocateAt_leads).mono ?_ fun _ _ _ => trivial
  rintro r _ ⟨⟨hindex, _, hcapacity, holds⟩, hpos, hle, hfree, _, rfl⟩
  have hregular := h.regular.effect (.allocateAt hpos hle (isFree_iff.2 hfree)) nofun
  refine ⟨h.pending hregular holds fun i hi => ?_, rfl, hcapacity⟩
  rw [entry_reserve, if_neg (hindex ▸ hi)]

namespace Pending

/-- What was kept is published. -/
theorem publish {o : α} (h : p.Pending r) : (p.publish r o).Settled where
  regular := h.regular.publish h.holds
  unkept i := by
    rw [entry_publish]
    split
    · exact nofun
    · next hi => exact h.others i hi

/-- What was kept is given up. -/
theorem giveUp (h : p.Pending r) : (p.unreserve r).Settled where
  regular := h.regular.unreserve h.holds
  unkept i := by
    rw [entry_unreserve]
    split
    · next hi =>
      subst hi
      rw [h.holds]
      exact nofun
    · next hi => exact h.others i hi

/-- The slot that is kept is one of the pool's. -/
theorem index_le (h : p.Pending r) : r.index ≤ p.capacity := (h.regular.within_of_holds h.holds).2

end Pending

end CapabilityBroker.Pool
