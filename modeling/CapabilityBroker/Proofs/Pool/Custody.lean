/-
CapabilityBroker/Proofs/Pool/Custody.lean

What holds of every pool in use.

A pool is regular: nothing is free below its low-water mark, the slots that
it does not have were never touched, and its count of objects is right.  At a
desk, moreover, each reservation that is held is still kept by the pool, and
no slot is held twice.  Both are kept by every use that the callers can make,
so both hold of every desk that began with a new pool and empty hands.

The mark only ever passes slots that are not free, and comes back to every
slot that becomes free; `allocateAt` leaves it where it is, as a slot that is
taken above the mark, or at it, frees nothing below.
-/
import Mathlib.Data.List.Nodup
import CapabilityBroker.Proofs.Pool.Desk
import CapabilityBroker.Proofs.Pool.Search
import CapabilityBroker.Proofs.Pool.Dense

namespace CapabilityBroker.Pool

variable {α : Type} {p p' : Pool α} {i index start count : Nat} {use : Use α} {a : Answer α}

/-! ### Counting objects -/

/-- The number of objects, counted slot by slot. -/
def objects (p : Pool α) : Nat := (List.range' 1 p.capacity).countP fun i => (p.at? i).isSome

theorem objects_congr (hcapacity : p'.capacity = p.capacity)
    (h : ∀ i, (p'.at? i).isSome = (p.at? i).isSome) : p'.objects = p.objects := by
  unfold objects
  rw [hcapacity]
  exact List.countP_congr fun i _ => by rw [h i]

/-- One more slot with an object is one more object. -/
theorem objects_succ (hcapacity : p'.capacity = p.capacity) (hpos : 1 ≤ index)
    (hle : index ≤ p.capacity) (hnew : (p'.at? index).isSome = true) (hold : p.at? index = none)
    (hother : ∀ i, index ≠ i → p'.at? i = p.at? i) : p'.objects = p.objects + 1 := by
  have hmem : index ∈ List.range' 1 p.capacity := List.mem_range'_1.2 ⟨hpos, by omega⟩
  have hperm := List.perm_cons_erase hmem
  have hrest : ((List.range' 1 p.capacity).erase index).countP (fun i => (p'.at? i).isSome) =
      ((List.range' 1 p.capacity).erase index).countP fun i => (p.at? i).isSome := by
    refine List.countP_congr fun i hi => ?_
    have hnodup : (List.range' 1 p.capacity).Nodup := List.nodup_range'
    rw [hother i (Ne.symm (hnodup.mem_erase_iff.1 hi).1)]
  have hout : ¬ (p.at? index).isSome = true := by simp [hold]
  unfold objects
  rw [hcapacity, hperm.countP_eq, hperm.countP_eq, List.countP_cons, List.countP_cons, hrest,
    if_pos hnew, if_neg hout]

/-! ### Regular pools -/

theorem Holds.slot {r : Reservation α} (h : p.Holds r) : (p.entry r.index).slot = .reserved :=
  congrArg Entry.slot h

theorem slot_of_get? {h : Handle α} {o : α} (ho : p.get? h = some o) :
    (p.entry h.index).slot = .active o :=
  congrArg Entry.slot (get?_eq_some_iff.1 ho)

/-- A handle that reaches nothing changes nothing. -/
theorem modify_of_stale {h : Handle α} (ho : p.get? h = none) (f : α → α) :
    p.modify h f = p := by
  unfold modify
  rcases he : p.entry h.index with ⟨g, _ | _ | o⟩
  · rfl
  · rfl
  · refine if_neg fun hg => ?_
    obtain rfl : g = h.generation := hg
    cases ho.symm.trans (get?_eq_some_iff.2 he)

theorem isFree_eq_false_iff : p.isFree i = false ↔ (p.entry i).slot ≠ .free := by
  rw [← Bool.not_eq_true, isFree_iff]

/-- The mark and the count are right, and no slot is used that is not
there. -/
structure Regular (p : Pool α) : Prop where
  pos : 1 ≤ p.lowWater
  bound : p.lowWater ≤ p.capacity + 1
  busy : ∀ i, 1 ≤ i → i < p.lowWater → p.isFree i = false
  outside : ∀ i, i = 0 ∨ p.capacity < i → p.entry i = .fresh
  counted : p.active = p.objects

theorem regular_create (name : String) (capacity : Nat) :
    (create name capacity : Pool α).Regular where
  pos := Nat.le_refl 1
  bound := Nat.le_add_left 1 capacity
  busy i hpos hlt := absurd hpos (Nat.not_le.2 hlt)
  outside i _ := entry_create name capacity i
  counted := by
    refine (List.countP_eq_zero.2 fun i _ => ?_).symm
    unfold at?
    rw [entry_create]
    exact Bool.false_ne_true

namespace Regular

/-- A slot that was ever touched is one of the pool's. -/
theorem within (h : p.Regular) (hi : p.entry i ≠ .fresh) : 1 ≤ i ∧ i ≤ p.capacity := by
  by_contra hout
  exact hi (h.outside i (by omega))

theorem within_of_holds {r : Reservation α} (h : p.Regular) (hr : p.Holds r) :
    1 ≤ r.index ∧ r.index ≤ p.capacity := by
  refine h.within fun hfresh => ?_
  have hslot := hr.slot
  rw [hfresh] at hslot
  cases hslot

theorem within_of_get? {hd : Handle α} {o : α} (h : p.Regular) (ho : p.get? hd = some o) :
    1 ≤ hd.index ∧ hd.index ≤ p.capacity := by
  refine h.within fun hfresh => ?_
  have hslot := slot_of_get? ho
  rw [hfresh] at hslot
  cases hslot

theorem active_le (h : p.Regular) : p.active ≤ p.capacity := by
  rw [h.counted]
  exact Nat.le_trans List.countP_le_length (Nat.le_of_eq List.length_range')

theorem active_pos {hd : Handle α} {o : α} (h : p.Regular) (ho : p.get? hd = some o) :
    1 ≤ p.active := by
  have hwithin := h.within_of_get? ho
  rw [h.counted]
  refine List.countP_pos_iff.2 ⟨hd.index, List.mem_range'_1.2 ⟨hwithin.1, by omega⟩, ?_⟩
  rw [at?_eq_some (get?_eq_some_iff.1 ho)]
  rfl

/-- A pool whose slots are reserved and given up, none of them below the
mark that is left, stays regular. -/
theorem of_reserves (h : p.Regular) (hmoves : p.Reserves p') (hactive : p'.active = p.active)
    (hcapacity : p'.capacity = p.capacity) (hpos : 1 ≤ p'.lowWater)
    (hbound : p'.lowWater ≤ p.capacity + 1)
    (hbusy : ∀ i, 1 ≤ i → i < p'.lowWater → p'.isFree i = false)
    (houtside : ∀ i, i = 0 ∨ p.capacity < i → p'.entry i = p.entry i) : p'.Regular where
  pos := hpos
  bound := by rw [hcapacity]; exact hbound
  busy := hbusy
  outside i hi := by
    rw [hcapacity] at hi
    exact (houtside i hi).trans (h.outside i hi)
  counted := by
    rw [hactive, h.counted]
    exact (objects_congr hcapacity fun i => by rw [hmoves.at?_eq]).symm

theorem reserve (h : p.Regular) (hfree : (p.entry index).slot = .free) (hpos : 1 ≤ index)
    (hle : index ≤ p.capacity) {mark : Nat} (hmark : 1 ≤ mark) (hbound : mark ≤ p.capacity + 1)
    (hbusy : ∀ i, 1 ≤ i → i < mark → i ≠ index → p.isFree i = false) :
    ({ p.reserve index with lowWater := mark } : Pool α).Regular := by
  have hentry : ∀ i, ({ p.reserve index with lowWater := mark } : Pool α).entry i =
      if index = i then { p.entry i with slot := .reserved } else p.entry i := entry_reserve p index
  have hmoves : p.Reserves { p.reserve index with lowWater := mark } :=
    .reserve (.of_free hfree) fun _ => by omega
  refine h.of_reserves hmoves rfl rfl hmark hbound ?_ ?_
  · intro i hi hlt
    rw [isFree_eq_false_iff, hentry]
    split
    · exact nofun
    · next hne => exact isFree_eq_false_iff.1 (hbusy i hi hlt (Ne.symm hne))
  · intro i hi
    rw [hentry, if_neg (by omega)]

theorem reserveRun (h : p.Regular) (hmark : p.lowWater ≤ start)
    (hle : start + count ≤ p.capacity + 1)
    (hfree : ∀ i, start ≤ i → i < start + count → (p.entry i).slot = .free) :
    (p.reserveRun start count).Regular := by
  have hpos := Nat.le_trans h.pos hmark
  refine h.of_reserves (Moves.reserveRun hmark fun i h₁ h₂ => .of_free (hfree i h₁ h₂)) ?_
    capacity_reserveRun ?_ ?_ ?_ ?_
  · have hactive : ∀ indices : List Nat, ∀ q : Pool α,
        (q.reserveAll indices).active = q.active := by
      intro indices
      induction indices with
      | nil => exact fun _ => rfl
      | cons j rest ih => exact fun q => ih (q.reserve j)
    exact hactive _ p
  · show 1 ≤ if start = p.lowWater then start + count else p.lowWater
    split
    · omega
    · exact h.pos
  · show (if start = p.lowWater then start + count else p.lowWater) ≤ _
    split
    · exact hle
    · exact h.bound
  · intro i hi hlt
    rw [isFree_eq_false_iff, entry_reserveRun]
    split
    · exact nofun
    · next hout =>
      refine isFree_eq_false_iff.1 (h.busy i hi ?_)
      have hlt' : i < if start = p.lowWater then start + count else p.lowWater := hlt
      split at hlt' <;> omega
  · intro i hi
    rw [entry_reserveRun, if_neg (by omega)]

/-- A slot that becomes free takes the mark back to itself. -/
theorem release (h : p.Regular) (hpos : 1 ≤ index) (hle : index ≤ p.capacity) {active : Nat}
    (hactive : active = ({ p.release index with active } : Pool α).objects) :
    ({ p.release index with active } : Pool α).Regular := by
  have hentry : ∀ i, ({ p.release index with active } : Pool α).entry i =
      if index = i then ⟨(p.entry i).generation + 1, .free⟩ else p.entry i := entry_release p index
  have hmark : ({ p.release index with active } : Pool α).lowWater = min p.lowWater index := rfl
  have hmin := h.pos
  have hbound := h.bound
  refine ⟨?_, ?_, fun i hi hlt => ?_, fun i hi => ?_, hactive⟩
  · rw [hmark]
    omega
  · show min p.lowWater index ≤ p.capacity + 1
    omega
  · rw [hmark] at hlt
    rw [isFree_eq_false_iff, hentry, if_neg (by omega)]
    exact isFree_eq_false_iff.1 (h.busy i hi (by omega))
  · have hi : i = 0 ∨ p.capacity < i := hi
    rw [hentry, if_neg (by omega)]
    exact h.outside i hi

theorem publish {r : Reservation α} {o : α} (h : p.Regular) (hr : p.Holds r) :
    (p.publish r o).Regular where
  pos := h.pos
  bound := h.bound
  busy i hi hlt := by
    rw [isFree_eq_false_iff, entry_publish]
    split
    · exact nofun
    · exact isFree_eq_false_iff.1 (h.busy i hi hlt)
  outside i hi := by
    have hi : i = 0 ∨ p.capacity < i := hi
    have hwithin := h.within_of_holds hr
    rw [entry_publish, if_neg (by omega)]
    exact h.outside i hi
  counted := by
    have hwithin := h.within_of_holds hr
    have hcount : (p.publish r o).objects = p.objects + 1 := by
      refine objects_succ rfl hwithin.1 hwithin.2 ?_ ?_ fun i hi => ?_
      · rw [at?_publish, if_pos rfl]
        rfl
      · unfold at?
        rw [hr]
      · rw [at?_publish, if_neg hi]
    rw [hcount, ← h.counted]
    rfl

theorem free {hd : Handle α} {o : α} (h : p.Regular) (ho : p.get? hd = some o) :
    ({ p.release hd.index with active := p.active - 1 } : Pool α).Regular := by
  have hwithin := h.within_of_get? ho
  refine h.release hwithin.1 hwithin.2 ?_
  have hentry : ∀ i, ({ p.release hd.index with active := p.active - 1 } : Pool α).entry i =
      if hd.index = i then ⟨(p.entry i).generation + 1, .free⟩ else p.entry i :=
    entry_release p hd.index
  have hcount : p.objects =
      ({ p.release hd.index with active := p.active - 1 } : Pool α).objects + 1 := by
    refine objects_succ rfl hwithin.1 hwithin.2 ?_ ?_ fun i hi => ?_
    · rw [at?_eq_some (get?_eq_some_iff.1 ho)]
      rfl
    · unfold at?
      rw [hentry, if_pos rfl]
    · refine at?_congr ?_
      rw [hentry, if_neg hi]
  rw [h.counted, hcount]
  exact Nat.add_sub_cancel _ 1

theorem unreserve {r : Reservation α} (h : p.Regular) (hr : p.Holds r) :
    (p.unreserve r).Regular := by
  have hwithin := h.within_of_holds hr
  have hrelease : p.unreserve r = p.release r.index := by
    unfold Pool.unreserve
    rw [hr]
  rw [hrelease]
  have hcounted : p.active = (p.release r.index).objects := by
    rw [h.counted, ← hrelease]
    exact (objects_congr (capacity_unreserve r) fun i => by rw [(Moves.unreserve r).at?_eq]).symm
  exact h.release hwithin.1 hwithin.2 hcounted

theorem modify (h : p.Regular) (hd : Handle α) (f : α → α) : (p.modify hd f).Regular := by
  obtain ⟨entries, heq⟩ := p.modify_eq hd f
  have hslot : ∀ i, (p.modify hd f).entry i = p.entry i ∨
      ∃ o, p.entry i = ⟨hd.generation, .active o⟩ ∧
        (p.modify hd f).entry i = ⟨hd.generation, .active (f o)⟩ := by
    intro i
    rw [entry_modify]
    split
    · next o ho =>
      split
      · next hi => exact .inr ⟨o, hi ▸ get?_eq_some_iff.1 ho, rfl⟩
      · exact .inl rfl
    · exact .inl rfl
  have hmark : (p.modify hd f).lowWater = p.lowWater := lowWater_modify hd f
  refine ⟨by rw [hmark]; exact h.pos, by rw [hmark, capacity_modify]; exact h.bound,
    fun i hi hlt => ?_, fun i hi => ?_, ?_⟩
  · rw [hmark] at hlt
    rw [isFree_eq_false_iff]
    rcases hslot i with he | ⟨o, _, he⟩
    · rw [he]
      exact isFree_eq_false_iff.1 (h.busy i hi hlt)
    · rw [he]
      exact nofun
  · rw [capacity_modify] at hi
    rcases hslot i with he | ⟨o, hold, _⟩
    · exact he.trans (h.outside i hi)
    · have hslot := congrArg Entry.slot hold
      rw [h.outside i hi] at hslot
      cases hslot
  · have hactive : (p.modify hd f).active = p.active := by rw [heq]
    rw [hactive, h.counted]
    refine (objects_congr (capacity_modify hd f) fun i => ?_).symm
    rcases hslot i with he | ⟨o, hold, he⟩
    · rw [at?_congr he]
    · rw [at?_eq_some hold, at?_eq_some he]
      rfl

/-- Every use that can be made keeps a pool regular. -/
theorem effect (h : p.Regular) (he : Effect p use a p')
    (hspent : ∀ r, use.spent? = some r → p.Holds r) : p'.Regular := by
  cases he with
  | @allocate index first =>
    rw [firstFree?_eq_find?, List.find?_range'_eq_some, List.mem_range'_1] at first
    obtain ⟨hfree, hmem, hbefore⟩ := first
    have hpos := h.pos
    refine h.reserve (isFree_iff.1 hfree) (by omega) (by omega) (by omega) (by omega) ?_
    intro i hi hlt hne
    rcases Nat.lt_or_ge i p.lowWater with hlow | hhigh
    · exact h.busy i hi hlow
    · simpa using hbefore i hhigh (by omega)
  | allocateNone => exact h
  | allocateRun positive first =>
    obtain ⟨hle, hend, hfree⟩ := findRun?_eq_some first
    exact h.reserveRun hle hend hfree
  | allocateAt positive within free =>
    have hreserve := h.reserve (isFree_iff.1 free) (Nat.pos_of_ne_zero positive) within
      h.pos h.bound fun i hi hlt _ => h.busy i hi hlt
    exact hreserve
  | activate holds => exact h.publish holds
  | drop => exact h.unreserve (hspent _ rfl)
  | free reaches => exact h.free reaches
  | look => exact h
  | change => exact h.modify _ _
  | count => exact h

end Regular

/-! ### What becomes of reservations -/

/-- The numbers that reservations carry are those of their slots. -/
theorem holds_reservation (he : p'.entry i = { p.entry i with slot := .reserved }) :
    p'.Holds (p.reservation i) := he

/-- A reservation stays kept until it is spent. -/
theorem Effect.keeps {r : Reservation α} (he : Effect p use a p') (hr : p.Holds r)
    (hother : ∀ r', use.spent? = some r' → r'.index ≠ r.index) : p'.Holds r := by
  have hbusy : (p.entry r.index).slot ≠ .free := by rw [hr.slot]; exact nofun
  have hnot : ∀ j, (p.entry j).slot = .free → j ≠ r.index := by
    rintro j hj rfl
    exact hbusy hj
  have hget : ∀ (hd : Handle α) o, p.get? hd = some o → hd.index ≠ r.index := by
    intro hd o ho hi
    have hslot := slot_of_get? ho
    rw [hi, hr.slot] at hslot
    cases hslot
  unfold Holds
  cases he with
  | @allocate index first =>
    show (p.reserve index).entry r.index = _
    rw [entry_reserve, if_neg (hnot _ (firstFree?_eq_some first).2.2)]
    exact hr
  | allocateNone => exact hr
  | allocateRun positive first =>
    obtain ⟨_, _, hfree⟩ := findRun?_eq_some first
    rw [entry_reserveRun, if_neg fun hin => hbusy (hfree _ hin.1 hin.2)]
    exact hr
  | allocateAt positive within free =>
    rw [entry_reserve, if_neg (hnot _ (isFree_iff.1 free))]
    exact hr
  | activate holds =>
    rw [entry_publish, if_neg (hother _ rfl)]
    exact hr
  | drop =>
    rw [entry_unreserve, if_neg (hother _ rfl)]
    exact hr
  | @free hd o reaches =>
    show (p.release hd.index).entry r.index = _
    rw [entry_release, if_neg (hget _ _ reaches)]
    exact hr
  | look => exact hr
  | change =>
    rw [entry_modify]
    split
    · next o ho =>
      rw [if_neg (hget _ _ ho)]
      exact hr
    · exact hr
  | count => exact hr

theorem index_runOf : (p.runOf start count).map Reservation.index = List.range' start count := by
  unfold runOf
  rw [List.map_map]
  exact List.map_id' _

/-- What is handed out is kept, and its slots were free. -/
theorem Effect.given_holds {r : Reservation α} (he : Effect p use a p') (hr : r ∈ a.given) :
    p'.Holds r ∧ (p.entry r.index).slot = .free := by
  cases he with
  | @allocate index first =>
    obtain rfl := List.mem_singleton.1 hr
    refine ⟨holds_reservation ?_, (firstFree?_eq_some first).2.2⟩
    show (p.reserve index).entry index = _
    rw [entry_reserve, if_pos rfl]
  | allocateRun positive first =>
    obtain ⟨_, _, hfree⟩ := findRun?_eq_some first
    obtain ⟨i, hi, rfl⟩ := List.mem_map.1 hr
    rw [List.mem_range'_1] at hi
    refine ⟨holds_reservation ?_, hfree i hi.1 hi.2⟩
    rw [entry_reserveRun, if_pos hi]
  | @allocateAt index positive within free =>
    obtain rfl := List.mem_singleton.1 hr
    refine ⟨holds_reservation ?_, isFree_iff.1 free⟩
    rw [entry_reserve, if_pos rfl]
  | _ => cases hr

theorem Effect.given_nodup (he : Effect p use a p') : (a.given.map Reservation.index).Nodup := by
  cases he with
  | allocate first => exact List.nodup_singleton _
  | allocateRun positive first =>
    show ((p.runOf _ _).map Reservation.index).Nodup
    rw [index_runOf]
    exact List.nodup_range'
  | allocateAt positive within free => exact List.nodup_singleton _
  | _ => exact List.nodup_nil

theorem Effect.capacity_eq (he : Effect p use a p') : p'.capacity = p.capacity := by
  cases he with
  | allocateRun positive first => exact capacity_reserveRun
  | drop => exact capacity_unreserve _
  | change => exact capacity_modify _ _
  | _ => rfl

/-! ### Desks -/

namespace Desk

variable {d : Desk (Pool α) α}

/-- The pool is regular, it keeps what is held, and nothing is held twice. -/
structure Sound (d : Desk (Pool α) α) : Prop where
  regular : d.pool.Regular
  holds : ∀ r ∈ d.held, d.pool.Holds r
  distinct : (d.held.map Reservation.index).Nodup

/-- A new pool before anyone has used it. -/
def opened (name : String) (capacity : Nat) : Desk (Pool α) α := ⟨create name capacity, []⟩

theorem sound_opened (name : String) (capacity : Nat) :
    (opened name capacity : Desk (Pool α) α).Sound where
  regular := regular_create name capacity
  holds _ hr := absurd hr List.not_mem_nil
  distinct := List.nodup_nil

theorem left_sublist (d : Desk (Pool α) α) (use : Use α) : (d.left use).Sublist d.held := by
  unfold left
  split
  · exact List.erase_sublist
  · exact List.Sublist.refl _

namespace Sound

/-- A reservation that is left has another slot than the one that is spent. -/
theorem index_ne (h : d.Sound) {r r' : Reservation α} (hr : r ∈ d.left use)
    (hr' : r' ∈ d.held) (hspent : use.spent? = some r') : r'.index ≠ r.index := by
  intro hindex
  have hnodup : d.held.Nodup := h.distinct.of_map _
  unfold left at hr
  rw [hspent] at hr
  obtain ⟨hne, hmem⟩ := hnodup.mem_erase_iff.1 hr
  exact hne (List.inj_on_of_nodup_map h.distinct hmem hr' hindex.symm)

/-- Every use keeps a desk sound. -/
theorem next (h : d.Sound) (use : Use α) : (d.next serve use).Sound := by
  by_cases ho : d.offers use = true
  · have hspent : ∀ r, use.spent? = some r → r ∈ d.held := fun r hr => mem_held ho hr
    have hleft : ∀ r ∈ d.left use, r ∈ d.held := fun r hr => (d.left_sublist use).subset hr
    have hdistinct : ((d.left use).map Reservation.index).Nodup :=
      h.distinct.sublist ((d.left_sublist use).map _)
    rcases ends (serve_leads use) ho with ⟨a, p, he, _, hnext⟩ | ⟨why, p, ⟨_, rfl⟩, _, hnext⟩
    · rw [hnext]
      refine ⟨h.regular.effect he fun r hr => h.holds r (hspent r hr), fun r hr => ?_, ?_⟩
      · rcases List.mem_append.1 hr with hnew | hold
        · exact (he.given_holds hnew).1
        · exact he.keeps (h.holds r (hleft r hold)) fun r' hr' =>
            h.index_ne hold (hspent r' hr') hr'
      · rw [List.map_append]
        refine List.nodup_append.2 ⟨he.given_nodup, hdistinct, fun i hi j hj => ?_⟩
        rintro rfl
        obtain ⟨r, hr, rfl⟩ := List.mem_map.1 hi
        obtain ⟨r', hr', hindex⟩ := List.mem_map.1 hj
        have hfree := (he.given_holds hr).2
        rw [← hindex, h.holds r' (hleft r' hr')] at hfree
        cases hfree
    · rw [hnext]
      exact ⟨h.regular, fun r hr => h.holds r (hleft r hr), hdistinct⟩
  · rw [next_of_not_offers ho]
    exact h

theorem run (h : d.Sound) (uses : List (Use α)) : (d.run serve uses).Sound :=
  run_induction (fun _ use h => h.next use) h uses

end Sound

end Desk

end CapabilityBroker.Pool
