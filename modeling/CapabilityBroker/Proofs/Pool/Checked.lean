/-
CapabilityBroker/Proofs/Pool/Checked.lean

Pools whose sums are machine words.

Here each sum and each difference that a pool takes is checked: a sum must be
a 64-bit word, a difference must not be negative, and the number of a slot is
cut to the 32 bits that a reservation has for it.  A check that fails aborts.
At every sound desk whose pool has fewer than `capacityLimit` slots this is
what the pool does over the natural numbers (`checked_follows`), so none of
the checks ever fails and nothing is cut off.
-/
import CapabilityBroker.Proofs.Pool.Plain

namespace CapabilityBroker.Pool

variable {α ε : Type} {p : Pool α} {n m count tries start : Nat}

/-! ### Checked numbers -/

/-- A sum that must be a 64-bit word. -/
def sum (n m : Nat) : Step (Pool α) ε Nat :=
  if n + m < UInt64.size then pure (n + m) else Step.abort

/-- A difference that must not be negative. -/
def difference (n m : Nat) : Step (Pool α) ε Nat := if m ≤ n then pure (n - m) else Step.abort

/-- A reservation with the number of its slot cut to 32 bits. -/
def cut (r : Reservation α) : Reservation α := { r with index := r.index % UInt32.size }

section

variable {β : Type} {f : Nat → Step (Pool α) ε β} {post : β → Pool α → Prop}
variable {stop : Stop ε → Pool α → Prop}

theorem sum_bind (h : n + m < UInt64.size) (k : (f (n + m)).Leads p post stop) :
    (sum n m >>= f).Leads p post stop := by
  unfold sum
  rw [if_pos h]
  exact k

theorem difference_bind (h : m ≤ n) (k : (f (n - m)).Leads p post stop) :
    (difference n m >>= f).Leads p post stop := by
  unfold difference
  rw [if_pos h]
  exact k

end

theorem cut_eq {r : Reservation α} (h : r.index < UInt32.size) : cut r = r := by
  obtain ⟨index, generation⟩ := r
  unfold cut
  rw [Nat.mod_eq_of_lt h]

/-! ### The operations with checks -/

/-- The search for a run, with its sums checked. -/
def checkedRun? (count : Nat) : (tries start : Nat) → Step (Pool α) Refusal (Option Nat)
  | 0, _ => pure none
  | tries + 1, start => do
    let p ← get
    let after ← sum start count
    let last ← difference after 1
    if last ≤ p.capacity then
      match p.firstBusy? count start with
      | none => pure (some start)
      | some busy =>
        let next ← sum busy 1
        checkedRun? count tries next
    else pure none

/-- A pool that checks its numbers. -/
def checked : Server (Pool α) α
  | .allocate => do
    let p ← get
    match p.firstFree? (p.capacity + 1 - p.lowWater) p.lowWater with
    | none => Step.refuse (.exhausted p.name)
    | some index =>
      let next ← sum index 1
      set { p.reserve index with lowWater := next }
      pure (.reserved [cut (p.reservation index)])
  | .allocateRun count => do
    let p ← get
    if count = 0 then pure (.reserved [])
    else if count > p.capacity then Step.refuse (.exhausted p.name)
    else
      match ← checkedRun? count (p.capacity + 1) p.lowWater with
      | none => Step.refuse (.exhausted p.name)
      | some start =>
        let after ← sum start count
        let lowWater := if start = p.lowWater then after else p.lowWater
        set { p.reserveAll (List.range' start count) with lowWater := lowWater }
        pure (.reserved ((List.range' start count).map fun i => cut (p.reservation i)))
  | .allocateAt index => do
    let p ← get
    if index = 0 ∨ index > p.capacity then Step.refuse (.outOfRange p.name index)
    else if p.isFree index then
      set (p.reserve index)
      pure (.reserved [cut (p.reservation index)])
    else Step.refuse (.occupied p.name index)
  | .activate r object => do
    let p ← get
    match (p.entry r.index).slot with
    | .reserved =>
      if (p.entry r.index).generation = r.generation then
        let active ← sum p.active 1
        set { p.setEntry r.index ⟨r.generation, .active object⟩ with active := active }
        pure (.published r.handle)
      else Step.abort
    | _ => Step.abort
  | .free h => do
    let p ← get
    match p.get? h with
    | some object =>
      let active ← difference p.active 1
      set { p.release h.index with active := active }
      pure (.removed object)
    | none => Step.refuse (.stale p.name h.index)
  | use => serve use

/-! ### No check fails -/

theorem exists_of_firstBusy? {busy : Nat} (h : p.firstBusy? count start = some busy) :
    start ≤ busy ∧ busy < start + count := by
  rw [firstBusy?_eq_find?, List.find?_range'_eq_some, List.mem_range'_1] at h
  exact h.2.1

theorem two_mul_capacityLimit_le : 2 * capacityLimit ≤ UInt64.size := by decide

/-- No sum of the search is too large: it never looks behind the last slot. -/
theorem checkedRun?_leads (hlimit : p.capacity < capacityLimit) (hpos : count ≠ 0)
    (hcount : count ≤ p.capacity) (hstart : start ≤ p.capacity + 1)
    {stop : Stop Refusal → Pool α → Prop} :
    (checkedRun? count tries start).Leads p
      (fun found p' => found = p.findRun? count tries start ∧ p' = p) stop := by
  have hroom := two_mul_capacityLimit_le
  induction tries generalizing start with
  | zero => exact Step.leads_pure.2 ⟨rfl, rfl⟩
  | succ tries ih =>
    refine Step.Leads.get_bind (sum_bind (by omega) (difference_bind (by omega) ?_))
    unfold findRun?
    refine Step.Leads.ite (fun hle => ?_) fun hgt => ?_
    · rw [if_pos (by omega)]
      cases hbusy : p.firstBusy? count start with
      | none => exact Step.leads_pure.2 ⟨rfl, rfl⟩
      | some busy =>
        obtain ⟨_, hlt⟩ := exists_of_firstBusy? hbusy
        exact sum_bind (by omega) (ih (by omega))
    · rw [if_neg (by omega)]
      exact Step.leads_pure.2 ⟨rfl, rfl⟩

variable {p' : Pool α} {use : Use α}

theorem checked_effect {a : Answer α} (hready : Ready p use) (he : Effect p use a p') :
    (checked use).Leads p (fun a' st => a' = a ∧ st = p') (fun _ _ => False) := by
  have hlimit := hready.limit
  have hbound := hready.regular.bound
  have hroom := two_mul_capacityLimit_le
  have hword : capacityLimit = UInt32.size := rfl
  cases he with
  | @allocate index first =>
    obtain ⟨_, hlt, _⟩ := firstFree?_eq_some first
    refine Step.Leads.get_bind ?_
    rw [first]
    refine sum_bind (by omega) (Step.Leads.set_bind (Step.leads_pure.2 ⟨?_, rfl⟩))
    rw [cut_eq (show index < UInt32.size by omega)]
  | allocateNone => exact Step.Leads.get_bind (Step.leads_pure.2 ⟨rfl, rfl⟩)
  | @allocateRun count start positive first =>
    obtain ⟨hle, hend, _⟩ := findRun?_eq_some first
    refine Step.Leads.get_bind (Step.Leads.ite (fun h => absurd h positive) fun _ => ?_)
    refine Step.Leads.ite (fun hlong => ?_) fun hshort => ?_
    · have hstart := hready.regular.pos
      omega
    · refine Step.Leads.bind (checkedRun?_leads hlimit positive (Nat.le_of_not_lt hshort) hbound)
        fun found p' hfound => ?_
      rw [hfound.1, hfound.2, first]
      refine sum_bind (by omega) (Step.Leads.set_bind (Step.leads_pure.2 ⟨?_, rfl⟩))
      refine congrArg Answer.reserved (List.map_congr_left fun i hi => cut_eq ?_)
      rw [List.mem_range'_1] at hi
      show i < UInt32.size
      omega
  | @allocateAt index positive within free =>
    refine Step.Leads.get_bind (Step.Leads.ite (fun hout => ?_) fun _ => ?_)
    · exact absurd hout (not_or.2 ⟨positive, Nat.not_lt.2 within⟩)
    · refine Step.Leads.ite (fun _ => ?_) fun hbusy => absurd free hbusy
      refine Step.Leads.set_bind (Step.leads_pure.2 ⟨?_, rfl⟩)
      rw [cut_eq (show index < UInt32.size by omega)]
  | @activate r object holds =>
    refine Step.Leads.get_bind ?_
    rw [holds.slot]
    refine Step.Leads.ite (fun _ => ?_) fun hg => absurd (congrArg Entry.generation holds) hg
    have hactive := hready.regular.active_le
    refine sum_bind (show p.active + 1 < _ by omega) ?_
    exact Step.Leads.set_bind (Step.leads_pure.2 ⟨rfl, rfl⟩)
  | drop => exact Step.Leads.get_bind (Step.Leads.set_bind (Step.leads_pure.2 ⟨rfl, rfl⟩))
  | @free h object reaches =>
    refine Step.Leads.get_bind ?_
    rw [reaches]
    refine difference_bind (hready.regular.active_pos reaches) ?_
    exact Step.Leads.set_bind (Step.leads_pure.2 ⟨rfl, rfl⟩)
  | look => exact Step.Leads.get_bind (Step.leads_pure.2 ⟨rfl, rfl⟩)
  | change => exact Step.Leads.get_bind (Step.Leads.set_bind (Step.leads_pure.2 ⟨rfl, rfl⟩))
  | count => exact Step.Leads.get_bind (Step.leads_pure.2 ⟨rfl, rfl⟩)

theorem checked_declined {why : Stop Refusal} (hready : Ready p use) (hd : Declined p use why) :
    (checked use).Leads p (fun _ _ => False) (fun why' st => why' = why ∧ st = p) := by
  have hbound := hready.regular.bound
  cases hd with
  | allocate full =>
    refine Step.Leads.get_bind ?_
    rw [full]
    exact Step.leads_refuse.2 ⟨rfl, rfl⟩
  | @allocateRun count positive full =>
    refine Step.Leads.get_bind (Step.Leads.ite (fun h => absurd h positive) fun _ => ?_)
    refine Step.Leads.ite (fun _ => Step.leads_refuse.2 ⟨rfl, rfl⟩) fun hshort => ?_
    refine Step.Leads.bind (checkedRun?_leads hready.limit positive (Nat.le_of_not_lt hshort)
      hbound) fun found p' hfound => ?_
    rw [hfound.1, hfound.2, full.resolve_left hshort]
    exact Step.leads_refuse.2 ⟨rfl, rfl⟩
  | outOfRange outside =>
    refine Step.Leads.get_bind (Step.Leads.ite (fun _ => ?_) fun hin => absurd outside hin)
    exact Step.leads_refuse.2 ⟨rfl, rfl⟩
  | occupied positive within busy =>
    refine Step.Leads.get_bind (Step.Leads.ite (fun hout => ?_) fun _ => ?_)
    · exact absurd hout (not_or.2 ⟨positive, Nat.not_lt.2 within⟩)
    · refine Step.Leads.ite (fun hfree => absurd hfree busy) fun _ => ?_
      exact Step.leads_refuse.2 ⟨rfl, rfl⟩
  | unheld lost => exact absurd (hready.holds _ rfl) lost
  | stale lost =>
    refine Step.Leads.get_bind ?_
    rw [lost]
    exact Step.leads_refuse.2 ⟨rfl, rfl⟩

/-- What a pool does over the natural numbers, it does with every number
checked. -/
theorem checked_follows : Follows (checked : Server (Pool α) α) id :=
  ⟨checked_effect, checked_declined⟩

end CapabilityBroker.Pool
