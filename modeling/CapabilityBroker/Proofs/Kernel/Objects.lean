/-
CapabilityBroker/Proofs/Kernel/Objects.lean

What comes and goes in the kernel, object by object.

The objects of the kernel are its threads and the live slots of all capability
tables.  `Grants k k' into slots` says that between the two states exactly
`slots` were handed out, all of them in one table.  Since slots are numbered
upwards, none of them was live before, so what is taken back later is just
what was handed out, and the objects are again those of the first state.

A primitive that needs three slots may find that the table has only one or two
left (`Short`).  It is then refused with those taken (`BreaksOff`); that is
the one way in which a refusal of a primitive leaves objects behind.
-/
import Mathlib.Data.Set.BooleanAlgebra
import Mathlib.Order.CompletePartialOrder
import Mathlib.Tactic.ByContra
import CapabilityBroker.Proofs.Kernel.Move

namespace CapabilityBroker.Kernel

variable {α : Type} {k k' k'' first : Kernel} {into owner d : ComponentId} {s : Space}
  {slot : UInt64} {taken more : List UInt64}

/-! ### Objects -/

/-- The live slots of all capability tables. -/
def liveSlots (k : Kernel) : Set (ComponentId × UInt64) := {p | k.holds p.1 p.2 = true}

/-- The threads and the live slots. -/
def objects (k : Kernel) : Std.ExtTreeMap ThreadId ComponentId × Set (ComponentId × UInt64) :=
  (k.threads, k.liveSlots)

/-- Slots of one table. -/
def slotsIn (id : ComponentId) (slots : List UInt64) : Set (ComponentId × UInt64) :=
  {p | p.1 = id ∧ p.2 ∈ slots}

/-- The slots that a component's table has left. -/
def room (k : Kernel) (id : ComponentId) : Nat :=
  match k.space? id with
  | some s => s.captblLimit.toNat - s.captblFrontier.toNat
  | none => 0

/-- Too few for the three slots of an endpoint, but not none. -/
def Short (room : Nat) : Prop := 0 < room ∧ room < 3

instance (room : Nat) : Decidable (Short room) := inferInstanceAs (Decidable (_ ∧ _))

/-- The refusal is that of a table without slots. -/
def Refusal.IsFull (reason : Refusal) : Prop := ∃ id, reason = .capabilityTableFull id

theorem mem_liveSlots {p : ComponentId × UInt64} :
    p ∈ k.liveSlots ↔ ∃ s, k.space? p.1 = some s ∧ p.2 ∈ s.liveCaps := by
  show k.holds p.1 p.2 = true ↔ _
  unfold holds
  cases k.space? p.1 with
  | none => simp
  | some s => simp

theorem room_eq (hs : k.space? into = some s) :
    k.room into = s.captblLimit.toNat - s.captblFrontier.toNat := by
  unfold room
  rw [hs]

/-- At the end of its table, a component has no room. -/
theorem room_eq_zero (hs : k.space? into = some s) (hfull : s.captblLimit ≤ s.captblFrontier) :
    k.room into = 0 := by
  rw [room_eq hs]
  exact Nat.sub_eq_zero_of_le (UInt64.le_iff_toNat_le.1 hfull)

@[simp] theorem slotsIn_nil : slotsIn into [] = ∅ := by
  ext p
  simp [slotsIn]

theorem slotsIn_append : slotsIn into (taken ++ more) = slotsIn into taken ∪ slotsIn into more := by
  ext p
  simp [slotsIn, and_or_left]

theorem slotsIn_eq_empty_iff : slotsIn into taken = ∅ ↔ taken = [] := by
  refine ⟨fun h => List.eq_nil_iff_forall_not_mem.2 fun slot hslot => ?_, fun h => h ▸ slotsIn_nil⟩
  have hmem : (into, slot) ∈ slotsIn into taken := ⟨rfl, hslot⟩
  rw [h] at hmem
  exact hmem

/-- Slots that were not live before are missed unless there are none. -/
theorem union_slotsIn_eq_iff {live : Set (ComponentId × UInt64)}
    (h : Disjoint live (slotsIn into taken)) : live ∪ slotsIn into taken = live ↔ taken = [] := by
  rw [Set.union_eq_left, ← slotsIn_eq_empty_iff]
  refine ⟨fun hsub => ?_, fun hempty => hempty ▸ Set.empty_subset _⟩
  exact Set.subset_empty_iff.1 (h.le_bot.trans' (Set.subset_inter hsub subset_rfl))

/-- Where the components are the same, so are the slots. -/
theorem liveSlots_eq (h : k'.components = k.components) : k'.liveSlots = k.liveSlots := by
  unfold liveSlots holds space?
  rw [h]

theorem room_congr (h : k'.components = k.components) (id : ComponentId) :
    k'.room id = k.room id := by
  unfold room space?
  rw [h]

/-! ### Slots that are handed out -/

/-- Between the two states, exactly these slots were handed out. -/
structure Grants (k k' : Kernel) (into : ComponentId) (taken : List UInt64) : Prop where
  numbered : k'.Numbered
  selfId : k'.selfId = k.selfId
  live : k'.liveSlots = k.liveSlots ∪ slotsIn into taken
  new : Disjoint k.liveSlots (slotsIn into taken)
  room : ∀ d, k.room d = k'.room d + if d = into then taken.length else 0

namespace Grants

/-- Where the components are the same, none was handed out. -/
theorem of_components (hk : k'.Numbered) (hi : k'.selfId = k.selfId)
    (hc : k'.components = k.components) : Grants k k' into [] := by
  refine ⟨hk, hi, ?_, ?_, fun d => ?_⟩
  · rw [slotsIn_nil, Set.union_empty, liveSlots_eq hc]
  · rw [slotsIn_nil]
    exact disjoint_bot_right
  · rw [room_congr hc, List.length_nil, ite_self, Nat.add_zero]

theorem trans (h : Grants k k' into taken) (h' : Grants k' k'' into more) :
    Grants k k'' into (taken ++ more) where
  numbered := h'.numbered
  selfId := h'.selfId.trans h.selfId
  live := by rw [h'.live, h.live, slotsIn_append, Set.union_assoc]
  new := by
    have hnew := h'.new
    rw [h.live] at hnew
    rw [slotsIn_append, Set.disjoint_union_right]
    exact ⟨h.new, (Set.disjoint_union_left.1 hnew).1⟩
  room d := by
    rw [h.room d, h'.room d, List.length_append]
    split <;> omega

theorem subset (h : Grants k k' into taken) : slotsIn into taken ⊆ k'.liveSlots := by
  rw [h.live]
  exact Set.subset_union_right

end Grants

/-! ### One table -/

theorem mem_liveSlots_withSpace {p : ComponentId × UInt64} :
    p ∈ (k.withSpace into s).liveSlots ↔
      if into = p.1 then p.2 ∈ s.liveCaps else p ∈ k.liveSlots := by
  rw [mem_liveSlots, space?_withSpace]
  split
  · simp
  · rw [mem_liveSlots]

theorem room_withSpace : (k.withSpace into s).room d =
    if into = d then s.captblLimit.toNat - s.captblFrontier.toNat else k.room d := by
  unfold room
  rw [space?_withSpace]
  by_cases hd : into = d
  · rw [if_pos hd, if_pos hd]
  · rw [if_neg hd, if_neg hd]

/-- The slot at the frontier of a table is handed out. -/
theorem Grants.granting (hk : k.Numbered) (hs : k.space? into = some s)
    (hroom : s.captblFrontier < s.captblLimit) :
    Grants k (k.withSpace into s.granting) into [s.captblFrontier] := by
  have hlt := UInt64.lt_iff_toNat_lt.1 hroom
  refine ⟨hk.withSpace ((hk.slots into s hs).granting hroom), rfl, ?_, ?_, fun d => ?_⟩
  · ext p
    have hp : p ∈ slotsIn into [s.captblFrontier] ↔ into = p.1 ∧ s.captblFrontier = p.2 := by
      show p.1 = into ∧ p.2 ∈ [s.captblFrontier] ↔ _
      rw [List.mem_singleton, eq_comm, @eq_comm _ p.2]
    rw [mem_liveSlots_withSpace, Space.mem_granting, Set.mem_union, hp]
    by_cases hd : into = p.1
    · rw [if_pos hd, mem_liveSlots, ← hd, hs]
      simp [or_comm]
    · simp [hd]
  · rw [Set.disjoint_left]
    rintro p hlive ⟨hd, hslot⟩
    obtain ⟨t, ht, hmem⟩ := mem_liveSlots.1 hlive
    rw [hd] at ht
    obtain rfl := Option.some.inj (hs.symm.trans ht)
    rw [List.mem_singleton.1 hslot] at hmem
    exact Nat.lt_irrefl _ (hk.slots into s hs _ hmem)
  · rw [room_withSpace]
    by_cases hd : into = d
    · subst hd
      rw [if_pos rfl, if_pos rfl, room_eq hs, Space.toNat_granting hroom]
      show _ = s.captblLimit.toNat - (s.captblFrontier.toNat + 1) + 1
      omega
    · rw [if_neg hd, if_neg (Ne.symm hd), Nat.add_zero]

/-- One slot is handed out, if there is one. -/
theorem allocateSlot_grants (hk : k.Numbered) (into : ComponentId) :
    (allocateSlot into).Leads k
      (fun slot k' => Grants k k' into [slot] ∧ k'.threads = k.threads)
      (fun why k' => k' = k ∧ k.room into = 0 ∧
        (why = .refused (.capabilityTableFull into) ∨ why = .refused (.unknownComponent into) ∧
          k.space? into = none)) := by
  refine (allocateSlot_granting into).mono ?_ ?_
  · rintro _ _ ⟨s, hs, hroom, rfl, rfl⟩
    exact ⟨.granting hk hs hroom, rfl⟩
  · rintro why _ ⟨rfl, ⟨⟨s, hs, hfull⟩, rfl⟩ | ⟨hnone, rfl⟩⟩
    · exact ⟨rfl, room_eq_zero hs hfull, .inl rfl⟩
    · refine ⟨rfl, ?_, .inr ⟨rfl, hnone⟩⟩
      unfold room
      rw [hnone]

/-! ### What is written down -/

theorem Grants.of_notes {faults : Faults} {trail : Trail Event} (hk : k.Numbered) :
    Grants k { k with faults, trail } into [] := .of_components ⟨hk.slots, hk.threads⟩ rfl rfl

/-- A planned fault fires and is used up, and that is all. -/
theorem failOn_leads (fault : Fault) (reason : String) :
    (failOn fault reason).Leads k
      (fun _ k' => fault ∉ k.faults.pending ∧ ∃ faults trail, k' = { k with faults, trail })
      (fun why k' => fault ∈ k.faults.pending ∧ why = .refused (.rejected reason) ∧
        ∃ faults trail, k' = { k with faults, trail }) := by
  have hfires : (k.faults.take fault).1 = true ↔ fault ∈ k.faults.pending := by
    unfold Faults.take
    split
    · next hmem => simp [hmem]
    · next hmem => simp [hmem]
  have hinject : (inject fault : Step Kernel Refusal Bool).Leads k
      (fun fires k' => (fires = true ↔ fault ∈ k.faults.pending) ∧
        ∃ faults trail, k' = { k with faults, trail }) (fun _ _ => False) := by
    refine Step.Leads.get_bind (Step.Leads.ite (fun _ => ?_) fun _ => ?_)
    · exact Step.Leads.set_bind
        (Step.Leads.modify_bind (Step.leads_pure.2 ⟨hfires, _, _, rfl⟩))
    · exact Step.leads_pure.2 ⟨hfires, _, _, rfl⟩
  refine Step.leads_bind.2 (hinject.mono ?_ fun _ _ => False.elim)
  rintro fires k' ⟨hplanned, hnotes⟩
  refine Step.Leads.ite (fun hfire => ?_) fun hno => ?_
  · exact Step.leads_refuse.2 ⟨hplanned.1 hfire, rfl, hnotes⟩
  · exact Step.leads_pure.2 ⟨fun hmem => hno (hplanned.2 hmem), hnotes⟩

/-! ### Several slots in a row -/

/-- Why three slots were not all taken: the table was full before that, or
something else was in the way before the first. -/
def Refusal.Cuts (reason : Refusal) (room : Nat) (taken : List UInt64) : Prop :=
  reason.IsFull ∧ room = taken.length ∧ taken.length < 3 ∨ ¬ reason.IsFull ∧ taken = []

theorem Refusal.Cuts.eq_nil_iff {reason : Refusal} {room : Nat} (h : reason.Cuts room taken) :
    taken = [] ↔ ¬ (reason.IsFull ∧ Short room) := by
  rcases h with ⟨hfull, rfl, hlength⟩ | ⟨hnot, hnil⟩
  · refine ⟨fun hnil hshort => ?_, fun hshort => ?_⟩
    · rw [hnil] at hshort
      exact Nat.lt_irrefl 0 hshort.2.1
    · by_contra hne
      exact hshort ⟨hfull, List.length_pos_iff.2 hne, hlength⟩
  · exact ⟨fun _ hshort => hnot hshort.1, fun _ => hnil⟩

/-- How a primitive that takes three slots stops: the slots that it took stay
taken. -/
def BreaksOff (k : Kernel) (into : ComponentId) (why : Stop Refusal) (k' : Kernel) : Prop :=
  ∃ taken, Grants k k' into taken ∧ (taken = [] → k'.threads = k.threads) ∧
    ∀ reason, why = .refused reason → reason.Cuts (k.room into) taken

theorem not_isFull_rejected {text : String} : ¬ Refusal.IsFull (.rejected text) :=
  fun ⟨_, h⟩ => by cases h

theorem not_isFull_unknownComponent : ¬ Refusal.IsFull (.unknownComponent d) :=
  fun ⟨_, h⟩ => by cases h

theorem not_isFull_invalidCapability : ¬ Refusal.IsFull (.invalidCapability slot) :=
  fun ⟨_, h⟩ => by cases h

namespace BreaksOff

variable {why : Stop Refusal} {reason : Refusal}

/-- Before the first slot is taken, there is nothing to leave behind. -/
theorem of_refused (h : Grants k k' into []) (ht : k'.threads = k.threads)
    (hreason : ¬ reason.IsFull) : BreaksOff k into (.refused reason) k' :=
  ⟨[], h, fun _ => ht, fun _ hwhy => Stop.refused.inj hwhy ▸ .inr ⟨hreason, rfl⟩⟩

theorem since (h : BreaksOff k into why k') (hfirst : Grants first k into [])
    (ht : k.threads = first.threads) : BreaksOff first into why k' := by
  obtain ⟨taken, hslots, hthreads, hreason⟩ := h
  have hroom : first.room into = k.room into := by
    rw [hfirst.room, if_pos rfl, List.length_nil, Nat.add_zero]
  refine ⟨taken, hfirst.trans hslots, fun hnil => (hthreads hnil).trans ht, ?_⟩
  rw [hroom]
  exact hreason

/-- What is left behind is seen in the objects. -/
theorem objects_eq_iff (h : BreaksOff k into (.refused reason) k') :
    k'.objects = k.objects ↔ ¬ (reason.IsFull ∧ Short (k.room into)) := by
  obtain ⟨taken, hslots, hthreads, hreason⟩ := h
  rw [← (hreason reason rfl).eq_nil_iff]
  unfold objects
  rw [Prod.mk.injEq, hslots.live, union_slotsIn_eq_iff hslots.new]
  exact ⟨And.right, fun hnil => ⟨hthreads hnil, hnil⟩⟩

/-- A table that is full is too full for three slots. -/
theorem room_lt (h : BreaksOff k into (.refused reason) k') (hfull : reason.IsFull) :
    k.room into < 3 := by
  obtain ⟨taken, _, _, hreason⟩ := h
  rcases hreason reason rfl with ⟨_, hroom, hlength⟩ | ⟨hnot, _⟩
  · exact hroom ▸ hlength
  · exact absurd hfull hnot

end BreaksOff

/-- The next of three slots is taken. -/
theorem Grants.next (h : Grants k k' into taken) (ht : taken = [] → k'.threads = k.threads)
    (hlength : taken.length < 3) :
    (allocateSlot into).Leads k'
      (fun slot k'' => Grants k k'' into (taken ++ [slot]) ∧ k''.threads = k'.threads)
      (fun why k'' => BreaksOff k into why k'' ∧ k''.threads = k'.threads) := by
  refine (allocateSlot_grants h.numbered into).mono ?_ ?_
  · rintro slot k'' ⟨hslot, hthreads⟩
    exact ⟨h.trans hslot, hthreads⟩
  · rintro why _ ⟨rfl, hroom, hwhy⟩
    refine ⟨⟨taken, h, ht, fun reason hreason => ?_⟩, rfl⟩
    rw [h.room, hroom, if_pos rfl, Nat.zero_add]
    rcases hwhy with rfl | ⟨rfl, hn⟩
    · obtain rfl := Stop.refused.inj hreason
      exact .inl ⟨⟨into, rfl⟩, rfl, hlength⟩
    · obtain rfl := Stop.refused.inj hreason
      refine .inr ⟨not_isFull_unknownComponent, ?_⟩
      -- A table from which a slot was taken is there.
      refine List.eq_nil_iff_forall_not_mem.2 fun slot hslot => ?_
      obtain ⟨s, hs, _⟩ := mem_liveSlots.1 (h.subset (a := (into, slot)) ⟨rfl, hslot⟩)
      cases hn.symm.trans hs

/-! ### Making endpoints -/

/-- The slots of the broker's own table that name the endpoint, its thread and
its budget. -/
def Rcv.slots (rcv : Rcv) : List UInt64 := [rcv.thread.cap.slot, rcv.rcv.slot, rcv.tcap.slot]

/-- The slots that the capabilities of an endpoint were installed in. -/
def RcvAliases.slots (aliases : RcvAliases) : List UInt64 :=
  [aliases.thread.slot, aliases.rcv.slot, aliases.tcap.slot]

/-- Between the two states, an endpoint was made. -/
structure MakesRcv (k k' : Kernel) (owner : ComponentId) (rcv : Rcv) : Prop where
  grants : Grants k k' k.selfId rcv.slots
  fresh : k.threadOwner? rcv.thread.tid = none
  threads : k'.threads = k.threads.insert rcv.thread.tid owner

/-- A thread that was counted is its owner's. -/
theorem threadOwner?_of_insert {tid : ThreadId} (h : k'.threads = k.threads.insert tid owner) :
    k'.threadOwner? tid = some owner := by
  unfold threadOwner?
  rw [h, Std.ExtTreeMap.getElem?_insert_self]

/-- The next number is that of no thread. -/
theorem Numbered.threadOwner?_nextTid (hk : k.Numbered) : k.threadOwner? ⟨k.nextTid⟩ = none := by
  cases howner : k.threadOwner? ⟨k.nextTid⟩ with
  | none => rfl
  | some owner => exact absurd (hk.threads ⟨k.nextTid⟩ (by rw [howner]; rfl)) (Nat.lt_irrefl _)

theorem newThread_grants (hk : k.Numbered) (owner : ComponentId) :
    (newThread owner).Leads k
      (fun thread k' => Grants k k' k.selfId [thread.cap.slot] ∧
        k.threadOwner? thread.tid = none ∧ k'.threads = k.threads.insert thread.tid owner)
      (BreaksOff k k.selfId) := by
  refine Step.leads_bind.2 ((knownSpace_leads owner).mono ?_ ?_)
  · rintro s _ ⟨rfl, hs⟩
    refine Step.Leads.get_bind (Step.leads_bind.2 ?_)
    refine ((Grants.of_notes hk).next (fun _ => rfl) (by decide)).mono ?_ fun _ _ h => h.1
    rintro slot k₁ ⟨hslot, hthreads⟩
    refine Step.Leads.get_bind (Step.Leads.exact_bind (fun nextTid hnext => ?_) fun _ => ?_)
    · rw [word64?_eq_some_iff] at hnext
      have hthread : Numbered { k₁ with
          nextTid, threads := k₁.threads.insert ⟨k₁.nextTid⟩ owner } :=
        hslot.numbered.thread hnext owner
      refine Step.Leads.set_bind (Step.Leads.modify_bind (Step.leads_pure.2 ⟨?_, ?_, ?_⟩))
      · exact hslot.trans (.of_components ⟨hthread.slots, hthread.threads⟩ rfl rfl)
      · have hfree := hslot.numbered.threadOwner?_nextTid
        unfold threadOwner? at hfree ⊢
        rwa [hthreads] at hfree
      · rw [← hthreads]
    · exact ⟨_, hslot, fun hnil => absurd hnil (by simp), fun _ h => by cases h⟩
  · rintro why _ ⟨rfl, rfl, _⟩
    exact .of_refused (.of_notes hk) rfl not_isFull_unknownComponent

theorem newRcv_makes (hk : k.Numbered) (owner : ComponentId) :
    (newRcv owner).Leads k (fun rcv k' => MakesRcv k k' owner rcv) (BreaksOff k k.selfId) := by
  refine Step.leads_bind.2 ((newThread_grants hk owner).mono ?_ fun _ _ => id)
  rintro thread k₁ ⟨hthread, hfresh, hthreads⟩
  apply Step.Leads.get_bind
  rw [hthread.selfId]
  refine Step.leads_bind.2 ((hthread.next (by simp) (by simp)).mono ?_ fun _ _ h => h.1)
  rintro rcv k₂ ⟨hrcv, hthreads₂⟩
  refine Step.leads_bind.2 ((hrcv.next (by simp) (by simp)).mono ?_ fun _ _ h => h.1)
  rintro tcap k₃ ⟨htcap, hthreads₃⟩
  refine Step.Leads.modify_bind (Step.leads_pure.2 ⟨?_, hfresh, ?_⟩)
  · exact htcap.trans (.of_notes htcap.numbered)
  · exact hthreads₃.trans (hthreads₂.trans hthreads)

/-- A thread is made and not known to anyone but the broker. -/
theorem createThread_grants (hk : k.Numbered) (owner : ComponentId) :
    (createThread owner).Leads k
      (fun thread k' => Grants k k' k.selfId [thread.cap.slot] ∧
        k.threadOwner? thread.tid = none ∧ k'.threads = k.threads.insert thread.tid owner)
      (BreaksOff k k.selfId) := by
  refine Step.leads_bind.2 ((failOn_leads _ _).mono ?_ ?_)
  · rintro _ _ ⟨_, faults, trail, rfl⟩
    have hnotes : Grants k { k with faults, trail } k.selfId [] := .of_notes hk
    refine (newThread_grants hnotes.numbered owner).mono ?_ fun _ _ h => h.since hnotes rfl
    rintro thread k' ⟨hgrants, hfresh, hthreads⟩
    exact ⟨hnotes.trans hgrants, hfresh, hthreads⟩
  · rintro why _ ⟨_, rfl, faults, trail, rfl⟩
    exact .of_refused (.of_notes hk) rfl not_isFull_rejected

/-- The capability to a thread is installed in a table, or that breaks off
there. -/
theorem aliasThread_grants (hk : k.Numbered) (thread : Thread) (into : ComponentId) :
    (aliasThread thread into).Leads k
      (fun cap k' => Grants k k' into [cap.slot] ∧ k'.threads = k.threads)
      (fun why k' => BreaksOff k into why k' ∧ k'.threads = k.threads) := by
  refine Step.leads_bind.2 ((failOn_leads _ _).mono ?_ ?_)
  · rintro _ _ ⟨_, faults, trail, rfl⟩
    have hnotes : Grants k { k with faults, trail } into [] := .of_notes hk
    refine Step.Leads.get_bind (Step.Leads.ite (fun _ => ?_) fun _ => ?_)
    · exact Step.Leads.refuse_bind ⟨.of_refused hnotes rfl not_isFull_invalidCapability, rfl⟩
    refine Step.leads_bind.2 ((hnotes.next (fun _ => rfl) (by decide)).mono ?_ fun _ _ => id)
    rintro slot k₁ ⟨hslot, hthreads⟩
    exact Step.Leads.modify_bind
      (Step.leads_pure.2 ⟨hslot.trans (.of_notes hslot.numbered), hthreads⟩)
  · rintro why _ ⟨_, rfl, faults, trail, rfl⟩
    exact ⟨.of_refused (.of_notes hk) rfl not_isFull_rejected, rfl⟩

/-- An endpoint is made, or its making breaks off in the broker's own table. -/
theorem createRcv_makes (hk : k.Numbered) (owner : ComponentId) :
    (createRcv owner).Leads k (fun rcv k' => MakesRcv k k' owner rcv) (BreaksOff k k.selfId) := by
  refine Step.leads_bind.2 ((failOn_leads _ _).mono ?_ ?_)
  · rintro _ _ ⟨_, faults, trail, rfl⟩
    have hnotes : Grants k { k with faults, trail } k.selfId [] := .of_notes hk
    refine (newRcv_makes hnotes.numbered owner).mono ?_ fun _ _ h => h.since hnotes rfl
    rintro rcv k' ⟨hgrants, hfresh, hthreads⟩
    exact ⟨hnotes.trans hgrants, hfresh, hthreads⟩
  · rintro why _ ⟨_, rfl, faults, trail, rfl⟩
    exact .of_refused (.of_notes hk) rfl not_isFull_rejected

/-- The capabilities of an endpoint are installed in a table, or that breaks
off there. -/
theorem aliasRcv_grants (hk : k.Numbered) (rcv : Rcv) (into : ComponentId) :
    (aliasRcv rcv into).Leads k
      (fun aliases k' => Grants k k' into aliases.slots ∧ k'.threads = k.threads)
      (fun why k' => BreaksOff k into why k' ∧ k'.threads = k.threads) := by
  refine Step.leads_bind.2 ((failOn_leads _ _).mono ?_ ?_)
  · rintro _ _ ⟨_, faults, trail, rfl⟩
    have hnotes : Grants k { k with faults, trail } into [] := .of_notes hk
    refine Step.Leads.get_bind (Step.Leads.ite (fun _ => ?_) fun _ => ?_)
    · exact Step.Leads.refuse_bind ⟨.of_refused hnotes rfl not_isFull_invalidCapability, rfl⟩
    refine Step.leads_bind.2 ((hnotes.next (fun _ => rfl) (by decide)).mono ?_ fun _ _ => id)
    rintro thread k₁ ⟨hthread, hthreads₁⟩
    refine Step.leads_bind.2 ((hthread.next (by simp) (by simp)).mono ?_ ?_)
    · rintro rcv k₂ ⟨hrcv, hthreads₂⟩
      have hthreads₂ := hthreads₂.trans hthreads₁
      refine Step.leads_bind.2 ((hrcv.next (by simp) (by simp)).mono ?_ ?_)
      · rintro tcap k₃ ⟨htcap, hthreads₃⟩
        refine Step.Leads.modify_bind (Step.leads_pure.2 ⟨?_, hthreads₃.trans hthreads₂⟩)
        exact htcap.trans (.of_notes htcap.numbered)
      · exact fun _ _ h => ⟨h.1, h.2.trans hthreads₂⟩
    · exact fun _ _ h => ⟨h.1, h.2.trans hthreads₁⟩
  · rintro why _ ⟨_, rfl, faults, trail, rfl⟩
    exact ⟨.of_refused (.of_notes hk) rfl not_isFull_rejected, rfl⟩

/-! ### Taking back -/

/-- Live slots are emptied. -/
theorem revokeSlots_objects (hlive : slotsIn owner taken ⊆ k.liveSlots) (hne : taken ≠ []) :
    (revokeSlots owner taken).Leads k
      (fun _ k' => k'.selfId = k.selfId ∧ k'.threads = k.threads ∧
        k'.liveSlots = k.liveSlots \ slotsIn owner taken)
      (fun _ _ => False) := by
  refine revokeSlots_leads.mono ?_ ?_
  · rintro _ _ ⟨s, hs, _, rfl⟩
    refine ⟨rfl, rfl, ?_⟩
    ext p
    rw [mem_liveSlots_withSpace, Space.mem_without, Set.mem_sdiff]
    by_cases hd : owner = p.1
    · rw [if_pos hd, mem_liveSlots, ← hd, hs]
      simp [slotsIn, hd, and_comm]
    · simp [slotsIn, hd, Ne.symm hd]
  · rintro why k' ⟨rfl, hdead⟩
    obtain ⟨slot, hslot⟩ := List.exists_mem_of_ne_nil taken hne
    obtain ⟨s, hs, _⟩ := mem_liveSlots.1 (hlive (a := (owner, slot)) ⟨rfl, hslot⟩)
    obtain ⟨dead, hmem, hgone⟩ := hdead s hs
    obtain ⟨t, ht, hkept⟩ := mem_liveSlots.1 (hlive (a := (owner, dead)) ⟨rfl, hmem⟩)
    obtain rfl := Option.some.inj (hs.symm.trans ht)
    exact hgone hkept

theorem revokeRcvAlias_objects {aliases : RcvAliases}
    (hlive : slotsIn owner aliases.slots ⊆ k.liveSlots) :
    (revokeRcvAlias aliases owner).Leads k
      (fun _ k' => k'.selfId = k.selfId ∧ k'.threads = k.threads ∧
        k'.liveSlots = k.liveSlots \ slotsIn owner aliases.slots)
      (fun _ _ => False) :=
  Step.leads_bind.2 ((revokeSlots_objects hlive (List.cons_ne_nil _ _)).mono
    (fun _ _ h => Step.leads_modify.2 h) fun _ _ => id)

/-- What was not live after an endpoint was made was not live before. -/
theorem MakesRcv.disjoint {rcv : Rcv} {rest : Set (ComponentId × UInt64)}
    (h : MakesRcv k k' owner rcv) (hrest : Disjoint k'.liveSlots rest) :
    Disjoint k.liveSlots rest ∧ Disjoint (slotsIn k.selfId rcv.slots) rest := by
  rw [h.grants.live] at hrest
  exact Set.disjoint_union_left.1 hrest

theorem erase_insert {threads : Std.ExtTreeMap ThreadId ComponentId} {tid : ThreadId}
    (h : threads[tid]? = none) : (threads.insert tid owner).erase tid = threads := by
  refine Std.ExtTreeMap.ext_getElem? fun tid' => ?_
  rw [Std.ExtTreeMap.getElem?_erase, Std.ExtTreeMap.getElem?_insert]
  split
  · next heq => rw [← Std.LawfulEqCmp.compare_eq_iff_eq.1 heq, h]
  · rfl

/-- An endpoint that is taken back leaves the objects that there were before
it, and those that came since. -/
theorem MakesRcv.revoke {rcv : Rcv} (hmade : MakesRcv k k' owner rcv)
    (hself : k''.selfId = k'.selfId) (hthreads : k''.threads = k'.threads)
    {rest : Set (ComponentId × UInt64)} (hlive : k''.liveSlots = k'.liveSlots ∪ rest)
    (hrest : Disjoint k'.liveSlots rest) :
    (revokeRcv rcv).Leads k''
      (fun _ last => last.selfId = k.selfId ∧ last.threads = k.threads ∧
        last.liveSlots = k.liveSlots ∪ rest)
      (fun _ _ => False) := by
  have hsub : slotsIn k.selfId rcv.slots ⊆ k''.liveSlots :=
    hmade.grants.subset.trans (hlive ▸ Set.subset_union_left)
  have hown : k''.selfId = k.selfId := hself.trans hmade.grants.selfId
  refine Step.Leads.get_bind (Step.Leads.ite (fun hgone => ?_) fun _ => ?_)
  · rw [threadOwner?_of_insert (hthreads.trans hmade.threads)] at hgone
    cases hgone
  rw [hown]
  refine Step.leads_bind.2 ((revokeSlots_objects hsub (List.cons_ne_nil _ _)).mono ?_ fun _ _ => id)
  rintro _ k₃ ⟨hself₃, hthreads₃, hlive₃⟩
  refine Step.Leads.modify_bind (Step.leads_modify.2 ⟨hself₃.trans hown, ?_, ?_⟩)
  · show k₃.threads.erase rcv.thread.tid = k.threads
    rw [hthreads₃, hthreads, hmade.threads, erase_insert hmade.fresh]
  · show k₃.liveSlots = _
    have hkept := Set.disjoint_union_left.2 ⟨hmade.grants.new, (hmade.disjoint hrest).2.symm⟩
    rw [hlive₃, hlive, hmade.grants.live, Set.union_right_comm, Set.union_sdiff_right,
      hkept.sdiff_eq_left]

/-! ### Send endpoints -/

theorem createAsnd_grants (hk : k.Numbered) (rcv : Rcv) :
    (createAsnd rcv).Leads k
      (fun asnd k' => Grants k k' k.selfId [asnd.cap.slot] ∧ k'.threads = k.threads ∧
        asnd.target = rcv.rcv)
      (fun _ k' => k' = k) := by
  apply Step.Leads.get_bind
  refine Step.leads_bind.2 ((allocateSlot_grants hk _).mono ?_ fun _ _ h => h.1)
  rintro slot k₁ ⟨hslot, hthreads⟩
  exact Step.Leads.modify_bind
    (Step.leads_pure.2 ⟨hslot.trans (.of_notes hslot.numbered), hthreads, rfl⟩)

theorem aliasAsnd_objects (hk : k.Numbered) (into : ComponentId) :
    (aliasAsnd into).Leads k
      (fun cap k' => Grants k k' into [cap.slot] ∧ k'.threads = k.threads)
      (fun _ k' => k'.selfId = k.selfId ∧ k'.objects = k.objects) := by
  refine Step.leads_bind.2 ((failOn_leads _ _).mono ?_ ?_)
  · rintro _ _ ⟨_, faults, trail, rfl⟩
    have hnotes : Grants k { k with faults, trail } into [] := .of_notes hk
    refine Step.leads_bind.2 ((allocateSlot_grants hnotes.numbered into).mono ?_ ?_)
    · rintro slot k₁ ⟨hslot, hthreads⟩
      refine Step.Leads.modify_bind (Step.leads_pure.2 ⟨?_, hthreads⟩)
      exact (hnotes.trans hslot).trans (.of_notes hslot.numbered)
    · rintro why _ ⟨rfl, _⟩
      exact ⟨rfl, rfl⟩
  · rintro why _ ⟨_, _, faults, trail, rfl⟩
    exact ⟨rfl, rfl⟩

/-- A send endpoint that is taken back leaves the objects that there were
before it. -/
theorem Grants.revokeAsnd {asnd : Asnd} (h : Grants k k' k.selfId [asnd.cap.slot])
    (hthreads : k'.threads = k.threads) (hself : k''.selfId = k'.selfId)
    (hobjects : k''.objects = k'.objects) :
    (revokeAsnd asnd).Leads k''
      (fun _ last => last.selfId = k.selfId ∧ last.objects = k.objects) (fun _ _ => False) := by
  obtain ⟨hthreads', hlive'⟩ := Prod.mk.inj hobjects
  have hsub : slotsIn k.selfId [asnd.cap.slot] ⊆ k''.liveSlots := hlive' ▸ h.subset
  apply Step.Leads.get_bind
  rw [hself, h.selfId]
  refine Step.leads_bind.2 ((revokeSlots_objects hsub (List.cons_ne_nil _ _)).mono ?_ fun _ _ => id)
  rintro _ k₃ ⟨hself₃, hthreads₃, hlive₃⟩
  refine Step.leads_modify.2 ⟨hself₃.trans (hself.trans h.selfId), Prod.ext ?_ ?_⟩
  · exact hthreads₃.trans (hthreads'.trans hthreads)
  · show k₃.liveSlots = k.liveSlots
    rw [hlive₃, hlive', h.live, Set.union_sdiff_right, h.new.sdiff_eq_left]

end CapabilityBroker.Kernel
