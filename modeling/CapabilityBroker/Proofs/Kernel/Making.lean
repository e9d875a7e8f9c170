/-
CapabilityBroker/Proofs/Kernel/Making.lean

Making objects: slots, threads and endpoints.

What a primitive does to make an object is always the same: it may use a
planned fault up, it counts a thread, it hands out the slot at the frontier of
a capability table, and it writes that down.  A preorder that admits these
four (`Makes`) admits every primitive that makes something.

Slots come from the frontier of their table on.  `Granted k k' into slot` says
that the slot was handed out between the two states and still names its
object, and `Above k k'` that nothing was taken back that was there before.
-/
import CapabilityBroker.Proofs.Kernel.Advance

namespace CapabilityBroker.Kernel

open Step (Stays StaysFrom)

variable {ε α : Type} {k k' k'' : Kernel} {id into owner : ComponentId} {s s' : Space}
  {slot : UInt64}

/-! ### Slots -/

/-- The component after the slot at its frontier was handed out. -/
def Space.granting (s : Space) : Space :=
  { s with captblFrontier := s.captblFrontier + 1, liveCaps := s.liveCaps.insert s.captblFrontier }

/-- Before the end of its table, the frontier moves on by one. -/
theorem Space.toNat_granting (h : s.captblFrontier < s.captblLimit) :
    s.granting.captblFrontier.toNat = s.captblFrontier.toNat + 1 := by
  have hlt : s.captblFrontier.toNat < s.captblLimit.toNat := UInt64.lt_iff_toNat_lt.1 h
  have hword := s.captblLimit.toNat_lt
  show (s.captblFrontier + 1).toNat = _
  rw [UInt64.toNat_add, UInt64.toNat_one]
  exact Nat.mod_eq_of_lt (by omega)

/-- Numbers that are counted no further than slots do not run out. -/
theorem Space.succ_lt_size {n : Nat} (h : s.captblFrontier < s.captblLimit)
    (hn : n ≤ s.captblFrontier.toNat) : n + 1 < UInt64.size := by
  rw [UInt64.lt_iff_toNat_lt] at h
  exact Nat.lt_of_le_of_lt (Nat.lt_of_le_of_lt hn h) s.captblLimit.toNat_lt

theorem Space.mem_granting :
    slot ∈ s.granting.liveCaps ↔ s.captblFrontier = slot ∨ slot ∈ s.liveCaps := by
  show slot ∈ s.liveCaps.insert s.captblFrontier ↔ _
  rw [Std.ExtTreeSet.mem_insert, Std.LawfulEqCmp.compare_eq_iff_eq]

/-- The slot that is handed out is the one at the frontier.  A refusal is that of a table
without slots or of a component that is not there. -/
theorem allocateSlot_granting (into : ComponentId) :
    (allocateSlot into).Leads k
      (fun slot k' => ∃ s, k.space? into = some s ∧ s.captblFrontier < s.captblLimit ∧
        slot = s.captblFrontier ∧ k' = k.withSpace into s.granting)
      (fun why k' => k' = k ∧
        ((∃ s, k.space? into = some s ∧ s.captblLimit ≤ s.captblFrontier) ∧
            why = .refused (.capabilityTableFull into) ∨
          k.space? into = none ∧ why = .refused (.unknownComponent into))) := by
  refine Step.leads_bind.2 ((knownSpace_leads into).mono ?_ ?_)
  · rintro s _ ⟨rfl, hs⟩
    refine Step.Leads.ite (fun hfull => ?_) fun hroom => ?_
    · exact Step.leads_refuse.2 ⟨rfl, .inl ⟨⟨s, hs, hfull⟩, rfl⟩⟩
    · exact Step.Leads.modify_bind (Step.leads_pure.2 ⟨s, hs, UInt64.not_le.1 hroom, rfl, rfl⟩)
  · rintro why _ ⟨rfl, rfl, hnone⟩
    exact ⟨rfl, .inr ⟨hnone, rfl⟩⟩

/-! ### Numbers -/

/-- Every live slot was handed out. -/
def Space.Numbered (s : Space) : Prop :=
  ∀ slot ∈ s.liveCaps, slot.toNat < s.captblFrontier.toNat

theorem Space.Numbered.of_empty (h : s.liveCaps = ∅) : s.Numbered := by
  intro slot hslot
  rw [h] at hslot
  exact absurd hslot Std.ExtTreeSet.not_mem_empty

theorem Space.Numbered.granting (h : s.Numbered) (hroom : s.captblFrontier < s.captblLimit) :
    s.granting.Numbered := by
  intro slot hslot
  rw [Space.toNat_granting hroom]
  rcases Space.mem_granting.1 hslot with rfl | hlive
  · exact Nat.lt_succ_self _
  · exact Nat.lt_succ_of_lt (h slot hlive)

/-- Slots and threads are counted up: whatever is there has a number that was
handed out. -/
structure Numbered (k : Kernel) : Prop where
  slots : ∀ d s, k.space? d = some s → s.Numbered
  threads : ∀ tid, (k.threadOwner? tid).isSome → tid.number.toNat < k.nextTid.toNat

/-- The next thread has the next number. -/
theorem Numbered.thread {nextTid : UInt64} (h : k.Numbered)
    (hnext : nextTid.toNat = k.nextTid.toNat + 1) (owner : ComponentId) :
    Numbered { k with nextTid, threads := k.threads.insert ⟨k.nextTid⟩ owner } where
  slots := h.slots
  threads tid htid := by
    change (k.threads.insert ⟨k.nextTid⟩ owner)[tid]?.isSome at htid
    show tid.number.toNat < nextTid.toNat
    rw [hnext]
    rw [Std.ExtTreeMap.getElem?_insert] at htid
    split at htid
    · next heq =>
      obtain rfl := Std.LawfulEqCmp.compare_eq_iff_eq.1 heq
      exact Nat.lt_succ_self _
    · exact Nat.lt_succ_of_lt (h.threads tid htid)

/-- A thread that goes leaves its number behind. -/
theorem Numbered.erase (h : k.Numbered) (tid : ThreadId) :
    Numbered { k with threads := k.threads.erase tid } where
  slots := h.slots
  threads tid' htid := by
    change (k.threads.erase tid)[tid']?.isSome at htid
    rw [Std.ExtTreeMap.getElem?_erase] at htid
    split at htid
    · cases htid
    · exact h.threads tid' htid

theorem Numbered.withSpace (h : k.Numbered) (hs : s.Numbered) :
    (k.withSpace into s).Numbered where
  slots d t ht := by
    rw [space?_withSpace] at ht
    split at ht
    · obtain rfl := Option.some.inj ht
      exact hs
    · exact h.slots d t ht
  threads := h.threads

/-- In a new kernel nothing was handed out. -/
theorem numbered_of_create? {selfId : ComponentId} {layout : Layout} {faults : List Fault}
    (h : create? selfId layout faults = some k) : k.Numbered where
  slots d t ht := by
    obtain ⟨space, hspace, ⟨_, hlive⟩, _⟩ := space?_of_create? h
    rw [hspace] at ht
    split at ht
    · obtain rfl := Option.some.inj ht
      exact .of_empty hlive
    · cases ht
  threads tid htid := by
    obtain ⟨_, _, rfl⟩ := Option.map_eq_some_iff.1 h
    change (∅ : Std.ExtTreeMap ThreadId ComponentId)[tid]?.isSome at htid
    rw [Std.ExtTreeMap.getElem?_empty] at htid
    cases htid

/-! ### Mappings on the trail -/

/-- The event is a mapping, of frames or of device memory. -/
def Event.isMapping : Event → Bool
  | .framesMapped .. => true
  | .hwMapped .. => true
  | _ => false

/-- The mappings on the kernel's trail, in the order they were made. -/
def mappings (k : Kernel) : List Event := k.trail.toList.filter Event.isMapping

theorem mappings_record {event : Event} (h : event.isMapping = false) :
    mappings { k with trail := k.trail.record event } = k.mappings := by
  unfold mappings
  rw [Trail.toList_record, List.filter_append, List.filter_cons_of_neg (ne_true_of_eq_false h)]
  exact List.append_nil _

/-! ### Preorders that admit the making of objects -/

/-- A relation that admits all that is done to make an object. -/
structure Makes (R : Kernel → Kernel → Prop) : Prop where
  fault : ∀ k fault, R k { k with faults := (k.faults.take fault).2 }
  event : ∀ (k : Kernel) event, event.isMapping = false →
    R k { k with trail := k.trail.record event }
  thread : ∀ (k : Kernel) nextTid owner, nextTid.toNat = k.nextTid.toNat + 1 →
    R k { k with nextTid, threads := k.threads.insert ⟨k.nextTid⟩ owner }
  slot : ∀ k into s, k.space? into = some s → s.captblFrontier < s.captblLimit →
    R k (k.withSpace into s.granting)

namespace Makes

variable {R : Kernel → Kernel → Prop}

theorem record (h : Makes R) (event : Event) (hmapping : event.isMapping = false := by rfl) :
    Stays R (record event : Step Kernel ε Unit) := .modify fun k => h.event k event hmapping

variable [IsPreorder Kernel R]

theorem inject (h : Makes R) (fault : Fault) : Stays R (inject fault : Step Kernel ε Bool) := by
  refine .get_bind fun k => .ite (fun _ => ?_) fun _ => Stays.pure k
  refine StaysFrom.bind (Step.leads_set.2 (h.fault k fault)) fun _ k' _ => ?_
  exact (h.record _).bind (fun _ => Stays.pure) k'

theorem failOn (h : Makes R) (fault : Fault) (reason : String) : Stays R (failOn fault reason) :=
  (h.inject fault).bind fun _ => .ite .refuse .pure

theorem knownSpace (id : ComponentId) : Stays R (knownSpace id) :=
  .get_bind fun k => Stays.require k

theorem allocateSlot (h : Makes R) (into : ComponentId) : Stays R (allocateSlot into) := by
  intro k
  refine (allocateSlot_granting into).mono ?_ ?_
  · rintro _ _ ⟨s, hs, hroom, _, rfl⟩
    exact h.slot k into s hs hroom
  · rintro why _ ⟨rfl, _⟩
    exact refl_of R _

theorem newThread (h : Makes R) (owner : ComponentId) : Stays R (newThread owner) := by
  refine (knownSpace owner).bind fun _ => .get_bind fun k => ?_
  refine Stays.bind (h.allocateSlot _) (fun slot => .get_bind fun k => ?_) k
  refine .exact_bind fun nextTid hnext => ?_
  rw [word64?_eq_some_iff] at hnext
  refine StaysFrom.bind (Step.leads_set.2 (h.thread k nextTid owner hnext)) fun _ k' _ => ?_
  exact (h.record _).bind (fun _ => Stays.pure) k'

theorem createThread (h : Makes R) (owner : ComponentId) : Stays R (createThread owner) :=
  (h.failOn _ _).bind fun _ => h.newThread owner

theorem aliasThread (h : Makes R) (thread : Thread) (into : ComponentId) :
    Stays R (aliasThread thread into) := by
  refine (h.failOn _ _).bind fun _ => .get_bind fun k => .ite (fun _ => .refuse_bind) fun _ => ?_
  exact Stays.bind (h.allocateSlot into) (fun _ => (h.record _).bind fun _ => .pure) k

theorem newRcv (h : Makes R) (owner : ComponentId) : Stays R (newRcv owner) := by
  refine (h.newThread owner).bind fun thread => .get_bind fun k => ?_
  refine Stays.bind (h.allocateSlot _) (fun rcv => ?_) k
  refine (h.allocateSlot _).bind fun tcap => ?_
  exact (h.record _).bind fun _ => .pure

theorem createRcv (h : Makes R) (owner : ComponentId) : Stays R (createRcv owner) :=
  (h.failOn _ _).bind fun _ => h.newRcv owner

theorem aliasRcv (h : Makes R) (rcv : Rcv) (into : ComponentId) : Stays R (aliasRcv rcv into) := by
  refine (h.failOn _ _).bind fun _ => .get_bind fun k => .ite (fun _ => .refuse_bind) fun _ => ?_
  refine Stays.bind (h.allocateSlot into) (fun thread => ?_) k
  refine (h.allocateSlot into).bind fun endpoint => (h.allocateSlot into).bind fun tcap => ?_
  exact (h.record _).bind fun _ => .pure

theorem createAsnd (h : Makes R) (rcv : Rcv) : Stays R (createAsnd rcv) :=
  .get_bind fun k => Stays.bind (h.allocateSlot _) (fun _ => (h.record _).bind fun _ => .pure) k

theorem aliasAsnd (h : Makes R) (into : ComponentId) : Stays R (aliasAsnd into) :=
  (h.failOn _ _).bind fun _ =>
    (h.allocateSlot into).bind fun _ => (h.record _).bind fun _ => .pure

end Makes

/-! ### Nothing is taken back -/

/-- Every slot below the frontier of its table and every thread is what it
was. -/
structure Above (k k' : Kernel) : Prop where
  selfId : k'.selfId = k.selfId
  threads : ∀ tid, (k.threadOwner? tid).isSome → (k'.threadOwner? tid).isSome
  spaces : ∀ d s, k.space? d = some s → ∃ s', k'.space? d = some s' ∧
    s.captblFrontier.toNat ≤ s'.captblFrontier.toNat ∧
    ∀ slot, slot.toNat < s.captblFrontier.toNat → slot ∈ s.liveCaps → slot ∈ s'.liveCaps

theorem Above.refl (k : Kernel) : Above k k :=
  ⟨rfl, fun _ => id, fun _ s hs => ⟨s, hs, Nat.le_refl _, fun _ _ => id⟩⟩

theorem Above.trans (h : Above k k') (h' : Above k' k'') : Above k k'' := by
  refine ⟨h'.selfId.trans h.selfId, fun tid ht => h'.threads tid (h.threads tid ht), ?_⟩
  intro d s hs
  obtain ⟨s₁, hs₁, hle, hkept⟩ := h.spaces d s hs
  obtain ⟨s₂, hs₂, hle', hkept'⟩ := h'.spaces d s₁ hs₁
  refine ⟨s₂, hs₂, Nat.le_trans hle hle', fun slot hslot hlive => ?_⟩
  exact hkept' slot (Nat.lt_of_lt_of_le hslot hle) (hkept slot hslot hlive)

instance : IsPreorder Kernel Above where
  refl := Above.refl
  trans _ _ _ := Above.trans

/-- The tables are untouched, and the threads stay. -/
theorem Above.of_components (hi : k'.selfId = k.selfId) (hc : k'.components = k.components)
    (ht : ∀ tid, (k.threadOwner? tid).isSome → (k'.threadOwner? tid).isSome) : Above k k' := by
  refine ⟨hi, ht, fun d s hs => ⟨s, ?_, Nat.le_refl _, fun _ _ => id⟩⟩
  unfold space? at hs ⊢
  rw [hc]
  exact hs

/-- In one table, slots from the frontier on may come and go. -/
theorem Above.of_space (hs : k.space? into = some s)
    (hle : s.captblFrontier.toNat ≤ s'.captblFrontier.toNat)
    (hkept : ∀ slot, slot.toNat < s.captblFrontier.toNat → slot ∈ s.liveCaps →
      slot ∈ s'.liveCaps) : Above k (k.withSpace into s') := by
  refine ⟨rfl, fun _ => id, fun d t ht => ?_⟩
  rw [space?_withSpace]
  by_cases hd : into = d
  · subst hd
    obtain rfl := Option.some.inj (hs.symm.trans ht)
    exact ⟨s', if_pos rfl, hle, hkept⟩
  · exact ⟨t, (if_neg hd).trans ht, Nat.le_refl _, fun _ _ => id⟩

theorem makes_above : Makes Above where
  fault k _ := .of_components rfl rfl fun _ => id
  event k _ _ := .of_components rfl rfl fun _ => id
  thread k _ owner _ := by
    refine .of_components rfl rfl fun tid h => ?_
    show (k.threads.insert ⟨k.nextTid⟩ owner)[tid]?.isSome
    rw [Std.ExtTreeMap.getElem?_insert]
    split
    · rfl
    · exact h
  slot k into s hs hroom := by
    refine .of_space hs ?_ fun slot _ hlive => Space.mem_granting.2 (.inr hlive)
    rw [Space.toNat_granting hroom]
    exact Nat.le_succ _

/-- The first slot of a table that was never handed out; none is kept for a
component that is not there. -/
def slotFrontier (k : Kernel) (id : ComponentId) : Nat :=
  match k.space? id with
  | some s => s.captblFrontier.toNat
  | none => 0

theorem slotFrontier_eq (hs : k.space? id = some s) :
    k.slotFrontier id = s.captblFrontier.toNat := by
  unfold slotFrontier
  rw [hs]

theorem Above.slotFrontier_le (h : Above k k') (id : ComponentId) :
    k.slotFrontier id ≤ k'.slotFrontier id := by
  cases hs : k.space? id with
  | none =>
    unfold slotFrontier
    rw [hs]
    exact Nat.zero_le _
  | some s =>
    obtain ⟨s', hs', hle, _⟩ := h.spaces id s hs
    rw [slotFrontier_eq hs, slotFrontier_eq hs']
    exact hle

/-- Between the two states the slot was handed out, and it still names its
object. -/
structure Granted (k k' : Kernel) (into : ComponentId) (slot : UInt64) : Prop where
  new : k.slotFrontier into ≤ slot.toNat
  live : ∃ s, k'.space? into = some s ∧ slot.toNat < s.captblFrontier.toNat ∧ slot ∈ s.liveCaps

theorem Granted.after (h : Granted k k' into slot) (ha : Above k' k'') :
    Granted k k'' into slot := by
  obtain ⟨s, hs, hlt, hlive⟩ := h.live
  obtain ⟨s', hs', hle, hkept⟩ := ha.spaces into s hs
  exact ⟨h.new, s', hs', Nat.lt_of_lt_of_le hlt hle, hkept slot hlt hlive⟩

theorem Granted.since (h : Granted k' k'' into slot) (ha : Above k k') :
    Granted k k'' into slot :=
  ⟨Nat.le_trans (ha.slotFrontier_le into) h.new, h.live⟩

/-- The slots that were handed out for an endpoint, its thread and its
budget. -/
def GrantedRcv (k k' : Kernel) (rcv : Rcv) : Prop :=
  ∀ slot ∈ [rcv.thread.cap.slot, rcv.rcv.slot, rcv.tcap.slot], Granted k k' k.selfId slot

/-- The slots that were handed out for the capabilities of an endpoint. -/
def GrantedAliases (k k' : Kernel) (into : ComponentId) (aliases : RcvAliases) : Prop :=
  ∀ slot ∈ [aliases.thread.slot, aliases.rcv.slot, aliases.tcap.slot], Granted k k' into slot

/-! ### What the primitives answer -/

theorem allocateSlot_granted (into : ComponentId) :
    (allocateSlot into).Leads k (fun slot k' => Above k k' ∧ Granted k k' into slot)
      (fun _ => Above k) := by
  refine (allocateSlot_granting into).mono ?_ ?_
  · rintro _ _ ⟨s, hs, hroom, rfl, rfl⟩
    refine ⟨makes_above.slot k into s hs hroom, ?_, s.granting, ?_, ?_, ?_⟩
    · exact Nat.le_of_eq (slotFrontier_eq hs)
    · rw [space?_withSpace, if_pos rfl]
    · rw [Space.toNat_granting hroom]
      exact Nat.lt_succ_self _
    · exact Space.mem_granting.2 (.inl rfl)
  · rintro why _ ⟨rfl, _⟩
    exact .refl _

theorem newThread_granted (owner : ComponentId) :
    (newThread owner).Leads k
      (fun thread k' => Above k k' ∧ Granted k k' k.selfId thread.cap.slot ∧
        (k'.threadOwner? thread.tid).isSome)
      (fun _ => Above k) := by
  refine (Makes.knownSpace owner k).bind_from (.refl k) fun _ k₁ h₁ => Step.Leads.get_bind ?_
  rw [h₁.selfId]
  refine Step.Leads.bind_from h₁ (allocateSlot_granted k.selfId) fun slot k₂ h₂ hslot => ?_
  refine Step.Leads.get_bind (Step.Leads.exact_bind (fun nextTid hnext => ?_) fun _ => h₂)
  have hthread := makes_above.thread k₂ nextTid owner (word64?_eq_some_iff.1 hnext)
  refine Step.Leads.set_bind ?_
  refine Step.Leads.bind_along (h₂.trans hthread)
    ((makes_above.record _ (by rfl) _).mono (fun _ _ h => ⟨h, trivial⟩) fun _ _ => id) ?_
  rintro _ k₃ h₃ hrecord -
  refine Step.leads_pure.2 ⟨h₃, (hslot.since h₁).after (hthread.trans hrecord), ?_⟩
  refine hrecord.threads _ ?_
  show (k₂.threads.insert ⟨k₂.nextTid⟩ owner)[(⟨k₂.nextTid⟩ : ThreadId)]?.isSome
  rw [Std.ExtTreeMap.getElem?_insert_self]
  rfl

theorem newRcv_granted (owner : ComponentId) :
    (newRcv owner).Leads k
      (fun rcv k' => Above k k' ∧ GrantedRcv k k' rcv ∧
        (k'.threadOwner? rcv.thread.tid).isSome)
      (fun _ => Above k) := by
  refine Step.Leads.bind_from (.refl k) (newThread_granted owner) ?_
  rintro thread k₁ h₁ ⟨hthread, htid⟩
  apply Step.Leads.get_bind
  rw [h₁.selfId]
  refine Step.Leads.bind_along h₁ (allocateSlot_granted k.selfId) fun rcv k₂ h₂ h₁₂ hrcv => ?_
  refine Step.Leads.bind_along h₂ (allocateSlot_granted k.selfId) fun tcap k₃ h₃ h₂₃ htcap => ?_
  refine Step.Leads.bind_along h₃
    ((makes_above.record _ (by rfl) k₃).mono (fun _ _ h => ⟨h, trivial⟩) fun _ _ => id) ?_
  rintro _ k₄ h₄ h₃₄ -
  have h₂₄ := h₂₃.trans h₃₄
  refine Step.leads_pure.2 ⟨h₄, ?_, (h₁₂.trans h₂₄).threads _ htid⟩
  unfold GrantedRcv
  simp only [List.forall_mem_cons, List.not_mem_nil, false_imp_iff, implies_true, and_true]
  exact ⟨hthread.after (h₁₂.trans h₂₄), (hrcv.since h₁).after h₂₄, (htcap.since h₂).after h₃₄⟩

theorem createRcv_granted (owner : ComponentId) :
    (createRcv owner).Leads k
      (fun rcv k' => Above k k' ∧ GrantedRcv k k' rcv ∧
        (k'.threadOwner? rcv.thread.tid).isSome)
      (fun _ => Above k) := by
  refine (makes_above.failOn _ _ k).bind_from (.refl k) fun _ k₁ h₁ => ?_
  refine (newRcv_granted owner).mono ?_ fun _ _ h => h₁.trans h
  rintro rcv k₂ ⟨h₂, hslots, htid⟩
  refine ⟨h₁.trans h₂, fun slot hslot => ?_, htid⟩
  rw [← h₁.selfId]
  exact (hslots slot hslot).since h₁

theorem createThread_granted (owner : ComponentId) :
    (createThread owner).Leads k
      (fun thread k' => Above k k' ∧ Granted k k' k.selfId thread.cap.slot)
      (fun _ => Above k) := by
  refine (makes_above.failOn _ _ k).bind_from (.refl k) fun _ k₁ h₁ => ?_
  refine (newThread_granted owner).mono ?_ fun _ _ h => h₁.trans h
  rintro thread k₂ ⟨h₂, hslot, _⟩
  rw [h₁.selfId] at hslot
  exact ⟨h₁.trans h₂, hslot.since h₁⟩

theorem aliasRcv_granted (rcv : Rcv) (into : ComponentId) :
    (aliasRcv rcv into).Leads k
      (fun aliases k' => Above k k' ∧ GrantedAliases k k' into aliases) (fun _ => Above k) := by
  refine (makes_above.failOn _ _ k).bind_from (.refl k) fun _ k₁ h₁ => Step.Leads.get_bind ?_
  refine Step.Leads.ite (fun _ => .refuse_bind h₁) fun _ => ?_
  refine Step.Leads.bind_along h₁ (allocateSlot_granted into) fun thread k₂ h₂ _ hthread => ?_
  refine Step.Leads.bind_along h₂ (allocateSlot_granted into) fun rcv k₃ h₃ h₂₃ hrcv => ?_
  refine Step.Leads.bind_along h₃ (allocateSlot_granted into) fun tcap k₄ h₄ h₃₄ htcap => ?_
  refine Step.Leads.bind_along h₄
    ((makes_above.record _ (by rfl) k₄).mono (fun _ _ h => ⟨h, trivial⟩) fun _ _ => id) ?_
  rintro _ k₅ h₅ h₄₅ -
  have h₃₅ := h₃₄.trans h₄₅
  refine Step.leads_pure.2 ⟨h₅, ?_⟩
  unfold GrantedAliases
  simp only [List.forall_mem_cons, List.not_mem_nil, false_imp_iff, implies_true, and_true]
  exact ⟨(hthread.since h₁).after (h₂₃.trans h₃₅), (hrcv.since h₂).after h₃₅,
    (htcap.since h₃).after h₄₅⟩

theorem createAsnd_granted (rcv : Rcv) :
    (createAsnd rcv).Leads k
      (fun asnd k' => Above k k' ∧ Granted k k' k.selfId asnd.cap.slot) (fun _ => Above k) := by
  refine Step.Leads.get_bind ?_
  refine Step.Leads.bind_from (.refl k) (allocateSlot_granted k.selfId) fun slot k₁ h₁ hslot => ?_
  refine Step.Leads.bind_along h₁
    ((makes_above.record _ (by rfl) k₁).mono (fun _ _ h => ⟨h, trivial⟩) fun _ _ => id) ?_
  exact fun _ k₂ h₂ h₁₂ _ => Step.leads_pure.2 ⟨h₂, hslot.after h₁₂⟩

end CapabilityBroker.Kernel
