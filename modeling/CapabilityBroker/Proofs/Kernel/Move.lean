/-
CapabilityBroker/Proofs/Kernel/Move.lean

The two kinds of kernel primitive.

A primitive is about objects or about memory.  The primitives on components,
threads and endpoints (`ObjectMove`) touch no page table, no heap and no frame,
and whatever they put into a capability table stands at the table's frontier or
above.  The primitives on frames and page tables (`MemoryMove`) touch no
capability table and no thread, and make no component.  Neither plans a fault,
and with either slots and threads stay `Numbered`, and the null slot stays out of
use (`Rooted`).  Both hold of every end of a primitive, refusals and aborts
included.
-/
import CapabilityBroker.Proofs.Kernel.Making
import CapabilityBroker.Proofs.Kernel.Shows

namespace CapabilityBroker.Kernel

open Step (Stays StaysFrom)

variable {ε α : Type} {adds : ComponentId → Prop} {k k' k'' : Kernel} {id into owner : ComponentId}
  {s s' s'' : Space} {slot : UInt64}

theorem Faults.mem_of_take {faults : Faults} {fault f : Fault}
    (h : f ∈ (faults.take fault).2.pending) : f ∈ faults.pending := by
  unfold Faults.take at h
  split at h
  · exact List.mem_of_mem_erase h
  · exact h

/-! ### The null slot -/

/-- The capability table began behind the null slot. -/
def Space.Rooted (s : Space) : Prop := s.captblFrontier ≠ 0 ∧ 0 ∉ s.liveCaps

/-- If tables begin behind the null slot when nothing else is said, they all do. -/
def Rooted (k : Kernel) : Prop :=
  k.layout.captblBase ≠ 0 → ∀ d s, k.space? d = some s → s.Rooted

theorem Rooted.withSpace (h : k.Rooted) (hs : k.layout.captblBase ≠ 0 → s.Rooted) :
    (k.withSpace into s).Rooted := by
  intro hbase d t ht
  rw [space?_withSpace] at ht
  split at ht
  · obtain rfl := Option.some.inj ht
    exact hs hbase
  · exact h hbase d t ht

theorem rooted_of_create? {selfId : ComponentId} {layout : Layout} {faults : List Fault}
    (h : create? selfId layout faults = some k) : k.Rooted := by
  intro hbase d t ht
  obtain ⟨space, hspace, ⟨_, hlive⟩, _, hcaptbl, _⟩ := space?_of_create? h
  obtain ⟨_, _, rfl⟩ := Option.map_eq_some_iff.1 h
  rw [hspace] at ht
  split at ht
  · obtain rfl := Option.some.inj ht
    refine ⟨hcaptbl ▸ hbase, fun hmem => ?_⟩
    rw [hlive] at hmem
    exact Std.ExtTreeSet.not_mem_empty hmem
  · cases ht

/-- A slot that names something is not the null one. -/
theorem Rooted.ne_zero (h : k.Rooted) (hbase : k.layout.captblBase ≠ 0)
    (hslot : k.holds id slot = true) : slot ≠ 0 := by
  unfold holds at hslot
  split at hslot
  · next s hs =>
    rintro rfl
    exact (h hbase id s hs).2 hslot
  · cases hslot

/-! ### Primitives on objects -/

/-- A component of which only the capability table may change, and only at the
frontier and above where slots are added. -/
structure Space.ObjectMove (s s' : Space) : Prop where
  pages : s'.pages = s.pages
  heap : s'.heapFrontier = s.heapFrontier
  frontier : s.captblFrontier.toNat ≤ s'.captblFrontier.toNat
  gained : ∀ slot ∈ s'.liveCaps, slot ∈ s.liveCaps ∨ s.captblFrontier.toNat ≤ slot.toNat
  numbered : s.Numbered → s'.Numbered

theorem Space.ObjectMove.refl (s : Space) : s.ObjectMove s :=
  ⟨rfl, rfl, Nat.le_refl _, fun _ => .inl, id⟩

theorem Space.ObjectMove.trans (h : s.ObjectMove s') (h' : s'.ObjectMove s'') :
    s.ObjectMove s'' where
  pages := h'.pages.trans h.pages
  heap := h'.heap.trans h.heap
  frontier := Nat.le_trans h.frontier h'.frontier
  gained slot hslot := by
    rcases h'.gained slot hslot with hold | hnew
    · exact h.gained slot hold
    · exact .inr (Nat.le_trans h.frontier hnew)
  numbered := h'.numbered ∘ h.numbered

/-- Slots come from the frontier on, so the null slot is not among them. -/
theorem Space.ObjectMove.rooted (h : s.ObjectMove s') (hs : s.Rooted) : s'.Rooted := by
  have hpos : 0 < s.captblFrontier.toNat :=
    Nat.pos_of_ne_zero fun h0 => hs.1 (UInt64.toNat.inj h0)
  refine ⟨fun h0 => ?_, fun hmem => ?_⟩
  · have hle := h.frontier
    rw [h0] at hle
    exact Nat.not_le.2 hpos hle
  · rcases h.gained 0 hmem with hold | hnew
    · exact hs.2 hold
    · exact Nat.not_le.2 hpos hnew

/-- What a primitive on objects does to the kernel.  It may add the components
in `adds`, with nothing mapped, and with a heap above the null page where the machine has one. -/
structure ObjectMove (adds : ComponentId → Prop) (k k' : Kernel) : Prop where
  selfId : k'.selfId = k.selfId
  layout : k'.layout = k.layout
  nextFrame : k'.nextFrame = k.nextFrame
  faults : ∀ f ∈ k'.faults.pending, f ∈ k.faults.pending
  spaces : ∀ d s, k.space? d = some s → ∃ s', k'.space? d = some s' ∧ s.ObjectMove s'
  fresh : ∀ d s', k.space? d = none → k'.space? d = some s' → adds d ∧ s'.pages = ∅
  seeded : k.layout.heapBase ≠ .null →
    ∀ d s', k.space? d = none → k'.space? d = some s' → s'.heapFrontier ≠ .null
  mappings : k'.mappings = k.mappings
  numbered : k.Numbered → k'.Numbered
  rooted : k.Rooted → k'.Rooted

namespace ObjectMove

theorem refl (k : Kernel) : ObjectMove adds k k where
  selfId := rfl
  layout := rfl
  nextFrame := rfl
  faults _ := id
  spaces _ s hs := ⟨s, hs, .refl s⟩
  fresh _ _ hn hs := by cases hn.symm.trans hs
  seeded _ _ _ hn hs := by cases hn.symm.trans hs
  mappings := rfl
  numbered := id
  rooted := id

theorem trans (h : ObjectMove adds k k') (h' : ObjectMove adds k' k'') :
    ObjectMove adds k k'' where
  selfId := h'.selfId.trans h.selfId
  layout := h'.layout.trans h.layout
  nextFrame := h'.nextFrame.trans h.nextFrame
  faults f hf := h.faults f (h'.faults f hf)
  spaces d s hs := by
    obtain ⟨s₁, hs₁, hm⟩ := h.spaces d s hs
    obtain ⟨s₂, hs₂, hm'⟩ := h'.spaces d s₁ hs₁
    exact ⟨s₂, hs₂, hm.trans hm'⟩
  fresh d s₂ hn hs₂ := by
    cases hs₁ : k'.space? d with
    | none => exact h'.fresh d s₂ hs₁ hs₂
    | some s₁ =>
      obtain ⟨hadds, hempty⟩ := h.fresh d s₁ hn hs₁
      obtain ⟨t, ht, hm⟩ := h'.spaces d s₁ hs₁
      obtain rfl := Option.some.inj (ht.symm.trans hs₂)
      exact ⟨hadds, hm.pages.trans hempty⟩
  seeded hbase d s₂ hn hs₂ := by
    cases hs₁ : k'.space? d with
    | none => exact h'.seeded (by rwa [h.layout]) d s₂ hs₁ hs₂
    | some s₁ =>
      obtain ⟨t, ht, hm⟩ := h'.spaces d s₁ hs₁
      obtain rfl := Option.some.inj (ht.symm.trans hs₂)
      rw [hm.heap]
      exact h.seeded hbase d s₁ hn hs₁
  mappings := h'.mappings.trans h.mappings
  numbered := h'.numbered ∘ h.numbered
  rooted := h'.rooted ∘ h.rooted

instance : IsPreorder Kernel (ObjectMove adds) where
  refl := refl
  trans _ _ _ := trans

/-- Threads come under the next number, or go. -/
theorem of_threads {threads : Std.ExtTreeMap ThreadId ComponentId} {nextTid : UInt64}
    (h : k.Numbered → Numbered { k with threads, nextTid }) :
    ObjectMove adds k { k with threads, nextTid } where
  selfId := rfl
  layout := rfl
  nextFrame := rfl
  faults _ := id
  spaces _ s hs := ⟨s, hs, .refl s⟩
  fresh _ _ hn hs := by cases hn.symm.trans hs
  seeded _ _ _ hn hs := by cases hn.symm.trans hs
  mappings := rfl
  numbered := h
  rooted h := h

/-- The shared region, the planned faults and the trail are no part of this, as
long as the trail gains no mapping. -/
theorem of_notes {ulkReady : Bool} {faults : Faults} {trail : Trail Event}
    (hf : ∀ f ∈ faults.pending, f ∈ k.faults.pending)
    (ht : Kernel.mappings { k with trail } = k.mappings) :
    ObjectMove adds k { k with ulkReady, faults, trail } where
  selfId := rfl
  layout := rfl
  nextFrame := rfl
  faults := hf
  spaces _ s hs := ⟨s, hs, .refl s⟩
  fresh _ _ hn hs := by cases hn.symm.trans hs
  seeded _ _ _ hn hs := by cases hn.symm.trans hs
  mappings := ht
  numbered h := ⟨h.slots, h.threads⟩
  rooted h := h

theorem of_space (hs : k.space? into = some s) (hm : s.ObjectMove s') :
    ObjectMove adds k (k.withSpace into s') := by
  have hthere : ∀ d, k.space? d = none → (k.withSpace into s').space? d = none := by
    intro d hn
    have hd : into ≠ d := by
      rintro rfl
      cases hn.symm.trans hs
    rw [space?_withSpace, if_neg hd]
    exact hn
  have hspaces : ∀ d t, k.space? d = some t →
      ∃ t', (k.withSpace into s').space? d = some t' ∧ t.ObjectMove t' := by
    intro d t ht
    rw [space?_withSpace]
    by_cases hd : into = d
    · subst hd
      obtain rfl := Option.some.inj (hs.symm.trans ht)
      exact ⟨s', if_pos rfl, hm⟩
    · exact ⟨t, (if_neg hd).trans ht, .refl t⟩
  exact
    { selfId := rfl
      layout := rfl
      nextFrame := rfl
      faults := fun _ => id
      spaces := hspaces
      fresh := fun d t hn ht => by cases (hthere d hn).symm.trans ht
      seeded := fun _ d t hn ht => by cases (hthere d hn).symm.trans ht
      mappings := rfl
      numbered := fun h => h.withSpace (hm.numbered (h.slots into s hs))
      rooted := fun h => h.withSpace fun hbase => hm.rooted (h hbase into s hs) }

theorem of_new (hn : k.space? into = none) (ha : adds into) (hp : s.pages = ∅)
    (hl : s.liveCaps = ∅) (hheap : k.layout.heapBase ≠ .null → s.heapFrontier ≠ .null)
    (hcaptbl : k.layout.captblBase ≠ 0 → s.captblFrontier ≠ 0) :
    ObjectMove adds k (k.withSpace into s) := by
  have hspaces : ∀ d t, k.space? d = some t →
      ∃ t', (k.withSpace into s).space? d = some t' ∧ t.ObjectMove t' := by
    intro d t ht
    have hd : into ≠ d := by
      rintro rfl
      cases hn.symm.trans ht
    exact ⟨t, space?_withSpace.trans ((if_neg hd).trans ht), .refl t⟩
  -- A component that is new can only be the one that came.
  have honly : ∀ d t, k.space? d = none → (k.withSpace into s).space? d = some t →
      into = d ∧ s = t := by
    intro d t hnone ht
    rw [space?_withSpace] at ht
    split at ht
    · next hd => exact ⟨hd, Option.some.inj ht⟩
    · cases hnone.symm.trans ht
  exact
    { selfId := rfl
      layout := rfl
      nextFrame := rfl
      faults := fun _ => id
      spaces := hspaces
      fresh := fun d t hnone ht => by
        obtain ⟨rfl, rfl⟩ := honly d t hnone ht
        exact ⟨ha, hp⟩
      seeded := fun hbase d t hnone ht => by
        obtain ⟨rfl, rfl⟩ := honly d t hnone ht
        exact hheap hbase
      mappings := rfl
      numbered := fun h => h.withSpace (.of_empty hl)
      rooted := fun h => h.withSpace fun hbase =>
        ⟨hcaptbl hbase, hl ▸ Std.ExtTreeSet.not_mem_empty⟩ }

end ObjectMove

theorem makes_objectMove : Makes (ObjectMove adds) where
  fault _ _ := .of_notes (fun _ => Faults.mem_of_take) rfl
  event _ _ hmapping := .of_notes (fun _ => id) (mappings_record hmapping)
  thread _ _ owner hnext := .of_threads fun h => h.thread hnext owner
  slot k into s hs hroom := by
    refine .of_space hs ⟨rfl, rfl, ?_, fun slot hslot => ?_, fun h => h.granting hroom⟩
    · rw [Space.toNat_granting hroom]
      exact Nat.le_succ _
    · rcases Space.mem_granting.1 hslot with rfl | hold
      · exact .inr (Nat.le_refl _)
      · exact .inl hold

/-! ### Revocation -/

theorem mem_foldl_erase {slots : List UInt64} {live : Std.ExtTreeSet UInt64} :
    slot ∈ slots.foldl .erase live ↔ slot ∉ slots ∧ slot ∈ live := by
  induction slots generalizing live with
  | nil => simp
  | cons a slots ih =>
    rw [List.foldl_cons, ih, Std.ExtTreeSet.mem_erase, List.mem_cons]
    simp only [Std.LawfulEqCmp.compare_eq_iff_eq, ne_eq, not_or]
    constructor
    · rintro ⟨hrest, ha, hlive⟩
      exact ⟨⟨Ne.symm ha, hrest⟩, hlive⟩
    · rintro ⟨⟨ha, hrest⟩, hlive⟩
      exact ⟨hrest, Ne.symm ha, hlive⟩

/-- The component after slots of its table were emptied. -/
def Space.without (s : Space) (slots : List UInt64) : Space :=
  { s with liveCaps := slots.foldl .erase s.liveCaps }

theorem Space.mem_without {slots : List UInt64} :
    slot ∈ (s.without slots).liveCaps ↔ slot ∉ slots ∧ slot ∈ s.liveCaps := mem_foldl_erase

/-- All the slots are emptied, or none, if one of them is not live. -/
theorem revokeSlots_leads {slots : List UInt64} :
    (revokeSlots owner slots).Leads k
      (fun _ k' => ∃ s, k.space? owner = some s ∧ (∀ slot ∈ slots, slot ∈ s.liveCaps) ∧
        k' = k.withSpace owner (s.without slots))
      (fun _ k' => k' = k ∧
        ∀ s, k.space? owner = some s → ∃ slot ∈ slots, slot ∉ s.liveCaps) := by
  refine Step.leads_bind.2 ((knownSpace_leads owner).mono ?_ ?_)
  · rintro s _ ⟨rfl, hs⟩
    split
    · next dead hdead =>
      refine Step.leads_refuse.2 ⟨rfl, fun t ht => ⟨dead, List.mem_of_find?_eq_some hdead, ?_⟩⟩
      obtain rfl := Option.some.inj (hs.symm.trans ht)
      have hgone := List.find?_some hdead
      rw [Bool.not_eq_true'] at hgone
      rw [Std.ExtTreeSet.mem_iff_contains, hgone]
      exact Bool.false_ne_true
    · next hall =>
      refine Step.leads_modify.2 ⟨s, hs, fun slot hslot => ?_, rfl⟩
      have hlive := List.find?_eq_none.1 hall slot hslot
      rw [Bool.not_eq_true', Bool.not_eq_false] at hlive
      exact Std.ExtTreeSet.mem_iff_contains.2 hlive
  · rintro why _ ⟨rfl, _, hn⟩
    exact ⟨rfl, fun s hs => by cases hn.symm.trans hs⟩

theorem revokeSlots_moves (owner : ComponentId) (slots : List UInt64) :
    Stays (ObjectMove adds) (revokeSlots owner slots) := by
  refine fun k => revokeSlots_leads.mono ?_ ?_
  · rintro _ _ ⟨s, hs, _, rfl⟩
    exact .of_space hs ⟨rfl, rfl, Nat.le_refl _, fun slot h => .inl (Space.mem_without.1 h).2,
      fun h slot hslot => h slot (Space.mem_without.1 hslot).2⟩
  · rintro why _ ⟨rfl, _⟩
    exact .refl _

theorem revokeRcvAlias_moves (aliases : RcvAliases) (owner : ComponentId) :
    Stays (ObjectMove adds) (revokeRcvAlias aliases owner) :=
  (revokeSlots_moves owner _).bind fun _ => makes_objectMove.record _

theorem revokeRcv_moves (rcv : Rcv) : Stays (ObjectMove adds) (revokeRcv rcv) := by
  refine .get_bind fun k => .ite (fun _ => .refuse_bind) fun _ => ?_
  refine Stays.bind (revokeSlots_moves _ _) (fun _ => ?_) k
  refine Stays.bind (.modify fun k => ?_) fun _ => makes_objectMove.record _
  exact .of_threads fun h => h.erase rcv.thread.tid

theorem revokeAsnd_moves (asnd : Asnd) : Stays (ObjectMove adds) (revokeAsnd asnd) :=
  .get_bind fun k => Stays.bind (revokeSlots_moves _ _) (fun _ => makes_objectMove.record _) k

/-! ### Components -/

/-- A component is not given a heap at the null page where the machine has another
base for it. -/
theorem frontiersFrom_ne_null {layout : Layout} (hbase : layout.heapBase ≠ .null)
    (resources : Option Resources) : (frontiersFrom layout resources).1 ≠ .null := by
  unfold frontiersFrom
  cases resources with
  | none => exact hbase
  | some r =>
    dsimp only
    split
    · exact hbase
    · next hnull =>
      intro heq
      rw [heq] at hnull
      exact hnull rfl

/-- A component's table does not begin at the null slot where the machine has another
base for it. -/
theorem frontiersFrom_ne_zero {layout : Layout} (hbase : layout.captblBase ≠ 0)
    (resources : Option Resources) : (frontiersFrom layout resources).2 ≠ 0 := by
  unfold frontiersFrom
  cases resources with
  | none => exact hbase
  | some r =>
    dsimp only
    split
    · exact hbase
    · next hne => exact hne

/-- A component that is created without refusal is there. -/
theorem createComponent_moves (ha : adds id) (name : String) (resources : Option Resources) :
    (createComponent id name resources).Leads k
      (fun _ k' => ObjectMove adds k k' ∧ ∃ s, k'.space? id = some s)
      (fun _ => ObjectMove adds k) := by
  apply Step.Leads.get_bind
  dsimp only
  split
  · next s hs =>
    refine Step.Leads.modify_bind (Step.leads_modify.2 ⟨?_, ?_⟩)
    · have hnamed : ObjectMove adds k (k.withSpace id { s with name := name }) :=
        .of_space hs ⟨rfl, rfl, Nat.le_refl _, fun _ => .inl, fun h => h⟩
      exact hnamed.trans (makes_objectMove.event _ _ rfl)
    · exact ⟨_, space?_withSpace.trans (if_pos rfl)⟩
  · exact Step.Leads.refuse_bind (.refl k)
  · next hn =>
    refine Step.Leads.exact_bind (fun s hs => ?_) fun _ => .refl k
    obtain ⟨hpages, hlive⟩ := Space.empty_of_create? hs
    have hnew : ObjectMove adds k (k.withSpace id s) := by
      obtain ⟨hheap, hcaptbl, _⟩ := Space.frontiers_of_create? hs
      refine .of_new hn ha hpages hlive (fun hbase => ?_) fun hbase => ?_
      · rw [hheap]
        exact frontiersFrom_ne_null hbase _
      · rw [hcaptbl]
        exact frontiersFrom_ne_zero hbase _
    have hnoted := hnew.trans (makes_objectMove.event _ (.componentCreated id name) rfl)
    refine Step.Leads.modify_bind (Step.leads_modify.2 ⟨hnoted, ?_⟩)
    exact ⟨_, space?_withSpace.trans (if_pos rfl)⟩

/-- A machine's component is new, and nothing happens if it is refused. -/
theorem createVmComponent_moves (ha : adds id) (name : String) :
    (createVmComponent id name).Leads k
      (fun _ k' => ObjectMove adds k k' ∧ ∃ s, k'.space? id = some s)
      (fun _ k' => k' = k) := by
  refine Step.Leads.get_bind (Step.Leads.ite (fun _ => Step.Leads.refuse_bind rfl) fun h => ?_)
  refine Step.Leads.exact_bind (fun s hs => ?_) fun _ => rfl
  obtain ⟨hpages, hlive⟩ := Space.empty_of_create? hs
  have hnew : ObjectMove adds k (k.withSpace id { s with isVm := true }) := by
    obtain ⟨hheap, hcaptbl, _⟩ := Space.frontiers_of_create? hs
    refine .of_new (space?_eq_none h) ha hpages hlive (fun hbase => ?_) fun hbase => ?_
    · show s.heapFrontier ≠ _
      rwa [hheap]
    · show s.captblFrontier ≠ _
      rwa [hcaptbl]
  have hnoted := hnew.trans (makes_objectMove.event _ (.componentCreated id name) rfl)
  refine Step.Leads.modify_bind (Step.leads_modify.2 ⟨hnoted, ?_⟩)
  exact ⟨_, space?_withSpace.trans (if_pos rfl)⟩

/-! ### The user-level kernel's region -/

theorem initUlk_moves : Stays (ObjectMove adds) initUlk :=
  .get_bind fun _ => .ite (fun _ => .refuse_bind) fun _ =>
    Step.leads_set.2 (.of_notes (fun _ => id) rfl)

theorem mapUlk_moves (id : ComponentId) : Stays (ObjectMove adds) (mapUlk id) := by
  refine .get_bind fun k => .ite (fun _ => .refuse_bind) fun _ => ?_
  refine knownSpace_bind fun s hs => .ite (fun _ => .refuse_bind) fun _ => ?_
  have hmapped : s.ObjectMove { s with ulkMapped := true } :=
    ⟨rfl, rfl, Nat.le_refl _, fun _ => .inl, fun h => h⟩
  refine StaysFrom.bind (Step.leads_modify.2 (.of_space hs hmapped)) fun _ k' _ => ?_
  exact makes_objectMove.record _ (by rfl) k'

/-! ### Slots of the broker's own table -/

theorem ObjectMove.slotFrontier_le (h : ObjectMove adds k k') (id : ComponentId) :
    k.slotFrontier id ≤ k'.slotFrontier id := by
  cases hs : k.space? id with
  | none =>
    unfold slotFrontier
    rw [hs]
    exact Nat.zero_le _
  | some s =>
    obtain ⟨s', hs', hm⟩ := h.spaces id s hs
    rw [slotFrontier_eq hs, slotFrontier_eq hs']
    exact hm.frontier

/-- A slot that came to be live is one from the frontier on. -/
theorem ObjectMove.holds (h : ObjectMove adds k k') (hslot : k'.holds id slot = true) :
    k.holds id slot = true ∨ k.slotFrontier id ≤ slot.toNat := by
  cases hs : k.space? id with
  | none =>
    right
    unfold slotFrontier
    rw [hs]
    exact Nat.zero_le _
  | some s =>
    obtain ⟨s', hs', hm⟩ := h.spaces id s hs
    rw [slotFrontier_eq hs]
    unfold Kernel.holds at hslot ⊢
    rw [hs'] at hslot
    rw [hs]
    exact hm.gained slot hslot

/-! ### Primitives on memory -/

/-- What a primitive on memory does to the kernel. -/
structure MemoryMove (k k' : Kernel) : Prop where
  selfId : k'.selfId = k.selfId
  layout : k'.layout = k.layout
  threads : k'.threads = k.threads
  nextTid : k'.nextTid = k.nextTid
  nextFrame : k.nextFrame ≤ k'.nextFrame
  faults : ∀ f ∈ k'.faults.pending, f ∈ k.faults.pending
  spaces : ∀ d s, k.space? d = some s → ∃ s', k'.space? d = some s' ∧
    s'.captblFrontier = s.captblFrontier ∧ s'.liveCaps = s.liveCaps
  absent : ∀ d, k.space? d = none → k'.space? d = none

namespace MemoryMove

theorem refl (k : Kernel) : MemoryMove k k :=
  ⟨rfl, rfl, rfl, rfl, Nat.le_refl _, fun _ => id, fun _ s hs => ⟨s, hs, rfl, rfl⟩, fun _ => id⟩

theorem trans (h : MemoryMove k k') (h' : MemoryMove k' k'') : MemoryMove k k'' where
  selfId := h'.selfId.trans h.selfId
  layout := h'.layout.trans h.layout
  threads := h'.threads.trans h.threads
  nextTid := h'.nextTid.trans h.nextTid
  nextFrame := Nat.le_trans h.nextFrame h'.nextFrame
  faults f hf := h.faults f (h'.faults f hf)
  spaces d s hs := by
    obtain ⟨s₁, hs₁, hf, hl⟩ := h.spaces d s hs
    obtain ⟨s₂, hs₂, hf', hl'⟩ := h'.spaces d s₁ hs₁
    exact ⟨s₂, hs₂, hf'.trans hf, hl'.trans hl⟩
  absent d hn := h'.absent d (h.absent d hn)

theorem of_space (hs : k.space? into = some s) (hf : s'.captblFrontier = s.captblFrontier)
    (hl : s'.liveCaps = s.liveCaps) : MemoryMove k (k.withSpace into s') := by
  refine ⟨rfl, rfl, rfl, rfl, Nat.le_refl _, fun _ => id, fun d t ht => ?_, fun d hn => ?_⟩
  · rw [space?_withSpace]
    by_cases hd : into = d
    · subst hd
      obtain rfl := Option.some.inj (hs.symm.trans ht)
      exact ⟨s', if_pos rfl, hf, hl⟩
    · exact ⟨t, (if_neg hd).trans ht, rfl, rfl⟩
  · have hd : into ≠ d := by
      rintro rfl
      cases hn.symm.trans hs
    rw [space?_withSpace, if_neg hd]
    exact hn

theorem of_notes {nextFrame : Nat} {trail : Trail Event} (h : k.nextFrame ≤ nextFrame) :
    MemoryMove k { k with nextFrame, trail } :=
  ⟨rfl, rfl, rfl, rfl, h, fun _ => id, fun _ s hs => ⟨s, hs, rfl, rfl⟩, fun _ => id⟩

theorem slotFrontier_eq (h : MemoryMove k k') (id : ComponentId) :
    k'.slotFrontier id = k.slotFrontier id := by
  unfold slotFrontier
  cases hs : k.space? id with
  | none => rw [h.absent id hs]
  | some s =>
    obtain ⟨s', hs', hf, _⟩ := h.spaces id s hs
    rw [hs']
    exact congrArg UInt64.toNat hf

theorem numbered (h : MemoryMove k k') (hk : k.Numbered) : k'.Numbered where
  slots d s' hs' := by
    cases hs : k.space? d with
    | none => cases (h.absent d hs).symm.trans hs'
    | some s =>
      obtain ⟨t, ht, hf, hl⟩ := h.spaces d s hs
      obtain rfl := Option.some.inj (ht.symm.trans hs')
      unfold Space.Numbered
      rw [hf, hl]
      exact hk.slots d s hs
  threads := by
    unfold threadOwner?
    rw [h.threads, h.nextTid]
    exact hk.threads

theorem rooted (h : MemoryMove k k') (hk : k.Rooted) : k'.Rooted := by
  intro hbase d s' hs'
  rw [h.layout] at hbase
  cases hs : k.space? d with
  | none => cases (h.absent d hs).symm.trans hs'
  | some s =>
    obtain ⟨t, ht, hf, hl⟩ := h.spaces d s hs
    obtain rfl := Option.some.inj (ht.symm.trans hs')
    unfold Space.Rooted
    rw [hf, hl]
    exact hk hbase d s hs

theorem holds_eq (h : MemoryMove k k') (id : ComponentId) (slot : UInt64) :
    k'.holds id slot = k.holds id slot := by
  unfold Kernel.holds
  cases hs : k.space? id with
  | none => rw [h.absent id hs]
  | some s =>
    obtain ⟨s', hs', _, hl⟩ := h.spaces id s hs
    rw [hs']
    exact congrArg (·.contains slot) hl

end MemoryMove

end CapabilityBroker.Kernel
