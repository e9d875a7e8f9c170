/-
CapabilityBroker/Proofs/Kernel/Sound.lean

Kernels in which nothing goes wrong by itself.

A kernel is sound if it has the standard layout and no planned faults, hands
out no more frames than there are, has used a slot of the broker's table for
every thread id, and maps whole frames only.  Thread ids then never run out:
the table is full before.  `SoundSince k₀ k` adds that nothing was taken back
since `k₀`.  Every primitive that makes objects keeps it and does not abort;
those that map memory have statements of their own.
-/
import CapabilityBroker.Proofs.Kernel.Making

namespace CapabilityBroker.Kernel

/-- Every frame in the page table begins at a page boundary. -/
def Space.Aligned (s : Space) : Prop :=
  ∀ (n : Nat) (frame : Paddr), s.pages[n]? = some frame → pageSize ∣ frame.toNat

/-- Nothing is planned to fail, and nothing has run out of its bounds. -/
structure Sound (k : Kernel) : Prop where
  layout : k.layout = .standard
  noFaults : k.faults.pending = []
  frames : k.nextFrame ≤ Layout.standard.physFrames
  own : ∃ own, k.space? k.selfId = some own ∧ k.nextTid.toNat ≤ own.captblFrontier.toNat
  aligned : ∀ id s, k.space? id = some s → s.Aligned

/-- A sound kernel that has all that an earlier one had. -/
structure SoundSince (k₀ k : Kernel) : Prop where
  sound : k.Sound
  frames : k₀.nextFrame ≤ k.nextFrame
  spaces : ∀ id, k₀.hasComponent id = true → k.hasComponent id = true

/-- The step stays sound, whatever it comes to, and does not abort. -/
def Keeps {ε α : Type} (s : Step Kernel ε α) : Prop :=
  ∀ k₀ k, SoundSince k₀ k →
    s.Leads k (fun _ => SoundSince k₀) (fun why k' => SoundSince k₀ k' ∧ why ≠ .abort)

variable {ε α : Type} {k₀ k k' : Kernel} {id into owner : ComponentId} {s s' : Space}

/-- An attempt stays as sound as the step. -/
theorem Keeps.attempt {s : Step Kernel Refusal α} (hs : Keeps s) :
    Keeps (Step.attempt s : Step Kernel ε (Except Refusal α)) := by
  refine fun k₀ k h => Step.leads_attempt.2 ((hs k₀ k h).mono (fun _ _ hk => hk) ?_)
  rintro why k' ⟨hk, hwhy⟩
  exact ⟨fun _ _ => hk, fun habort => absurd habort hwhy⟩

/-! ### Changes that keep a kernel sound -/

theorem SoundSince.refl (h : k.Sound) : SoundSince k k := ⟨h, Nat.le_refl _, fun _ hid => hid⟩

theorem SoundSince.trans (h : SoundSince k₀ k) (h' : SoundSince k k') : SoundSince k₀ k' :=
  ⟨h'.sound, Nat.le_trans h.frames h'.frames, fun id hid => h'.spaces id (h.spaces id hid)⟩

/-- Threads, the shared region and the trail do not matter. -/
theorem SoundSince.of_notes {threads : Std.ExtTreeMap ThreadId ComponentId} {ulkReady : Bool}
    {trail : Trail Event} (h : SoundSince k₀ k) :
    SoundSince k₀ { k with threads, ulkReady, trail } :=
  ⟨⟨h.sound.layout, h.sound.noFaults, h.sound.frames, h.sound.own, h.sound.aligned⟩, h.frames,
    h.spaces⟩

/-- A component changes, and its table does not move back. -/
theorem SoundSince.withSpace (h : SoundSince k₀ k) (hs : k.space? into = some s)
    (hslots : s.captblFrontier.toNat ≤ s'.captblFrontier.toNat) (ha : s'.Aligned) :
    SoundSince k₀ (k.withSpace into s') := by
  refine ⟨⟨h.sound.layout, h.sound.noFaults, h.sound.frames, ?_, fun id t ht => ?_⟩, h.frames,
    fun id hid => hasComponent_withSpace (h.spaces id hid)⟩
  · obtain ⟨own, hown, hle⟩ := h.sound.own
    rw [selfId_withSpace, space?_withSpace]
    split
    · next heq =>
      subst heq
      cases Option.some.inj (hs.symm.trans hown)
      exact ⟨s', rfl, Nat.le_trans hle hslots⟩
    · exact ⟨own, hown, hle⟩
  · rw [space?_withSpace] at ht
    split at ht
    · cases Option.some.inj ht
      exact ha
    · exact h.sound.aligned id t ht

/-- A slot was handed out. -/
theorem SoundSince.granting (h : SoundSince k₀ k) (hs : k.space? into = some s)
    (hroom : s.captblFrontier < s.captblLimit) :
    SoundSince k₀ (k.withSpace into s.granting) := by
  apply h.withSpace hs
  · rw [Space.toNat_granting hroom]
    exact Nat.le_succ _
  · exact h.sound.aligned into s hs

/-- A component comes that was not there. -/
theorem SoundSince.withNew (h : SoundSince k₀ k) (hn : k.space? into = none) (ha : s.Aligned) :
    SoundSince k₀ (k.withSpace into s) := by
  refine ⟨⟨h.sound.layout, h.sound.noFaults, h.sound.frames, ?_, fun id t ht => ?_⟩, h.frames,
    fun id hid => hasComponent_withSpace (h.spaces id hid)⟩
  · obtain ⟨own, hown, hle⟩ := h.sound.own
    have hne : into ≠ k.selfId := by
      rintro rfl
      cases hn.symm.trans hown
    rw [selfId_withSpace, space?_withSpace, if_neg hne]
    exact ⟨own, hown, hle⟩
  · rw [space?_withSpace] at ht
    split at ht
    · cases Option.some.inj ht
      exact ha
    · exact h.sound.aligned id t ht

theorem Space.Aligned.of_empty (h : s.pages = ∅) : s.Aligned := by
  intro n frame hn
  rw [h] at hn
  cases hn

/-! ### The steps that the primitives share -/

theorem record_keeps (event : Event) : Keeps (record event : Step Kernel ε Unit) :=
  fun _ _ h => Step.leads_modify.2 h.of_notes

theorem failOn_bind {f : Unit → Step Kernel Refusal α} {post : α → Kernel → Prop}
    {stop : Stop Refusal → Kernel → Prop} {fault : Fault} {reason : String} (h : k.Sound)
    (hf : (f ()).Leads k post stop) : (failOn fault reason >>= f).Leads k post stop := by
  refine Step.leads_bind.2 (Step.leads_bind.2 ((inject_quiet h.noFaults fault).mono ?_
    fun _ _ => False.elim))
  rintro _ _ ⟨rfl, rfl⟩
  exact Step.leads_pure.2 hf

theorem knownSpace_keeps (id : ComponentId) : Keeps (knownSpace id) := by
  intro k₀ k h
  refine (knownSpace_leads id).mono ?_ ?_
  · rintro s _ ⟨rfl, _⟩
    exact h
  · rintro why _ ⟨rfl, rfl, _⟩
    exact ⟨h, by simp⟩

theorem allocateSlot_keeps (into : ComponentId) : Keeps (allocateSlot into) := by
  intro k₀ k h
  refine (allocateSlot_granting into).mono ?_ ?_
  · rintro _ _ ⟨s, hs, hroom, _, rfl⟩
    exact h.granting hs hroom
  · rintro why _ ⟨rfl, ⟨_, rfl⟩ | ⟨_, rfl⟩⟩ <;> exact ⟨h, by simp⟩

theorem revokeSlots_keeps (owner : ComponentId) (slots : List UInt64) :
    Keeps (revokeSlots owner slots) := by
  intro k₀ k h
  refine Step.leads_bind.2 ((knownSpace_leads owner).mono ?_ ?_)
  · rintro s _ ⟨rfl, hs⟩
    split
    · exact Step.leads_refuse.2 ⟨h, by simp⟩
    · exact Step.leads_modify.2 (h.withSpace hs (Nat.le_refl _) (h.sound.aligned owner s hs))
  · rintro why _ ⟨rfl, rfl, _⟩
    exact ⟨h, by simp⟩

/-! ### Components -/

/-- A table of the standard size fits a word wherever the standard layout
puts it. -/
theorem createVmComponent_leads (id : ComponentId) (name : String) (h : SoundSince k₀ k) :
    (createVmComponent id name).Leads k
      (fun _ k' => SoundSince k₀ k' ∧ k'.hasComponent id = true)
      (fun why k' => SoundSince k₀ k' ∧ why ≠ .abort) := by
  refine Step.Leads.get_bind (Step.Leads.ite (fun _ => ?_) fun hfree => ?_)
  · exact Step.Leads.refuse_bind ⟨h, by simp⟩
  have hn : k.space? id = none := space?_eq_none hfree
  rw [h.sound.layout]
  refine Step.Leads.exact_bind (fun s hs => ?_) fun hnone => ?_
  · have ha : s.Aligned := .of_empty (Space.empty_of_create? hs).1
    refine Step.Leads.modify_bind (Step.leads_modify.2 ⟨?_, ?_⟩)
    · exact (h.withNew (s := { s with isVm := true }) hn ha).of_notes
    · exact hasComponent_iff.2 ⟨_, space?_withSpace.trans (if_pos rfl)⟩
  · cases hnone

/-- Where a component is created, it is there. -/
theorem createComponent_leads (id : ComponentId) (name : String) (resources : Option Resources)
    (h : SoundSince k₀ k) :
    (createComponent id name resources).Leads k
      (fun _ k' => SoundSince k₀ k' ∧ k'.hasComponent id = true)
      (fun _ k' => SoundSince k₀ k') := by
  apply Step.Leads.get_bind
  dsimp only
  split
  · next s hs =>
    refine Step.Leads.modify_bind (Step.leads_modify.2 ⟨?_, ?_⟩)
    · have hnamed : SoundSince k₀ (k.withSpace id { s with name := name }) :=
        h.withSpace hs (Nat.le_refl _) (h.sound.aligned id s hs)
      exact hnamed.of_notes
    · exact hasComponent_iff.2 ⟨_, space?_withSpace.trans (if_pos rfl)⟩
  · exact Step.Leads.refuse_bind h
  · next hn =>
    refine Step.Leads.exact_bind (fun s hs => ?_) fun _ => h
    have ha : s.Aligned := .of_empty (Space.empty_of_create? hs).1
    refine Step.Leads.modify_bind (Step.leads_modify.2 ⟨(h.withNew hn ha).of_notes, ?_⟩)
    exact hasComponent_iff.2 ⟨_, space?_withSpace.trans (if_pos rfl)⟩

/-! ### Threads and endpoints -/

/-- The slot taken for a thread keeps the ids below the table's frontier. -/
theorem newThread_keeps (owner : ComponentId) : Keeps (newThread owner) := by
  intro k₀ k h
  refine Step.Leads.bind (knownSpace_keeps owner k₀ k h) fun _ k h => Step.Leads.get_bind ?_
  refine Step.leads_bind.2 ((allocateSlot_granting k.selfId).mono ?_ ?_)
  · rintro slot _ ⟨s, hs, hroom, _, rfl⟩
    apply Step.Leads.get_bind
    obtain ⟨own, hown, hle⟩ := h.sound.own
    cases Option.some.inj (hs.symm.trans hown)
    have h' : SoundSince k₀ (k.withSpace k.selfId s.granting) := h.granting hs hroom
    refine Step.Leads.exact_bind (fun nextTid htid => ?_) fun hnone => ?_
    · rw [word64?_eq_some_iff] at htid
      refine Step.Leads.set_bind (Step.Leads.modify_bind (Step.leads_pure.2 ?_))
      refine ⟨⟨h'.sound.layout, h'.sound.noFaults, h'.sound.frames, ?_, h'.sound.aligned⟩,
        h'.frames, h'.spaces⟩
      refine ⟨_, space?_withSpace.trans (if_pos rfl), ?_⟩
      rw [htid, Space.toNat_granting hroom]
      exact Nat.succ_le_succ hle
    · exact absurd (Space.succ_lt_size hroom hle) (Nat.not_lt.2 (word64?_eq_none_iff.1 hnone))
  · rintro why _ ⟨rfl, ⟨_, rfl⟩ | ⟨_, rfl⟩⟩ <;> exact ⟨h, by simp⟩

theorem createThread_keeps (owner : ComponentId) : Keeps (createThread owner) :=
  fun k₀ k h => failOn_bind h.sound (newThread_keeps owner k₀ k h)

theorem aliasThread_keeps (thread : Thread) (into : ComponentId) :
    Keeps (aliasThread thread into) := by
  intro k₀ k h
  refine failOn_bind h.sound (Step.Leads.get_bind (Step.Leads.ite (fun _ => ?_) fun _ => ?_))
  · exact Step.Leads.refuse_bind ⟨h, by simp⟩
  · refine Step.Leads.bind (allocateSlot_keeps into k₀ k h) fun slot k h => ?_
    exact Step.Leads.bind (record_keeps _ k₀ k h) fun _ k h => Step.leads_pure.2 h

theorem newRcv_keeps (owner : ComponentId) : Keeps (newRcv owner) := by
  intro k₀ k h
  refine Step.Leads.bind (newThread_keeps owner k₀ k h) fun thread k h => Step.Leads.get_bind ?_
  refine Step.Leads.bind (allocateSlot_keeps _ k₀ k h) fun rcv k h => ?_
  refine Step.Leads.bind (allocateSlot_keeps _ k₀ k h) fun tcap k h => ?_
  exact Step.Leads.bind (record_keeps _ k₀ k h) fun _ k h => Step.leads_pure.2 h

theorem createRcv_keeps (owner : ComponentId) : Keeps (createRcv owner) :=
  fun k₀ k h => failOn_bind h.sound (newRcv_keeps owner k₀ k h)

theorem aliasRcv_keeps (rcv : Rcv) (into : ComponentId) : Keeps (aliasRcv rcv into) := by
  intro k₀ k h
  refine failOn_bind h.sound (Step.Leads.get_bind (Step.Leads.ite (fun _ => ?_) fun _ => ?_))
  · exact Step.Leads.refuse_bind ⟨h, by simp⟩
  · refine Step.Leads.bind (allocateSlot_keeps into k₀ k h) fun thread k h => ?_
    refine Step.Leads.bind (allocateSlot_keeps into k₀ k h) fun endpoint k h => ?_
    refine Step.Leads.bind (allocateSlot_keeps into k₀ k h) fun tcap k h => ?_
    exact Step.Leads.bind (record_keeps _ k₀ k h) fun _ k h => Step.leads_pure.2 h

theorem revokeRcvAlias_keeps (aliases : RcvAliases) (owner : ComponentId) :
    Keeps (revokeRcvAlias aliases owner) := fun k₀ k h =>
  Step.Leads.bind (revokeSlots_keeps owner _ k₀ k h) fun _ k h => record_keeps _ k₀ k h

theorem revokeRcv_keeps (rcv : Rcv) : Keeps (revokeRcv rcv) := by
  intro k₀ k h
  refine Step.Leads.get_bind (Step.Leads.ite (fun _ => ?_) fun _ => ?_)
  · exact Step.Leads.refuse_bind ⟨h, by simp⟩
  · refine Step.Leads.bind (revokeSlots_keeps _ _ k₀ k h) fun _ k h => ?_
    exact Step.Leads.modify_bind (Step.leads_modify.2 h.of_notes)

theorem createAsnd_keeps (rcv : Rcv) : Keeps (createAsnd rcv) := by
  intro k₀ k h
  refine Step.Leads.get_bind (Step.Leads.bind (allocateSlot_keeps _ k₀ k h) fun slot k h => ?_)
  exact Step.Leads.bind (record_keeps _ k₀ k h) fun _ k h => Step.leads_pure.2 h

theorem aliasAsnd_keeps (into : ComponentId) : Keeps (aliasAsnd into) := by
  intro k₀ k h
  refine failOn_bind h.sound (Step.Leads.bind (allocateSlot_keeps into k₀ k h) fun slot k h => ?_)
  exact Step.Leads.bind (record_keeps _ k₀ k h) fun _ k h => Step.leads_pure.2 h

theorem revokeAsnd_keeps (asnd : Asnd) : Keeps (revokeAsnd asnd) := by
  intro k₀ k h
  refine Step.Leads.get_bind (Step.Leads.bind (revokeSlots_keeps _ _ k₀ k h) fun _ k h => ?_)
  exact record_keeps _ k₀ k h

/-! ### The shared region -/

theorem initUlk_keeps : Keeps initUlk := by
  intro k₀ k h
  refine Step.Leads.get_bind (Step.Leads.ite (fun _ => ?_) fun _ => Step.leads_set.2 h.of_notes)
  exact Step.Leads.refuse_bind ⟨h, by simp⟩

theorem mapUlk_keeps (id : ComponentId) : Keeps (mapUlk id) := by
  intro k₀ k h
  refine Step.Leads.get_bind (Step.Leads.ite (fun _ => ?_) fun _ => ?_)
  · exact Step.Leads.refuse_bind ⟨h, by simp⟩
  refine Step.leads_bind.2 ((knownSpace_leads id).mono ?_ ?_)
  · rintro s _ ⟨rfl, hs⟩
    refine Step.Leads.ite (fun _ => Step.Leads.refuse_bind ⟨h, by simp⟩) fun _ => ?_
    refine Step.Leads.modify_bind (Step.leads_modify.2 (SoundSince.of_notes ?_))
    exact h.withSpace hs (Nat.le_refl _) (h.sound.aligned id s hs)
  · rintro why _ ⟨rfl, rfl, _⟩
    exact ⟨h, by simp⟩

/-! ### The beginning -/

/-- On the standard machine, a kernel without planned faults begins sound. -/
theorem sound_of_create? {selfId : ComponentId}
    (h : create? selfId .standard [] = some k) : k.Sound := by
  obtain ⟨space, hthere, ⟨hpages, _⟩, _, hcaptbl, _⟩ := space?_of_create? h
  obtain ⟨_, _, hk⟩ := Option.map_eq_some_iff.1 h
  have hself : k.selfId = selfId := by rw [← hk]
  refine ⟨by rw [← hk], by rw [← hk]; rfl, by rw [← hk]; exact Nat.zero_le _, ?_, ?_⟩
  · refine ⟨space, ?_, ?_⟩
    · rw [hself, hthere, if_pos rfl]
    · rw [← hk, hcaptbl]
      show (1 : UInt64).toNat ≤ (16 : UInt64).toNat
      decide
  · intro d s hs n frame hn
    rw [hthere] at hs
    split at hs
    · cases Option.some.inj hs
      rw [hpages, Std.ExtTreeMap.getElem?_empty] at hn
      cases hn
    · cases hs

end CapabilityBroker.Kernel
