/-
CapabilityBroker/Proofs/Replay.lean

New objects and replayed capabilities.

The slots of the broker's own table come from two sources: the manifest says
where the composer put the capabilities of the components that run already, and
the kernel hands slots out from the frontier of the table on.  The frontier
begins at the slot that the machine's layout names, and it does not know the
manifest's end of the table.  So the two sources keep apart where the manifest
ends the table below the layout's first slot, and there they do so for good.
-/
import CapabilityBroker.Proofs.Boot.Manifest
import CapabilityBroker.Proofs.Move.Boot

namespace CapabilityBroker

/-! ### Capabilities of a manifest -/

/-- The slots that the broker has on record for a component. -/
def Kernel.Resources.slots (r : Kernel.Resources) : List UInt64 :=
  [r.comp.slot, r.captbl.slot, r.pgtbl.slot]

namespace ComponentCaps

/-- The slots of a group. -/
def slots (caps : ComponentCaps) : List UInt64 := [caps.comp, caps.captbl, caps.pgtbl]

variable {entries : List ReplayEntry} {caps : ComponentCaps} {groups : List ComponentCaps}

/-- Every slot is that of some kind. -/
theorem mem_slots {slot : UInt64} (h : slot ∈ caps.slots) : ∃ kind, caps.slot kind = slot := by
  simp only [slots, List.mem_cons, List.not_mem_nil, or_false] at h
  rcases h with rfl | rfl | rfl
  · exact ⟨.comp, rfl⟩
  · exact ⟨.captbl, rfl⟩
  · exact ⟨.pgtbl, rfl⟩

theorem entry_mem_entries (kind : ReplayKind) : caps.entry kind ∈ caps.entries := by
  cases kind <;> simp [entries]

/-- Every slot of a component is in one of the entries of its triple. -/
theorem Triples.slots (h : Triples entries groups) (hcaps : caps ∈ groups) :
    ∀ slot ∈ caps.slots, ∃ e ∈ entries, e.capid = slot := by
  intro slot hslot
  induction h with
  | nil => cases hcaps
  | @cons a b c rest head others triple whole behind ih =>
    rcases List.mem_cons.1 hcaps with rfl | hcaps
    · obtain ⟨kind, rfl⟩ := mem_slots hslot
      have hentry : caps.entry kind ∈ [a, b, c] := triple.mem_iff.2 (entry_mem_entries kind)
      exact ⟨caps.entry kind, List.mem_append_left rest hentry, rfl⟩
    · obtain ⟨e, he, heq⟩ := ih hcaps
      exact ⟨e, List.mem_append_right [a, b, c] he, heq⟩

end ComponentCaps

/-! ### Along a run -/

/-- Slots are named from the frontier on, and resources come on record from
`adds` only. -/
structure Broker.Extends (adds : ComponentId → Option Kernel.Resources → Prop)
    (b b' : Broker) : Prop where
  frontier : b.slotFrontier ≤ b'.slotFrontier
  names : ∀ slot, b'.Names slot → b.Names slot ∨ b.slotFrontier ≤ slot.toNat
  resources : ∀ i g c, b'.components.entry i = ⟨g, .active c⟩ →
    (∃ c₀, b.components.entry i = ⟨g, .active c₀⟩ ∧ c₀.resources = c.resources) ∨
      ∃ id, adds id c.resources

namespace Broker.Extends

variable {adds adds' : ComponentId → Option Kernel.Resources → Prop} {b b' b'' : Broker}

theorem refl (b : Broker) : b.Extends adds b :=
  ⟨Nat.le_refl _, fun _ => .inl, fun _ _ c hc => .inl ⟨c, hc, rfl⟩⟩

theorem trans (h : b.Extends adds b') (h' : b'.Extends adds b'') : b.Extends adds b'' where
  frontier := Nat.le_trans h.frontier h'.frontier
  names slot hslot := by
    rcases h'.names slot hslot with hold | hnew
    · exact h.names slot hold
    · exact .inr (Nat.le_trans h.frontier hnew)
  resources i g c hc := by
    rcases h'.resources i g c hc with ⟨c₁, hc₁, heq⟩ | hnew
    · rcases h.resources i g c₁ hc₁ with ⟨c₀, hc₀, heq'⟩ | hnew
      · exact .inl ⟨c₀, hc₀, heq'.trans heq⟩
      · exact .inr (heq ▸ hnew)
    · exact .inr hnew

instance : IsPreorder Broker (Broker.Extends adds) where
  refl := refl
  trans _ _ _ := trans

theorem of_objects (h : b.ObjectMove adds' b') (ha : ∀ id r, adds' id r → adds id r) :
    b.Extends adds b' where
  frontier := h.slotFrontier_le
  names slot := h.names
  resources i g c hc := by
    rcases h.components.added i g c hc with ⟨c₀, ⟨⟨_, rfl⟩, _⟩, hold⟩ | hnew
    · exact .inl ⟨c₀, hold, rfl⟩
    · exact .inr ⟨c.id, ha _ _ hnew⟩

theorem of_memory (h : b.MemoryMove b') : b.Extends adds b' where
  frontier := Nat.le_of_eq h.slotFrontier_eq.symm
  names slot hslot := .inl ((h.names slot).1 hslot)
  resources _ _ c hc := .inl ⟨c, h.components ▸ hc, rfl⟩

theorem of_move (h : b.Move b') (ha : ∀ id, adds id none) : b.Extends adds b' := by
  rcases h with hobjects | hmemory
  · refine .of_objects hobjects fun id r hr => ?_
    rw [show r = none from hr]
    exact ha id
  · exact .of_memory hmemory

end Broker.Extends

namespace Service

open Step (Answers Stays)

variable {s : Setting} {image : Image} {b : Broker}

/-- Every state of a run extends the one in which the pools were just made. -/
theorem Reached.extends (h : Reached s image b) :
    ∃ kernel made, Kernel.create? s.selfId s.layout s.faults = some kernel ∧
      Made s.settings (.create kernel) made ∧ made.Extends (Replays s.manifest) b := by
  induction h with
  | @boot kernel b created booted =>
    have hobjects : ∀ b b' : Broker, b.ObjectMove (Replays s.manifest) b' →
        b.Extends (Replays s.manifest) b' := fun _ _ hmove => .of_objects hmove fun _ _ => id
    have hspans : ∀ region, Answers (Broker.Extends (Replays s.manifest)) (setAside region) :=
      fun region => (setAside_memory memory_admits region).answers_mono fun _ _ => .of_memory
    have hcontig : Answers (Broker.Extends (Replays s.manifest))
        (initContig s.settings.selfId s.settings.contigPages.toNat) :=
      (memory_admits.initContig _ _).answers_mono fun _ _ => .of_memory
    have hboot := boot_moves (b := .create kernel) s.settings s.manifest hobjects hspans hcontig
    obtain ⟨_, made, hmade, hext⟩ := hboot.of_ok booted
    exact ⟨kernel, made, created, hmade, hext⟩
  | act action _ ih =>
    obtain ⟨kernel, made, created, hmade, hext⟩ := ih
    refine ⟨kernel, made, created, hmade, hext.trans ?_⟩
    exact .of_move (action.moves image _) fun _ => .inl rfl

/-- When the pools are made, the broker's table is empty from the layout's
first slot on. -/
theorem Made.slots {kernel : Kernel} {made : Broker}
    (hc : Kernel.create? s.selfId s.layout s.faults = some kernel)
    (h : Made s.settings (.create kernel) made) :
    made.slotFrontier = s.layout.captblBase.toNat ∧ ∀ slot, ¬ made.Names slot := by
  obtain ⟨space, hspace, rfl⟩ := Option.map_eq_some_iff.1 hc
  obtain ⟨limit, _, rfl⟩ := Option.map_eq_some_iff.1 hspace
  have hown : made.kernel.space? made.kernel.selfId = some
      { name := "capmgr", heapFrontier := s.layout.heapBase,
        captblFrontier := s.layout.captblBase, captblLimit := limit, liveCaps := ∅, pages := ∅,
        ulkMapped := false, isVm := false } := by
    rw [h.kernel]
    exact Std.ExtTreeMap.getElem?_insert_self
  refine ⟨Kernel.slotFrontier_eq hown, fun slot hslot => ?_⟩
  rcases hslot with hlive | ⟨i, g, t, ht, _⟩ | ⟨i, g, r, hr, _⟩ | ⟨i, g, a, ha, _⟩
  · unfold Kernel.holds at hlive
    rw [hown] at hlive
    simp at hlive
  · exact (h.threads i).ne ht
  · exact (h.rcvs i).ne hr
  · exact (h.asnds i).ne ha

/-- Every slot that names an object was handed out from the layout's first
slot on. -/
theorem Reached.base_le_of_names (h : Reached s image b) {slot : UInt64} (hn : b.Names slot) :
    s.layout.captblBase.toNat ≤ slot.toNat := by
  obtain ⟨kernel, made, created, hmade, hext⟩ := h.extends
  obtain ⟨hfrontier, hempty⟩ := hmade.slots created
  rcases hext.names slot hn with hold | hnew
  · exact absurd hold (hempty slot)
  · exact hfrontier ▸ hnew

/-- Every slot on record for a component is one that the manifest replays. -/
theorem Reached.replayed (h : Reached s image b) {i : Nat} {g : UInt32} {c : ComponentRecord}
    {r : Kernel.Resources} (hc : b.components.entry i = ⟨g, .active c⟩)
    (hr : c.resources = some r) : ∀ slot ∈ r.slots, ∃ e ∈ s.manifest.captbl, e.capid = slot := by
  obtain ⟨kernel, made, created, hmade, hext⟩ := h.extends
  rcases hext.resources i g c hc with
    ⟨c₀, hc₀, _⟩ | ⟨id, hnone | ⟨groups, caps, hgroups, hcaps, _, heq⟩⟩
  · exact absurd hc₀ (hmade.components i).ne
  · rw [hr] at hnone
    cases hnone
  · rw [hr] at heq
    cases heq
    exact (ComponentCaps.groups_eq_ok_iff.1 hgroups).slots hcaps

/-! ### Two sources of slots -/

/-- Where the manifest ends the broker's table below the first slot of the
layout, no slot that the kernel hands out there is one that is on record for a
component that ran already. -/
theorem new_slots_are_not_replayed (h : Reached s image b)
    (below : ∀ e ∈ s.manifest.captbl, e.capid < s.manifest.captblEnd)
    (apart : s.manifest.captblEnd ≤ s.layout.captblBase) :
    ∀ (i : Nat) (g : UInt32) (c : ComponentRecord) (r : Kernel.Resources) (slot : UInt64),
      b.components.entry i = ⟨g, .active c⟩ → c.resources = some r → b.Names slot →
        slot ∉ [r.comp.slot, r.captbl.slot, r.pgtbl.slot] := by
  intro i g c r slot hc hr hn hslot
  have hbase := h.base_le_of_names hn
  obtain ⟨e, he, rfl⟩ := h.replayed hc hr slot hslot
  have hbelow : e.capid.toNat < s.manifest.captblEnd.toNat := UInt64.lt_iff_toNat_lt.1 (below e he)
  have hapart : s.manifest.captblEnd.toNat ≤ s.layout.captblBase.toNat :=
    UInt64.le_iff_toNat_le.1 apart
  omega

/-- The ordinary machine, with the kernel's slots behind the manifest's. -/
def Setting.apart : Setting :=
  { Setting.ordinary with layout := { Kernel.Layout.standard with captblBase := 64 } }

/-- The first core's part of the start, and a thread for the client. -/
def threadForClient : List Action :=
  [.parallelInit ⟨0⟩ true, .request ⟨⟨6⟩, ⟨0⟩⟩ (.createThread ⟨5⟩ ⟨1⟩)]

/-- Whether two parts of the state show a component with resources and a
thread, in a relation. -/
def showsSlots (related : Kernel.Resources → UInt64 → Bool) (p : Image × Broker) : Bool :=
  (p.2.components.at? 5).any fun c => c.resources.any fun r =>
    (p.2.threads.at? 2).any fun t => related r t.kernel.cap.slot

theorem exists_of_showsSlots {related : Kernel.Resources → UInt64 → Bool} {p : Image × Broker}
    (h : showsSlots related p = true) :
    ∃ i g c r slot, p.2.components.entry i = ⟨g, .active c⟩ ∧ c.resources = some r ∧
      p.2.Names slot ∧ related r slot = true := by
  obtain ⟨c, hc, h⟩ := (Option.any_eq_true _ _).1 h
  obtain ⟨r, hr, h⟩ := (Option.any_eq_true _ _).1 h
  obtain ⟨t, ht, h⟩ := (Option.any_eq_true _ _).1 h
  obtain ⟨g, hg⟩ := Pool.at?_eq_some_iff.1 hc
  obtain ⟨g', hg'⟩ := Pool.at?_eq_some_iff.1 ht
  exact ⟨5, g, c, r, t.kernel.cap.slot, hg, hr, .inr (.inl ⟨2, g', t, hg', List.mem_cons_self⟩), h⟩

/-- A thread made on that machine. -/
theorem thread_of_client_is_apart :
    ∃ image b, Reached .apart image b ∧ ∃ (i : Nat) (g : UInt32) (c : ComponentRecord)
      (r : Kernel.Resources) (slot : UInt64), b.components.entry i = ⟨g, .active c⟩ ∧
        c.resources = some r ∧ b.Names slot ∧
        slot ∉ [r.comp.slot, r.captbl.slot, r.pgtbl.slot] := by
  have hrun : (Setting.apart.run threadForClient).any (showsSlots fun _ _ => true) = true := by
    decide +kernel
  obtain ⟨image, b, hreached, hshows⟩ := exists_reached hrun
  obtain ⟨i, g, c, r, slot, hc, hr, hn, _⟩ := exists_of_showsSlots hshows
  exact ⟨image, b, hreached, i, g, c, r, slot, hc, hr, hn,
    new_slots_are_not_replayed hreached (by decide) (by decide) i g c r slot hc hr hn⟩

/-- On the ordinary machine the kernel's slots begin below the manifest's, and
the client's second thread is put where the client's own capability is. -/
theorem second_thread_lands_on_client :
    ((Setting.ordinary.manifest.captbl.map ReplayEntry.capid).Nodup ∧
      ∀ e ∈ Setting.ordinary.manifest.captbl, e.capid < Setting.ordinary.manifest.captblEnd) ∧
    ∃ image b, Reached .ordinary image b ∧ ∃ (i : Nat) (g : UInt32) (c : ComponentRecord)
      (r : Kernel.Resources) (slot : UInt64), b.components.entry i = ⟨g, .active c⟩ ∧
        c.resources = some r ∧ b.Names slot ∧
        slot ∈ [r.comp.slot, r.captbl.slot, r.pgtbl.slot] := by
  have hrun : (Setting.ordinary.run threadForClient).any
      (showsSlots fun r slot => slot == r.comp.slot) = true := by decide +kernel
  obtain ⟨image, b, hreached, hshows⟩ := exists_reached hrun
  obtain ⟨i, g, c, r, slot, hc, hr, hn, heq⟩ := exists_of_showsSlots hshows
  refine ⟨⟨by decide, by decide⟩, image, b, hreached, i, g, c, r, slot, hc, hr, hn, ?_⟩
  rw [beq_iff_eq] at heq
  exact heq ▸ List.mem_cons_self

end Service

end CapabilityBroker
