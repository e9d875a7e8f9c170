/-
CapabilityBroker/Proofs/Move/Basic.lean

The two kinds of operation.

What the kernel's primitives do in two kinds, the broker's operations do too.
An operation on objects (`Broker.ObjectMove`) leaves pages, spans, the
contiguous region and every page table alone; the slots that its new records
name come from the frontier of the broker's own table on.  An operation on
memory (`Broker.MemoryMove`) leaves every other record, every capability table,
the barriers and the scheduler alone.
-/
import CapabilityBroker.Proofs.Advance.Basic
import CapabilityBroker.Proofs.Kernel.Mapping
import CapabilityBroker.Proofs.Pool.Dense

namespace CapabilityBroker

open Step (Stays StaysFrom)

/-! ### Objects that come -/

/-- Whatever object the second pool has, the first one had, or `P` allows. -/
def Pool.Gains {α : Type} (P : α → Prop) (p p' : Pool α) : Prop :=
  ∀ i g o, p'.entry i = ⟨g, .active o⟩ → p.entry i = ⟨g, .active o⟩ ∨ P o

namespace Pool.Gains

variable {α : Type} {P P' : α → Prop} {p p' p'' : Pool α}

theorem refl (p : Pool α) : Gains P p p := fun _ _ _ => .inl

theorem trans (h : Gains P p p') (h' : Gains P' p' p'') (hP : ∀ o, P' o → P o) :
    Gains P p p'' := by
  intro i g o ho
  rcases h' i g o ho with hold | hnew
  · exact h i g o hold
  · exact .inr (hP o hnew)

theorem of_moves (h : Moves Eq P p p') : Gains P p p' := by
  intro i g o ho
  rcases h.added i g o ho with ⟨_, rfl, hold⟩ | hnew
  · exact .inl hold
  · exact .inr hnew

theorem of_reserves (h : Reserves p p') : Gains P p p' :=
  of_moves (h.mono (fun _ _ => id) fun _ ho => ho.elim)

/-- Taking an object out brings none. -/
theorem release {index n : Nat} : Gains P p { p.release index with active := n } := by
  intro i g o ho
  change (p.release index).entry i = _ at ho
  rw [entry_release] at ho
  split at ho
  · cases ho
  · exact .inl ho

end Pool.Gains

/-! ### Slots of the broker's own table -/

/-- The slot of the broker's own table that names the thread. -/
def ThreadRecord.slots (t : ThreadRecord) : List UInt64 := [t.kernel.cap.slot]

/-- The slots of the broker's own table that name the endpoint, its thread and
its budget. -/
def RcvRecord.slots (r : RcvRecord) : List UInt64 :=
  [r.kernel.thread.cap.slot, r.kernel.rcv.slot, r.kernel.tcap.slot]

/-- The slot of the broker's own table that names the endpoint. -/
def AsndRecord.slots (a : AsndRecord) : List UInt64 := [a.kernel.cap.slot]

/-- The slot of the broker's own table names an object: it is live there, or
some record has it. -/
def Broker.Names (b : Broker) (slot : UInt64) : Prop :=
  b.kernel.holds b.kernel.selfId slot = true ∨
  (∃ i g t, b.threads.entry i = ⟨g, .active t⟩ ∧ slot ∈ t.slots) ∨
  (∃ i g r, b.rcvs.entry i = ⟨g, .active r⟩ ∧ slot ∈ r.slots) ∨
  ∃ i g a, b.asnds.entry i = ⟨g, .active a⟩ ∧ slot ∈ a.slots

/-- The first slot of the broker's own table that was never handed out. -/
def Broker.slotFrontier (b : Broker) : Nat := b.kernel.slotFrontier b.kernel.selfId

/-- Every component on record stands under its own id, and the kernel has
it. -/
def Broker.Homed (b : Broker) : Prop :=
  ∀ i g c, b.components.entry i = ⟨g, .active c⟩ →
    c.id.number.toNat = i ∧ ∃ s, b.kernel.space? c.id = some s

/-! ### Operations on objects -/

/-- The slots come from a frontier on. -/
abbrev FromSlot (frontier : Nat) (slots : List UInt64) : Prop :=
  ∀ slot ∈ slots, frontier ≤ slot.toNat

/-- What an operation on objects does to the state.  New records of components
are those in `adds`. -/
structure Broker.ObjectMove (adds : ComponentId → Option Kernel.Resources → Prop)
    (b b' : Broker) : Prop where
  kernel : Kernel.ObjectMove (fun d => ∃ r, adds d r) b.kernel b'.kernel
  components : b.components.Moves (ComponentRecord.Follows True) (fun c => adds c.id c.resources)
    b'.components
  threads : b.threads.Gains (fun t => FromSlot b.slotFrontier t.slots) b'.threads
  rcvs : b.rcvs.Gains (fun r => FromSlot b.slotFrontier r.slots) b'.rcvs
  asnds : b.asnds.Gains (fun a => FromSlot b.slotFrontier a.slots) b'.asnds
  pages : b'.pages = b.pages
  spans : b'.spans = b.spans
  contig : b'.contig = b.contig
  homed : b.Homed → b'.Homed

variable {adds : ComponentId → Option Kernel.Resources → Prop} {b b' b'' : Broker} {ε α : Type}

/-- Wherever a component on record had a component of the kernel, it still
has. -/
theorem Broker.Homed.withKernel {k : Kernel} {adds' : ComponentId → Prop} (h : b.Homed)
    (hk : Kernel.ObjectMove adds' b.kernel k) : Broker.Homed { b with kernel := k } := by
  intro i g c hc
  obtain ⟨hid, s, hs⟩ := h i g c hc
  obtain ⟨s', hs', _⟩ := hk.spaces _ s hs
  exact ⟨hid, s', hs'⟩

namespace Broker.ObjectMove

theorem slotFrontier_le (h : b.ObjectMove adds b') : b.slotFrontier ≤ b'.slotFrontier := by
  unfold Broker.slotFrontier
  rw [h.kernel.selfId]
  exact h.kernel.slotFrontier_le _

theorem refl (b : Broker) : b.ObjectMove adds b :=
  ⟨.refl _, .refl _, .refl _, .refl _, .refl _, rfl, rfl, rfl, id⟩

theorem trans (h : b.ObjectMove adds b') (h' : b'.ObjectMove adds b'') :
    b.ObjectMove adds b'' := by
  have hle := h.slotFrontier_le
  have hfrom : ∀ slots, FromSlot b'.slotFrontier slots → FromSlot b.slotFrontier slots :=
    fun slots hs slot hslot => Nat.le_trans hle (hs slot hslot)
  refine ⟨h.kernel.trans h'.kernel, h.components.trans ?_ h'.components,
    h.threads.trans h'.threads fun _ => hfrom _, h.rcvs.trans h'.rcvs fun _ => hfrom _,
    h.asnds.trans h'.asnds fun _ => hfrom _, h'.pages.trans h.pages, h'.spans.trans h.spans,
    h'.contig.trans h.contig, h'.homed ∘ h.homed⟩
  rintro c _ ⟨⟨_, rfl⟩, _⟩ ha
  exact ha

instance : IsPreorder Broker (Broker.ObjectMove adds) where
  refl := refl
  trans _ _ _ := trans

/-- What the broker writes down, and whom it drives, is no part of this. -/
theorem of_notes {scheduler : Scheduler} {barriers : Barriers} {trail : Trail Event}
    {journal : Trail JournalLine} :
    b.ObjectMove adds { b with scheduler, barriers, trail, journal } :=
  ⟨.refl _, .refl _, .refl _, .refl _, .refl _, rfl, rfl, rfl, id⟩

/-- The records of components change along `Follows`, and none comes. -/
theorem of_components {components : Pool ComponentRecord}
    (h : b.components.Moves (ComponentRecord.Follows True) (fun _ => False) components) :
    b.ObjectMove adds { b with components } := by
  refine ⟨.refl _, h.mono (fun _ _ => id) fun _ hc => hc.elim, .refl _, .refl _, .refl _,
    rfl, rfl, rfl, fun hh i g c hc => ?_⟩
  rcases h.added i g c hc with ⟨c₀, ⟨⟨_, rfl⟩, _⟩, hold⟩ | hnew
  · exact hh i g c₀ hold
  · exact hnew.elim

end Broker.ObjectMove

/-! ### How the parts may move -/

theorem kernelPart_objects :
    kernelPart.Allows (Broker.ObjectMove adds) (Kernel.ObjectMove fun d => ∃ r, adds d r) :=
  fun _ _ h => ⟨h, .refl _, .refl _, .refl _, .refl _, rfl, rfl, rfl,
    fun hh => Broker.Homed.withKernel hh h⟩

theorem componentPool_objects : componentPool.Allows (Broker.ObjectMove adds) Pool.Reserves :=
  fun _ _ h => .of_components h.moves

theorem threadPool_objects : threadPool.Allows (Broker.ObjectMove adds) Pool.Reserves :=
  fun _ _ h => ⟨.refl _, .refl _, .of_reserves h, .refl _, .refl _, rfl, rfl, rfl, id⟩

theorem rcvPool_objects : rcvPool.Allows (Broker.ObjectMove adds) Pool.Reserves :=
  fun _ _ h => ⟨.refl _, .refl _, .refl _, .of_reserves h, .refl _, rfl, rfl, rfl, id⟩

theorem asndPool_objects : asndPool.Allows (Broker.ObjectMove adds) Pool.Reserves :=
  fun _ _ h => ⟨.refl _, .refl _, .refl _, .refl _, .of_reserves h, rfl, rfl, rfl, id⟩

theorem askKernel_objects {s : Step Kernel Kernel.Refusal α}
    (hs : Stays (Kernel.ObjectMove fun d => ∃ r, adds d r) s) :
    Stays (Broker.ObjectMove adds) (askKernel s) := kernelPart_objects.run hs.explain

theorem objects_tacit : Tacit (Broker.ObjectMove adds) := fun _ _ _ _ _ => .of_notes

/-! ### Operations on memory -/

/-- What an operation on memory does to the state. -/
structure Broker.MemoryMove (b b' : Broker) : Prop where
  kernel : Kernel.MemoryMove b.kernel b'.kernel
  components : b'.components = b.components
  threads : b'.threads = b.threads
  rcvs : b'.rcvs = b.rcvs
  asnds : b'.asnds = b.asnds
  barriers : b'.barriers = b.barriers
  scheduler : b'.scheduler = b.scheduler
  pageCount : b'.pages.capacity = b.pages.capacity

namespace Broker.MemoryMove

theorem refl (b : Broker) : b.MemoryMove b := ⟨.refl _, rfl, rfl, rfl, rfl, rfl, rfl, rfl⟩

theorem trans (h : b.MemoryMove b') (h' : b'.MemoryMove b'') : b.MemoryMove b'' :=
  ⟨h.kernel.trans h'.kernel, h'.components.trans h.components, h'.threads.trans h.threads,
    h'.rcvs.trans h.rcvs, h'.asnds.trans h.asnds, h'.barriers.trans h.barriers,
    h'.scheduler.trans h.scheduler, h'.pageCount.trans h.pageCount⟩

instance : IsPreorder Broker Broker.MemoryMove where
  refl := refl
  trans _ _ _ := trans

/-- Spans, the region and what is written down. -/
theorem of_records {spans : Pool Span} {contig : Option ContigRegion} {trail : Trail Event}
    {journal : Trail JournalLine} : b.MemoryMove { b with spans, contig, trail, journal } :=
  ⟨.refl _, rfl, rfl, rfl, rfl, rfl, rfl, rfl⟩

theorem of_pages {pages : Pool Page} (h : pages.capacity = b.pages.capacity) :
    b.MemoryMove { b with pages } := ⟨.refl _, rfl, rfl, rfl, rfl, rfl, rfl, h⟩

theorem names (h : b.MemoryMove b') (slot : UInt64) : b'.Names slot ↔ b.Names slot := by
  unfold Broker.Names
  rw [h.threads, h.rcvs, h.asnds, h.kernel.selfId, h.kernel.holds_eq]

theorem slotFrontier_eq (h : b.MemoryMove b') : b'.slotFrontier = b.slotFrontier := by
  unfold Broker.slotFrontier
  rw [h.kernel.selfId, h.kernel.slotFrontier_eq]

theorem homed (h : b.MemoryMove b') (hh : b.Homed) : b'.Homed := by
  intro i g c hc
  rw [h.components] at hc
  obtain ⟨hid, s, hs⟩ := hh i g c hc
  obtain ⟨s', hs', _⟩ := h.kernel.spaces _ s hs
  exact ⟨hid, s', hs'⟩

end Broker.MemoryMove

/-- A slot that is named after an operation on objects was named before, or
comes from the frontier on. -/
theorem Broker.ObjectMove.names (h : b.ObjectMove adds b') {slot : UInt64} (hn : b'.Names slot) :
    b.Names slot ∨ b.slotFrontier ≤ slot.toNat := by
  rcases hn with hlive | ⟨i, g, t, ht, hslot⟩ | ⟨i, g, r, hr, hslot⟩ | ⟨i, g, a, ha, hslot⟩
  · rw [h.kernel.selfId] at hlive
    rcases h.kernel.holds hlive with hold | hnew
    · exact .inl (.inl hold)
    · exact .inr hnew
  · rcases h.threads i g t ht with hold | hnew
    · exact .inl (.inr (.inl ⟨i, g, t, hold, hslot⟩))
    · exact .inr (hnew slot hslot)
  · rcases h.rcvs i g r hr with hold | hnew
    · exact .inl (.inr (.inr (.inl ⟨i, g, r, hold, hslot⟩)))
    · exact .inr (hnew slot hslot)
  · rcases h.asnds i g a ha with hold | hnew
    · exact .inl (.inr (.inr (.inr ⟨i, g, a, hold, hslot⟩)))
    · exact .inr (hnew slot hslot)

end CapabilityBroker
