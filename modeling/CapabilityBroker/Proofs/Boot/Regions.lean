/-
CapabilityBroker/Proofs/Boot/Regions.lean

The memory that is set aside at the start.

Nothing is given back while the broker starts, so the pages set aside are always
the first of their pool, and their frames the first of the machine: one number says
what is left of both (`Stocked`).  A shared region takes the next run of each under
an id of its own, and the contiguous region takes frames only.  The frames of the
latter are also mapped behind the broker's heap, which has not grown before; that
they fit there is the one thing that neither the manifest nor the number of frames
decides (`HeapRoom`).
-/
import CapabilityBroker.Proofs.Boot.Manifest
import CapabilityBroker.Proofs.Kernel.History
import CapabilityBroker.Proofs.Memory.Frames
import CapabilityBroker.Proofs.Memory.Pages
import CapabilityBroker.Proofs.Move.Boot
import CapabilityBroker.Proofs.Sequence
import CapabilityBroker.Proofs.Sound.Basic

namespace CapabilityBroker.Service

variable {b b' : Broker} {k k' : Kernel} {s : Settings} {l : Kernel.Layout} {count n : Nat}
  {first : Paddr} {regions done : List SharedRegion} {region : SharedRegion}

/-! ### Frames -/

/-- The machine has no faults to come, so many of its frames were handed out, and the
broker's heap has not grown. -/
structure Drawn (s : Settings) (l : Kernel.Layout) (n : Nat) (k : Kernel) : Prop where
  layout : k.layout = l
  fits : l.physBase.toNat + l.physFrames * pageSize < UInt64.size
  quiet : k.faults.pending = []
  heap : k.frontier? s.selfId = some l.heapBase
  frames : k.nextFrame = n

/-- Operations on objects draw no frames. -/
theorem Drawn.of_objects {adds : ComponentId → Prop} (h : Drawn s l n k)
    (hmove : Kernel.ObjectMove adds k k') : Drawn s l n k' where
  layout := hmove.layout.trans h.layout
  fits := h.fits
  quiet := List.eq_nil_iff_forall_not_mem.2 fun fault hfault =>
    List.not_mem_nil (h.quiet ▸ hmove.faults fault hfault)
  heap := hmove.rests.frontiers _ _ h.heap
  frames := hmove.nextFrame.trans h.frames

/-- Frames are handed out in order, until there are none left. -/
theorem reserveFrames_draws (h : Drawn s l n k) (hc : count ≠ 0) :
    (Kernel.reserveFrames count).Needs k (n + count ≤ l.physFrames)
      (fun first k' => l.IsFrame n first ∧ Drawn s l (n + count) k') := by
  obtain ⟨rfl, hfits, hquiet, hheap, rfl⟩ := h
  refine (Kernel.reserveFrames_quiet hquiet hc hfits).mono ?_ fun _ _ => And.left
  rintro first _ ⟨hroom, hfirst, trail, rfl⟩
  exact ⟨hroom, Kernel.Layout.isFrame_of_addPages hfirst, rfl, hfits, hquiet, hheap, rfl⟩

/-- The frames of the machine have addresses. -/
theorem Drawn.exists_frame {j : Nat} (h : Drawn s l n k) (hfirst : l.IsFrame n first)
    (hroom : n + count ≤ l.physFrames) (hj : j < count) :
    ∃ frame, first.addPages j = some frame := by
  have hfits := h.fits
  have hle : (n + j) * pageSize ≤ l.physFrames * pageSize := Nat.mul_le_mul_right _ (by omega)
  refine Paddr.exists_addPages ?_
  rw [hfirst]
  rw [Nat.add_mul] at hle
  omega

/-! ### Pages -/

/-- So many pages are set aside, the first of their pool and of the frames. -/
structure Stocked (s : Settings) (l : Kernel.Layout) (n : Nat) (b : Broker) : Prop where
  machine : Drawn s l n b.kernel
  capacity : b.pages.capacity = s.maxPages.toNat
  pages : b.pages.Dense
  mark : b.pages.lowWater = 1 + n

theorem Stocked.of_objects {adds : ComponentId → Option Kernel.Resources → Prop}
    (h : Stocked s l n b) (hmove : b.ObjectMove adds b') : Stocked s l n b' where
  machine := h.machine.of_objects hmove.kernel
  capacity := hmove.pages ▸ h.capacity
  pages := hmove.pages ▸ h.pages
  mark := hmove.pages ▸ h.mark

/-- Spans and what is written down are no part of this. -/
theorem Stocked.of_records {spans : Pool Span} {trail : Trail Event} {journal : Trail JournalLine}
    (h : Stocked s l n b) : Stocked s l n { b with spans, trail, journal } :=
  ⟨h.machine, h.capacity, h.pages, h.mark⟩

/-- There are records and frames for so many pages more. -/
def Affords (s : Settings) (l : Kernel.Layout) (n count : Nat) : Prop :=
  n + count ≤ s.maxPages.toNat ∧ n + count ≤ l.physFrames

/-- A run of pages that is mapped nowhere is set aside, if there are records and frames
for it. -/
theorem allocatePages_stocks {align : UInt64} (h : Stocked s l n b) :
    (allocatePages none count align).Needs b (1 ≤ count ∧ Affords s l n count)
      (fun _ b' => Stocked s l (n + count) b' ∧ b'.spans = b.spans) := by
  have hmark := h.mark
  have hrecords : b.pages.hasRun count = true ↔ n + count ≤ s.maxPages.toNat := by
    rw [Pool.hasRun_iff, hmark, h.capacity]
    omega
  refine Step.Leads.ite (fun hnone => Step.Leads.refuse_bind fun hneeds => ?_) fun hc => ?_
  · omega
  refine Step.leads_bind.2 (Part.ask_leads ((h.pages.allocateRun_leads hc).mono ?_ ?_))
  · rintro run _ ⟨hrun, rfl, rfl⟩
    refine Step.leads_cleanly.2 (Step.leads_bind.2 (Part.run_leads (Step.leads_explain.2
      (Step.Leads.mono (reserveFrames_draws h.machine hc) ?_ ?_))))
    · rintro first k ⟨hroom, hfirst, hdrawn⟩
      refine Step.leads_bind.2 (Step.leads_pure.2 (Step.leads_bind.2
        ((publishRun_publishes (r := ⟨first, none, b.pages.lowWater, count⟩) hc rfl).mono ?_ ?_)))
      · rintro head _ ⟨_, pages, trail, rfl, hpublished⟩
        obtain ⟨hdense, hmark'⟩ := hpublished.dense h.pages hc
        rw [hmark, Nat.add_assoc] at hmark'
        refine Step.leads_pure.2 ⟨⟨by omega, hrecords.1 hrun, hroom⟩, ?_, rfl⟩
        exact ⟨hdrawn, (hpublished.capacity.trans Pool.capacity_reserveRun).trans h.capacity,
          hdense, hmark'⟩
      · intro _ _ hstop
        refine absurd (fun j hj => ?_) hstop
        obtain ⟨frame, hframe⟩ := h.machine.exists_frame hfirst hroom hj
        exact ⟨⟨frame, []⟩, PageRun.page?_eq_some_iff.2 ⟨rfl, hframe⟩⟩
    · exact fun _ _ hfull hneeds => hfull hneeds.2.2
  · rintro why _ ⟨hfull, _⟩ hneeds
    exact hfull (hrecords.2 hneeds.2.1)

/-! ### Spans -/

/-- The spans are those of the regions, under their ids; every other slot is free. -/
structure Spanned (s : Settings) (regions : List SharedRegion) (b : Broker) : Prop where
  capacity : b.spans.capacity = s.maxSpans.toNat
  free : ∀ i, (b.spans.entry i).slot = .free ↔ ∀ r ∈ regions, r.id.toNat ≠ i

theorem Spanned.of_objects {adds : ComponentId → Option Kernel.Resources → Prop}
    (h : Spanned s regions b) (hmove : b.ObjectMove adds b') : Spanned s regions b' :=
  ⟨hmove.spans ▸ h.capacity, hmove.spans ▸ h.free⟩

/-- The slot of a region is free, if none before has its id. -/
theorem Spanned.slot_free_iff (h : Spanned s regions b) :
    (b.spans.entry region.id.toNat).slot = .free ↔ region.id ∉ regions.map SharedRegion.id := by
  rw [h.free, List.mem_map, not_exists]
  refine forall_congr' fun r => ?_
  rw [not_and, Ne, UInt32.toNat_inj]

/-- A span comes under an id that had none. -/
theorem Spanned.publish {span : Span} (h : Spanned s regions b)
    (hb : b'.spans = (b.spans.reserve region.id.toNat).publish
      (b.spans.reservation region.id.toNat) span) : Spanned s (regions ++ [region]) b' where
  capacity := by
    rw [hb]
    exact h.capacity
  free i := by
    rw [hb, Pool.entry_publish]
    simp only [List.forall_mem_append, List.forall_mem_singleton]
    show (if region.id.toNat = i then _ else _ : Pool.Entry Span).slot = _ ↔ _
    split
    · next heq => exact ⟨nofun, fun hall => absurd heq hall.2⟩
    · next hne =>
      rw [Pool.entry_reserve, if_neg hne, h.free]
      exact ⟨fun hall => ⟨hall, hne⟩, And.left⟩

/-! ### Shared regions -/

/-- What it takes to set a region aside after those in `done`. -/
def Placeable (s : Settings) (l : Kernel.Layout) (done : List SharedRegion)
    (region : SharedRegion) : Prop :=
  (IsSlot region.id.toNat s.maxSpans.toNat ∧ region.id ∉ done.map SharedRegion.id) ∧
    1 ≤ region.size.toNat ∧ Affords s l (pagesOf done) region.size.toNat

theorem pagesOf_append : pagesOf (done ++ [region]) = pagesOf done + region.size.toNat := by
  unfold pagesOf
  rw [List.map_append, List.sum_append, List.map_singleton, List.sum_singleton]

/-- A region is set aside if that can be done, and nothing else stands in the way. -/
theorem setAside_spans (hpools : s.PoolsFit) (hspans : Spanned s done b)
    (hpages : Stocked s l (pagesOf done) b) :
    (setAside region).Needs b (Placeable s l done region)
      (fun _ b' => Spanned s (done ++ [region]) b' ∧
        Stocked s l (pagesOf (done ++ [region])) b') := by
  have hlimit := hpools.pages
  have hslots : region.id.toNat ≤ b.spans.capacity ↔ region.id.toNat ≤ s.maxSpans.toNat := by
    rw [hspans.capacity]
  refine Step.leads_bind.2 (Step.leads_explain.2 (Step.leads_bind.2 (Part.ask_leads
    (Pool.allocateAt_leads.mono ?_ ?_))))
  · rintro slot _ ⟨hpos, hle, hfree, rfl, rfl⟩
    have hslot : IsSlot region.id.toNat s.maxSpans.toNat :=
      ⟨Nat.pos_of_ne_zero hpos, hslots.1 hle⟩
    have hnew := hspans.slot_free_iff.1 hfree
    refine Step.leads_cleanly.2 (Step.leads_bind.2 (Step.Leads.mono
      (allocatePages_stocks hpages.of_records) ?_ fun _ _ hnot hneeds => hnot hneeds.2))
    rintro ⟨head, vaddr⟩ b₁ ⟨⟨hone, hroom⟩, hstocked, hsame⟩
    have hword : region.size.toNat < UInt32.size := by
      have hle' := hroom.1
      unfold Pool.capacityLimit at hlimit
      omega
    have hholds : b₁.spans.Holds (b.spans.reservation region.id.toNat) := by
      rw [hsame]
      show (b.spans.reserve region.id.toNat).entry region.id.toNat = _
      rw [Pool.entry_reserve, if_pos rfl]
      rfl
    refine activateSpan_leads.mono ?_ ?_
    · rintro _ _ ⟨_, nPages, trail, _, rfl⟩
      have hpublished : b₁.spans.publish (b.spans.reservation region.id.toNat)
          ⟨head.index, nPages⟩ = (b.spans.reserve region.id.toNat).publish
            (b.spans.reservation region.id.toNat) ⟨head.index, nPages⟩ := hsame ▸ rfl
      refine Step.leads_modify.2 ⟨⟨⟨hslot, hnew⟩, hone, hroom⟩, hspans.publish hpublished, ?_⟩
      rw [pagesOf_append]
      exact hstocked.of_records
    · rintro _ _ ⟨⟨_, hlost⟩ | ⟨_, hlength⟩, _⟩
      · exact absurd hholds hlost
      · exact absurd ⟨Nat.ne_of_gt hone, hword⟩ hlength
  · rintro why _ ⟨hnot, _⟩ ⟨⟨⟨hpos, hle⟩, hnew⟩, _⟩
    exact hnot ⟨Nat.ne_of_gt hpos, hslots.2 hle, hspans.slot_free_iff.2 hnew⟩

/-- All regions that a manifest asks for are set aside, if each can be after those
before it. -/
theorem setAsideAll_spans (hpools : s.PoolsFit) (hspans : Spanned s [] b)
    (hpages : Stocked s l 0 b) :
    (Step.each setAside regions).Needs b (Successively (Placeable s l) [] regions)
      (fun _ b' => b'.components = b.components ∧ Stocked s l (pagesOf regions) b') := by
  have hmemory : (Step.each setAside regions).StaysFrom Broker.MemoryMove b :=
    Step.Stays.each (fun region _ => setAside_memory memory_admits region) b
  have hall : (Step.each setAside regions).Needs b (Successively (Placeable s l) [] regions)
      (fun _ b' => Spanned s regions b' ∧ Stocked s l (pagesOf regions) b') :=
    Step.needs_each (I := fun done b' => Spanned s done b' ∧ Stocked s l (pagesOf done) b')
      (fun _ _ _ h => setAside_spans hpools h.1 h.2) ⟨hspans, hpages⟩
  refine (hall.also hmemory).mono ?_
  exact fun _ b' _ ⟨hmove, _, hstocked⟩ => ⟨hmove.components, hstocked⟩

/-- Together the regions may take what is there. -/
theorem successively_affords_iff :
    Successively (fun done region => Affords s l (pagesOf done) region.size.toNat) [] regions ↔
      Affords s l 0 (pagesOf regions) := by
  have htotal : ∀ {total}, Successively (fun done region =>
      (done.map fun r : SharedRegion => r.size.toNat).sum + region.size.toNat ≤ total) [] regions ↔
      0 + pagesOf regions ≤ total := Successively.within_iff (Nat.zero_le _)
  unfold Affords
  rw [← htotal, ← htotal]
  exact Successively.and_iff

/-- The regions can be set aside one after the other if all of them can be there
together. -/
theorem successively_placeable_iff : Successively (Placeable s l) [] regions ↔
    (∀ r ∈ regions, IsSlot r.id.toNat s.maxSpans.toNat ∧ 1 ≤ r.size.toNat) ∧
      (regions.map SharedRegion.id).Nodup ∧ Affords s l 0 (pagesOf regions) := by
  have hneeds : Placeable s l = fun done region =>
      (IsSlot region.id.toNat s.maxSpans.toNat ∧ 1 ≤ region.size.toNat) ∧
        region.id ∉ done.map SharedRegion.id ∧ Affords s l (pagesOf done) region.size.toNat := by
    funext done region
    exact propext and_and_and_comm
  rw [hneeds, Successively.and_iff, Successively.forall_iff, Successively.and_iff,
    Successively.fresh_iff, successively_affords_iff]
  constructor
  · exact fun ⟨heach, ⟨hnodup, _⟩, hroom⟩ => ⟨heach, hnodup, hroom⟩
  · exact fun ⟨heach, hnodup, hroom⟩ => ⟨heach, ⟨hnodup, fun _ _ => List.not_mem_nil⟩, hroom⟩

/-! ### The contiguous region -/

/-- Behind the broker's heap, from the next page boundary on, there is room for so
many pages. -/
def HeapRoom (l : Kernel.Layout) (count : Nat) : Prop :=
  (l.heapBase.toNat + (pageSize - 1)) / pageSize * pageSize + count * pageSize < UInt64.size

instance : Decidable (HeapRoom l count) := inferInstanceAs (Decidable (_ < _))

/-- A heap that begins on a page boundary leaves room for as many pages as fit the word
behind its base; any other leaves room for one less. -/
theorem heapRoom_of_fits {frames : Nat} (hfits : l.heapBase.toNat + frames * pageSize < UInt64.size)
    (hcount : count ≤ frames) (hbase : pageSize ∣ l.heapBase.toNat ∨ count < frames) :
    HeapRoom l count := by
  unfold HeapRoom
  unfold pageSize at *
  omega

/-- In a component whose heap has not grown there is room where the heap leaves it. -/
theorem hasRoom_iff_heapRoom {k : Kernel} {id : ComponentId}
    (h : k.frontier? id = some l.heapBase) :
    k.hasRoom id 4096 count = true ↔ HeapRoom l count := by
  obtain ⟨space, hspace, hheap⟩ := Option.map_eq_some_iff.1 h
  rw [Kernel.hasRoom_eq hspace]
  unfold HeapRoom
  rw [← hheap]
  cases halign : space.heapFrontier.alignUp 4096 with
  | none =>
    refine ⟨fun hroom => absurd hroom (Kernel.Space.not_hasRoom halign), fun hroom => ?_⟩
    rw [Vaddr.alignUp, Option.map_eq_none_iff, alignUp, word64?_eq_none_iff] at halign
    exact absurd (Nat.le_trans halign (Nat.le_add_right _ _)) (Nat.not_le.2 hroom)
  | some start =>
    have hstart := Vaddr.alignUp_eq_some_iff.1 halign
    have hnative : max (4096 : UInt64).toNat pageSize = pageSize := rfl
    rw [hnative] at hstart
    rw [Kernel.Space.hasRoom_iff halign, ← hstart]
    constructor
    · rintro ⟨frontier, hfrontier⟩
      rw [← Vaddr.addPages_eq_some_iff.1 hfrontier]
      exact frontier.word.toNat_lt
    · exact Vaddr.exists_addPages

/-- Frames that were handed out are mapped behind the heap, if they fit. -/
theorem mapVerified_fits (h : Drawn s l (n + count) b.kernel) (hfirst : l.IsFrame n first)
    (hroom : n + count ≤ l.physFrames) :
    (mapVerified first count 4096 s.selfId).Needs b (HeapRoom l count) (fun _ _ => True) := by
  obtain ⟨rfl, hfits, hquiet, hheap, hframes⟩ := h
  have hthere : b.kernel.HandedOut first count := hfirst.handedOut (Nat.le_of_eq hframes.symm)
  refine Step.leads_bind.2 (Part.run_leads (Step.leads_explain.2
    ((Kernel.aliasFrames_quiet hquiet).mono ?_ ?_)))
  · rintro vaddr k ⟨_, ⟨space, hspace, _, hmapped⟩, hfound⟩
    have hplaced : k.MappedAt s.selfId vaddr first count := hfound (Nat.dvd_refl _)
    refine Step.leads_bind.2 (Part.run_leads (hplaced.verifies.mono ?_ fun _ _ => False.elim))
    intro _ _ _
    rw [← Kernel.hasRoom_eq hspace, hasRoom_iff_heapRoom hheap] at hmapped
    exact Step.leads_pure.2 ⟨hmapped, trivial⟩
  · rintro why k ⟨_, habort, hrefused⟩ hneeds
    cases why with
    | refused reason =>
      obtain ⟨space, hspace, _⟩ := Option.map_eq_some_iff.1 hheap
      cases hspace.symm.trans ((hrefused reason rfl).2 hthere)
    | abort =>
      rcases habort rfl hthere with hword | hfull
      · have hle : b.kernel.nextFrame * pageSize ≤ b.kernel.layout.physFrames * pageSize :=
          Nat.mul_le_mul_right _ (hframes ▸ hroom)
        omega
      · exact hfull ((hasRoom_iff_heapRoom hheap).2 hneeds)

/-- So many frames are left for the contiguous region, and there is room for them. -/
def Allots (l : Kernel.Layout) (n count : Nat) : Prop :=
  n + count ≤ l.physFrames ∧ (count = 0 ∨ HeapRoom l count)

theorem contigBase_allots (h : Drawn s l n b.kernel) (hn : n ≤ l.physFrames) :
    (contigBase s.selfId count).Needs b (Allots l n count) (fun _ _ => True) := by
  refine Step.Leads.ite (fun hzero => Step.leads_pure.2 ⟨?_, trivial⟩) fun hc => ?_
  · subst hzero
    exact ⟨hn, .inl rfl⟩
  refine Step.leads_bind.2 (Part.run_leads (Step.leads_explain.2
    (Step.Leads.mono (reserveFrames_draws h hc) ?_ fun _ _ hfull hneeds => hfull hneeds.1)))
  rintro first k ⟨hroom, hfirst, hdrawn⟩
  refine (mapVerified_fits hdrawn hfirst hroom).bind (fun h => h.2.resolve_left hc) ?_
  exact fun _ _ hfit _ => Step.leads_pure.2 ⟨⟨hroom, .inr hfit⟩, trivial⟩

/-- The region is set aside, if it can be allotted. -/
theorem initContig_allots (h : Drawn s l n b.kernel) (hn : n ≤ l.physFrames) :
    (initContig s.selfId count).Needs b (Allots l n count)
      (fun _ b' => b'.components = b.components) := by
  have hmemory : (initContig s.selfId count).StaysFrom Broker.MemoryMove b :=
    memory_admits.initContig s.selfId count b
  have hall : (initContig s.selfId count).Needs b (Allots l n count) (fun _ _ => True) := by
    refine (contigBase_allots h hn).bind id fun _ _ hneeds _ => ?_
    exact Step.Leads.modify_bind (Step.leads_modify.2 ⟨hneeds, trivial⟩)
  exact (hall.also hmemory).mono fun _ _ _ ⟨hmove, _⟩ => hmove.components

end CapabilityBroker.Service
