/-
CapabilityBroker/Proofs/Sound/Page.lean

Pages and device memory in sound states.

Each operation that maps is shown to get as far as the mapping under a
condition on the state that can be read off beforehand, and to abort there if
and only if the address space has no room.  While a run of page records is
kept and not yet published, the state is sound but for that run
(`Broker.Pending`); the run is published, or given up, as a whole.
-/
import CapabilityBroker.Proofs.Memory.Pages
import CapabilityBroker.Proofs.Sound.Basic

namespace CapabilityBroker

open Kernel (IsFrame SoundSince MappedAt)

variable {b b' : Broker} {p pages : Pool Page} {into : ComponentId} {first : Paddr}
  {align : UInt64} {count n : Nat} {off : Prop}

/-! ### Runs of page records -/

/-- A pool with pages for consecutive frames behind the low-water mark of
another. -/
structure Filled (p : Pool Page) (count n : Nat) (pages : Pool Page) : Prop where
  capacity : pages.capacity = p.capacity
  dense : pages.Dense
  mark : pages.lowWater = p.lowWater + count
  kept : ∀ i page, p.at? i = some page → pages.at? i = some page
  run : ∀ j < count, ∃ page, pages.at? (p.lowWater + j) = some page ∧ IsFrame (n + j) page.frame

namespace Broker

/-- Sound, but for a run of page records that is still kept. -/
structure Pending (p : Pool Page) (count : Nat) (b : Broker) : Prop where
  sound : ({ b with pages := p } : Broker).Sound
  pages : b.pages = p.reserveRun p.lowWater count

/-- The kernel has gone on, and nothing else. -/
structure Drives (b b' : Broker) : Prop where
  rest : b' = { b with kernel := b'.kernel }
  kernel : SoundSince b.kernel b'.kernel

theorem Drives.refl (h : b.kernel.Sound) : b.Drives b := ⟨rfl, .refl h⟩

theorem Drives.trans {b'' : Broker} (h : b.Drives b') (h' : b'.Drives b'') : b.Drives b'' := by
  refine ⟨?_, h.kernel.trans h'.kernel⟩
  rw [h'.rest, h.rest]

theorem Drives.sound (hd : b.Drives b') (h : b.Sound) : b'.Sound := by
  rw [hd.rest]
  exact h.withKernel hd.kernel

theorem Pending.kernel (h : b.Pending p count) : b.kernel.Sound := h.sound.kernel

theorem Pending.known {id : ComponentId} (h : b.Pending p count) (hid : b.hasComponent id = true) :
    b.kernel.hasComponent id = true := h.sound.known id hid

theorem Pending.accounted (h : b.Pending p count) :
    p.lowWater + b.contigLeft ≤ b.kernel.nextFrame + 1 := h.sound.accounted

theorem Pending.drives (h : b.Pending p count) (hd : b.Drives b') : b'.Pending p count := by
  constructor
  · rw [hd.rest]
    exact h.sound.withKernel hd.kernel
  · rw [hd.rest]
    exact h.pages

/-- A run that is published makes the state sound again, if there is a frame
for each of its pages. -/
theorem Pending.publish (h : b.Pending p count) (hf : Filled p count n pages)
    (hroom : p.lowWater + count + b.contigLeft ≤ b.kernel.nextFrame + 1) :
    ({ b with pages } : Broker).Sound :=
  h.sound.withPages hf.capacity hf.dense (hf.mark ▸ hroom) fun i page hpage =>
    ⟨page, hf.kept i page hpage, rfl⟩

end Broker

/-- A run that is given up makes the state sound again. -/
theorem holdingAll_leads {β : Type} {s : Operation β} {post : β → Broker → Prop} (hc : count ≠ 0)
    (hs : s.Leads b post fun why b' => b'.Pending p count ∧ why.Settles off) :
    (pagePool.holdingAll (p.runOf p.lowWater count) s).Leads b post (Ends off) := by
  refine Step.leads_cleanly.2 (hs.mono (fun _ _ hpost => hpost) ?_)
  rintro why b' ⟨⟨hsound, hpages⟩, hwhy⟩
  have hp : p.Dense := hsound.pages
  -- Giving up a run behind the mark moves the mark back to where it was.
  obtain ⟨hdense, hmark⟩ := hp.unreserveRun hc
  refine ⟨?_, hwhy⟩
  show ({ b' with pages := b'.pages.unreserveAll (p.runOf p.lowWater count) } : Broker).Sound
  rw [hpages]
  refine hsound.withPages ?_ hdense ?_ fun i page hpage => ⟨page, ?_, rfl⟩
  · show _ = p.capacity
    rw [Pool.capacity_unreserveAll, Pool.capacity_reserveRun]
  · rw [hmark]
    exact hsound.accounted
  · have hreserves : p.Reserves (p.reserveRun p.lowWater count) := hp.reserves_reserveRun
    have hmoves : p.Reserves ((p.reserveRun p.lowWater count).unreserveAll
        (p.runOf p.lowWater count)) :=
      hreserves.trans (fun _ _ _ => False.elim) (.unreserveAll _)
    rw [hmoves.at?_eq]
    exact hpage

/-! ### Publishing -/

/-- A pool whose run was published is filled behind its mark. -/
theorem Published.filled {r : PageRun}
    (h : Published r p.lowWater count 0 (p.reserveRun p.lowWater count) pages)
    (hp : p.Dense) (hc : count ≠ 0) (hfirst : IsFrame n r.first) : Filled p count n pages := by
  obtain ⟨hdense, hmark⟩ := h.dense hp hc
  refine ⟨?_, hdense, hmark, ?_, ?_⟩
  · rw [h.capacity, Pool.capacity_reserveRun]
  · intro k page hpage
    have hlt := hp.lt_of_at? hpage
    have hentry : pages.entry k = p.entry k := by
      rw [h.outside k (.inl hlt), Pool.entry_reserveRun, if_neg (by omega)]
    rw [Pool.at?_congr hentry]
    exact hpage
  · intro j hj
    obtain ⟨page, hpage, hthere⟩ := h.inside j hj
    rw [Nat.zero_add, PageRun.page?_eq_some_iff] at hpage
    exact ⟨page, hthere, hfirst.of_addPages hpage.2⟩

/-- Every page of the run is put on record with its frame. -/
theorem publishRun_leads {mapped : Option (ComponentId × Vaddr)} (h : b.Pending p count)
    (hc : count ≠ 0) (hfirst : IsFrame n first) (hend : n + count ≤ b.kernel.nextFrame)
    (hplace : ∀ j < count, ∃ places, placeOf? mapped j = some places) :
    (publishRun (p.runOf p.lowWater count) first mapped).Leads b
      (fun head b' => head.index = p.lowWater ∧ ∃ pages trail, b' = { b with pages, trail } ∧
        Filled p count n pages)
      (fun _ _ => False) := by
  have hframes : b.kernel.nextFrame ≤ _ := h.sound.kernel.frames
  have hpages : ∀ j < count, ∃ page,
      (⟨first, mapped, p.lowWater, count⟩ : PageRun).page? j = some page := by
    intro j hj
    obtain ⟨mappings, hmappings⟩ := hplace j hj
    obtain ⟨frame, hframe⟩ := hfirst.addPages (j := j) (by omega)
    exact ⟨⟨frame, mappings⟩, PageRun.page?_eq_some_iff.2 ⟨hmappings, hframe⟩⟩
  refine (publishRun_publishes (r := ⟨first, mapped, p.lowWater, count⟩) hc h.pages).mono ?_
    fun _ _ hstop => hstop hpages
  rintro head _ ⟨hhead, pages, trail, rfl, hpublished⟩
  rw [h.pages] at hpublished
  exact ⟨hhead, pages, trail, rfl, hpublished.filled h.sound.pages hc hfirst⟩

/-- A run with a frame for each of its pages is published, and the state is
sound again. -/
theorem publishRun_sound {mapped : Option (ComponentId × Vaddr)} (h : b.Pending p count)
    (hc : count ≠ 0) (hfirst : IsFrame n first) (hend : n + count ≤ b.kernel.nextFrame)
    (hroom : p.lowWater + count + b.contigLeft ≤ b.kernel.nextFrame + 1)
    (hplace : ∀ j < count, ∃ places, placeOf? mapped j = some places) :
    (publishRun (p.runOf p.lowWater count) first mapped).Leads b
      (fun head b' => b'.Sound ∧ b'.spans = b.spans ∧ b'.HasRun head.index count)
      (fun _ _ => False) := by
  refine (publishRun_leads h hc hfirst hend hplace).mono ?_ fun _ _ => False.elim
  rintro head _ ⟨hindex, pages, trail, rfl, hfilled⟩
  refine ⟨(h.publish hfilled hroom).of_notes, rfl, n, hend, ?_⟩
  rw [hindex]
  exact hfilled.run

/-! ### Mapping -/

/-- A run of frames is mapped and passes its check, or there is no room. -/
theorem mapVerified_sound (h : b.kernel.Sound) (hinto : b.kernel.hasComponent into = true)
    (hfirst : IsFrame n first) (hend : n + count ≤ b.kernel.nextFrame)
    (ha : pageSize ∣ align.toNat) :
    (mapVerified first count align into).Leads b
      (fun vaddr b' => b.kernel.hasRoom into align count = true ∧
        vaddr.toNat + count * pageSize < UInt64.size ∧
        b.Drives b' ∧ b'.kernel.nextFrame = b.kernel.nextFrame)
      (fun why b' => ¬ b.kernel.hasRoom into align count = true ∧ why = .abort ∧ b.Drives b') := by
  obtain ⟨s, hs⟩ := Kernel.hasComponent_iff.1 hinto
  rw [Kernel.hasRoom_eq hs]
  have halias := Kernel.aliasFrames_sound (.refl h) hs hfirst hend ha
  refine Step.leads_bind.2 (Part.run_leads (Step.leads_explain.2 (halias.mono ?_ ?_)))
  · rintro vaddr k ⟨⟨hroom, hmapped⟩, hk, hnext⟩
    -- What was mapped is found again, so the check passes.
    refine Step.leads_bind.2 (Part.run_leads (hmapped.verifies.mono ?_ fun _ _ => False.elim))
    rintro _ _ rfl
    exact Step.leads_pure.2 ⟨hroom, hmapped.below, ⟨rfl, hk⟩, hnext⟩
  · rintro why k ⟨⟨hroom, rfl⟩, hk, _⟩
    exact ⟨hroom, rfl, rfl, hk⟩

/-- Nothing is mapped into a component that is not there. -/
theorem mapVerified_missing (h : b.kernel.Sound) (hinto : ¬ b.kernel.hasComponent into = true) :
    (mapVerified first count align into).Leads b (fun _ _ => False) (fun _ b' => b' = b) := by
  have hs : b.kernel.space? into = none := by
    cases hs : b.kernel.space? into with
    | none => rfl
    | some s => exact absurd (Kernel.hasComponent_iff.2 ⟨s, hs⟩) hinto
  refine Step.leads_bind.2 (Part.run_leads (Step.leads_explain.2 ?_))
  refine (Kernel.aliasFrames_missing h hs).mono (fun _ _ => False.elim) ?_
  rintro why _ rfl
  rfl

/-- The pages of a run that was mapped have places. -/
theorem placeOf?_of_below {vaddr : Vaddr} (h : vaddr.toNat + count * pageSize < UInt64.size) :
    ∀ j < count, ∃ places, placeOf? (some (into, vaddr)) j = some places := by
  intro j hj
  have hmul : j * pageSize ≤ count * pageSize := Nat.mul_le_mul_right _ (by omega)
  obtain ⟨place, hplace⟩ := Vaddr.exists_addPages
    (Nat.lt_of_le_of_lt (Nat.add_le_add_left hmul _) h)
  refine ⟨[⟨into, place⟩], ?_⟩
  show (vaddr.addPages j).map _ = _
  rw [hplace]
  rfl

theorem mapRun_sound {component : Option ComponentId} (h : b.kernel.Sound)
    (hinto : ∀ id, component = some id → b.kernel.hasComponent id = true)
    (hfirst : IsFrame n first) (hend : n + count ≤ b.kernel.nextFrame)
    (ha : pageSize ∣ align.toNat) :
    (mapRun component first count align).Leads b
      (fun mapped b' => (∀ id, component = some id → b.kernel.hasRoom id align count = true) ∧
        (∀ j < count, ∃ places, placeOf? mapped j = some places) ∧
        b.Drives b' ∧ b'.kernel.nextFrame = b.kernel.nextFrame)
      (fun why b' => (∃ id, component = some id ∧ ¬ b.kernel.hasRoom id align count = true) ∧
        why = .abort ∧ b.Drives b') := by
  cases component with
  | none => exact Step.leads_pure.2 ⟨nofun, fun _ _ => ⟨[], rfl⟩, ⟨rfl, .refl h⟩, rfl⟩
  | some into =>
    have hmap := mapVerified_sound h (hinto into rfl) hfirst hend ha
    refine Step.leads_bind.2 (Step.leads_explain.2 (hmap.mono ?_ ?_))
    · rintro vaddr b' ⟨hroom, hbelow, hdrives, hnext⟩
      refine Step.leads_pure.2 ⟨?_, placeOf?_of_below hbelow, hdrives, hnext⟩
      rintro _ ⟨⟩
      exact hroom
    · rintro why b' ⟨hroom, rfl, hdrives⟩
      exact ⟨⟨into, rfl, hroom⟩, rfl, hdrives⟩

/-! ### Allocation -/

/-- Whether there are records and frames for `count` pages. -/
def Broker.givesPages (b : Broker) (count : Nat) : Bool :=
  count != 0 && b.pages.hasRun count && b.kernel.nextFrame + count ≤ b.kernel.layout.physFrames

theorem Broker.givesPages_iff : b.givesPages count = true ↔
    (count ≠ 0 ∧ b.pages.hasRun count = true) ∧
      b.kernel.nextFrame + count ≤ b.kernel.layout.physFrames := by
  unfold givesPages
  rw [Bool.and_eq_true, Bool.and_eq_true, bne_iff_ne, decide_eq_true_eq]

theorem reserveFrames_sound (h : b.kernel.Sound) (hc : count ≠ 0) (hsmall : count < UInt32.size) :
    (reserveFrames count).Leads b
      (fun first b' => b.kernel.nextFrame + count ≤ b.kernel.layout.physFrames ∧
        IsFrame b.kernel.nextFrame first ∧ b.Drives b' ∧
        b'.kernel.nextFrame = b.kernel.nextFrame + count ∧
        ∀ into align count, b'.kernel.hasRoom into align count =
          b.kernel.hasRoom into align count)
      (fun why b' => ¬ b.kernel.nextFrame + count ≤ b.kernel.layout.physFrames ∧
        why.Ordinary ∧ b.Drives b') := by
  rw [h.layout]
  refine Part.run_leads (Step.leads_explain.2 ((Kernel.reserveFrames_leads h hc).mono ?_ ?_))
  · rintro first _ ⟨hframes, hfirst, trail, rfl⟩
    exact ⟨hframes, hfirst, ⟨rfl, SoundSince.withFrames (.refl h) hframes⟩, rfl, fun _ _ _ => rfl⟩
  · rintro why _ ⟨hframes, hwhy, rfl⟩
    rw [hwhy hsmall]
    exact ⟨hframes, .refused rfl, rfl, .refl h⟩

/-- Records for a run of pages are kept, if there are enough. -/
theorem keepPages_leads (h : b.Sound) (hc : count ≠ 0) :
    (pagePool.ask (Pool.allocateRun count)).Leads b
      (fun run b' => run = b.pages.runOf b.pages.lowWater count ∧
        (b.pages.hasRun count = true ∧ count < UInt32.size) ∧
        b'.Pending b.pages count ∧ b = { b' with pages := b.pages })
      (fun why b' => ¬ b.pages.hasRun count = true ∧ why.Ordinary ∧ b'.Sound) := by
  refine Part.ask_leads ((h.pages.allocateRun_leads hc).mono ?_ ?_)
  · rintro _ _ ⟨hrun, rfl, rfl⟩
    have hle := Pool.hasRun_iff.1 hrun
    have hpos := h.pages.pos
    have hfit : b.pages.capacity < UInt32.size := h.pagesFit
    exact ⟨rfl, ⟨hrun, by omega⟩, ⟨h, rfl⟩, rfl⟩
  · rintro why _ ⟨hrun, ⟨name, rfl⟩, rfl⟩
    exact ⟨hrun, .refused rfl, h⟩

/-- A run of pages is there and sound afterwards.  The allocation comes to the
mapping if there are records and frames for it, and aborts there if there is
no room. -/
theorem allocatePages_leads {component : Option ComponentId} (h : b.Sound)
    (hinto : ∀ id, component = some id → b.hasComponent id = true)
    (ha : pageSize ∣ align.toNat)
    (hoff : off ↔ b.givesPages count = true ∧
      ∃ id, component = some id ∧ ¬ b.kernel.hasRoom id align count = true) :
    (allocatePages component count align).Leads b
      (fun answer b' => ¬ off ∧
        count ≠ 0 ∧ b'.Sound ∧ b'.spans = b.spans ∧ b'.HasRun answer.1.index count)
      (Ends off) := by
  rw [hoff, Broker.givesPages_iff]
  refine Step.Leads.ite (fun h0 => Step.Leads.refuse_bind ?_) fun hc => ?_
  · exact .refused h rfl fun hoff => hoff.1.1.1 h0
  -- The records are kept: from here on the state is sound but for them.
  refine Step.leads_bind.2 ((keepPages_leads h hc).mono ?_ ?_)
  · rintro _ b₁ ⟨rfl, ⟨hrun, hsmall⟩, hpending, hrest⟩
    have hkernel : b.kernel = b₁.kernel := (congrArg Broker.kernel hrest).trans rfl
    have hspans : b.spans = b₁.spans := (congrArg Broker.spans hrest).trans rfl
    have hcomponents : b.components = b₁.components := (congrArg Broker.components hrest).trans rfl
    have haccounted := hpending.accounted
    rw [hkernel, hspans]
    apply holdingAll_leads hc
    -- The frames: they are fresh, so there is one for each of the records.
    refine Step.leads_bind.2 ((reserveFrames_sound hpending.kernel hc hsmall).mono ?_ ?_)
    · rintro first b₂ ⟨hframes, hfirst, hd₂, hnext₂, hsame⟩
      have hpending₂ := hpending.drives hd₂
      have hknown : ∀ id, component = some id → b₂.kernel.hasComponent id = true := by
        intro id hid
        have hrecord := hinto id hid
        unfold Broker.hasComponent Broker.component? at hrecord
        rw [hcomponents] at hrecord
        exact hd₂.kernel.spaces id (hpending.known hrecord)
      have hend : b₁.kernel.nextFrame + count ≤ b₂.kernel.nextFrame := Nat.le_of_eq hnext₂.symm
      -- The mapping, the only place where the allocation can abort.
      refine Step.leads_bind.2 ((mapRun_sound hpending₂.kernel hknown hfirst hend ha).mono ?_ ?_)
      · rintro mapped b₃ ⟨hroom, hplace, hd₃, hnext₃⟩
        have hleft : b₃.contigLeft = b₁.contigLeft := by
          rw [hd₃.rest, hd₂.rest]
          rfl
        refine Step.leads_bind.2 ((publishRun_sound (hpending₂.drives hd₃) hc hfirst
          (by omega) (by omega) hplace).mono ?_ fun _ _ => False.elim)
        rintro head b₄ ⟨hsound, hspans₄, hrun₄⟩
        refine Step.leads_pure.2 ⟨?_, hc, hsound, ?_, hrun₄⟩
        · rintro ⟨_, id, hid, hnone⟩
          exact hnone (hsame _ _ _ ▸ hroom id hid)
        · rw [hspans₄, hd₃.rest, hd₂.rest]
      · rintro why b₃ ⟨⟨id, hid, hroom⟩, rfl, hd₃⟩
        refine ⟨hpending₂.drives hd₃, .inl ⟨rfl, ⟨⟨hc, hrun⟩, hframes⟩, id, hid, ?_⟩⟩
        rw [← hsame]
        exact hroom
    · rintro why b' ⟨hframes, hwhy, hdrives⟩
      exact ⟨hpending.drives hdrives, .inr ⟨hwhy, fun hoff => hframes hoff.1.2⟩⟩
  · rintro why b' ⟨hrun, hwhy, hsound⟩
    exact ⟨hsound, .inr ⟨hwhy, fun hoff => hrun hoff.1.1.2⟩⟩

/-! ### Addresses -/

theorem translate_calm (component : ComponentId) (vaddr : Vaddr) :
    Calm (translate component vaddr) := by
  intro b h
  refine Step.leads_bind.2 (Part.run_leads ((Kernel.translate_sound h.kernel).mono ?_
    fun _ _ => False.elim))
  rintro found _ rfl
  exact Calm.require rfl _ h

/-- Device memory is mapped if it lies within the physical address space, and
the mapping aborts if there is no room. -/
theorem mapPhysical_leads {paddr : Paddr} {size : UInt64} (h : b.Sound)
    (hinto : b.hasComponent into = true)
    (hoff : off ↔ (size ≠ 0 ∧ Kernel.deviceRangeFits paddr size = true) ∧
      ¬ b.kernel.hasRoom into 4096 (Kernel.devicePages paddr size) = true) :
    (mapPhysical into paddr size).Leads b (fun _ b' => ¬ off ∧ b'.Sound) (Ends off) := by
  obtain ⟨s, hs⟩ := Kernel.hasComponent_iff.1 (h.known into hinto)
  rw [hoff, Kernel.hasRoom_eq hs]
  refine Step.Leads.ite (fun h0 => Step.Leads.refuse_bind ?_) fun hsize => ?_
  · exact .refused h rfl fun hoff => hoff.1.1 h0
  refine Part.run_leads (Step.leads_explain.2 ?_)
  refine (Kernel.mapDevice_sound (.refl h.kernel) hs hsize).mono ?_ ?_
  · rintro vaddr k ⟨⟨hfits, hroom⟩, hk⟩
    exact ⟨fun hoff => hoff.2 hroom, h.withKernel hk⟩
  · rintro why k ⟨⟨hfits, hroom, rfl⟩ | ⟨hfits, reason, rfl⟩, hk⟩
    · exact ⟨h.withKernel hk, .inl ⟨rfl, ⟨hsize, hfits⟩, hroom⟩⟩
    · exact .refused (h.withKernel hk) rfl fun hoff => hfits hoff.1.2

end CapabilityBroker
