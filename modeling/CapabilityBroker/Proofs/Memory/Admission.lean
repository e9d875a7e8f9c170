/-
CapabilityBroker/Proofs/Memory/Admission.lean

When an allocation is admitted.

An allocation draws on up to three stores: the slots of the page pool, the slots of
the span pool, and the frames, which come from the kernel or from the contiguous
region.  Where the page pool is packed and the span pool settled, each store has
enough exactly if the sum of what is taken and what is asked for is within it, and
that is all an allocation asks, as long as its addresses fit their words
(`Step.Decides`).  However it ends, the pools are left as they were found: a run
that is refused later is given up at the end of its pool, and a span's slot is given
up anywhere.  No heap has moved then; if it is answered, one has, by the mapping
that is answered (`Broker.Allocates`).
-/
import CapabilityBroker.Proofs.Ledger.Memory
import CapabilityBroker.Proofs.Move.Memory
import CapabilityBroker.Proofs.Pool.Packed

namespace CapabilityBroker

open Step (Stays StaysFrom)

variable {σ ε ε' α β : Type}

/-! ### Decisions -/

/-- A step that wants what it `needs` stopped: it was refused since that is not all
there, or it aborted since numbers do not fit their words. -/
def Stop.Lacks (needs fits : Prop) : Stop ε → Prop
  | .refused _ => ¬ needs
  | .abort => needs ∧ ¬ fits

namespace Step

/-- The step is refused exactly if not all is there that it `needs`, and is answered
otherwise, if the numbers `fit`. -/
def Decides (s : Step σ ε α) (st : σ) (needs fits : Prop) (post : α → σ → Prop)
    (left : σ → Prop) : Prop :=
  s.Leads st (fun a st' => (needs ∧ fits) ∧ post a st') fun why st' =>
    why.Lacks needs fits ∧ left st'

namespace Decides

variable {s : Step σ ε α} {st : σ} {needs needs' fits fits' : Prop} {post : α → σ → Prop}
  {left : σ → Prop}

theorem congr (h : s.Decides st needs fits post left) (hn : needs ↔ needs') (hf : fits ↔ fits') :
    s.Decides st needs' fits' post left := by
  rwa [← propext hn, ← propext hf]

theorem map {g : α → β} {post : β → σ → Prop}
    (h : s.Decides st needs fits (fun a => post (g a)) left) :
    (g <$> s).Decides st needs fits post left := Step.leads_map.2 h

/-- What follows cannot stop. -/
theorem certain_bind {f : α → Step σ ε β} {post' : β → σ → Prop}
    (h : s.Decides st needs fits post left)
    (hf : ∀ a st', post a st' → (f a).Leads st' post' fun _ _ => False) :
    (s >>= f).Decides st needs fits post' left := by
  refine Step.leads_bind.2 (h.mono ?_ fun _ _ => id)
  rintro a st' ⟨hboth, hpost⟩
  exact (hf a st' hpost).mono (fun _ _ hpost' => ⟨hboth, hpost'⟩) fun _ _ => False.elim

end Decides

end Step

/-! ### Where a mapping fits -/

/-- No more frames were handed out than can be counted, with another pool full of
them. -/
def Kernel.Countable (k : Kernel) : Prop :=
  k.nextFrame * pageSize < UInt64.size + Pool.capacityLimit * pageSize

/-- Numbers fit their words: the end of so many frames is an address, and so is the
end of a mapping at the heap frontier. -/
def Kernel.Addresses (k : Kernel) (frames : Nat) (into : ComponentId) (align : UInt64)
    (count : Nat) : Prop :=
  k.layout.physBase.toNat + frames * pageSize < UInt64.size ∧
    k.hasRoom into align count = true

namespace Kernel

variable {k : Kernel} {frames count : Nat} {into : ComponentId} {align : UInt64}

instance : Decidable (k.Addresses frames into align count) :=
  inferInstanceAs (Decidable (_ ∧ _))

theorem Overflows.not_addresses (h : k.Overflows into align count) :
    ¬ k.Addresses k.nextFrame into align count := fun hfits =>
  h.elim (Nat.not_le.2 hfits.1) fun hroom => hroom hfits.2

theorem Countable.fits (h : k.Countable) (hc : count < Pool.capacityLimit) :
    k.nextFrame + count < UInt64.size := by
  have hword : UInt64.size + 2 * (Pool.capacityLimit * pageSize) < UInt64.size * pageSize := by
    decide
  have hmul : count * pageSize ≤ Pool.capacityLimit * pageSize :=
    Nat.mul_le_mul_right _ (Nat.le_of_lt hc)
  unfold Countable at h
  refine Nat.lt_of_mul_lt_mul_right (a := pageSize) ?_
  rw [Nat.add_mul]
  omega

/-- A run that begins at an address leaves the frames countable. -/
theorem Countable.of_first {first : Paddr} {k' : Kernel} (hc : count < Pool.capacityLimit)
    (hfirst : k.layout.physBase.addPages k.nextFrame = some first)
    (hnext : k'.nextFrame = k.nextFrame + count) : k'.Countable := by
  have hlt : first.toNat < UInt64.size := first.word.toNat_lt
  have hmul : count * pageSize ≤ Pool.capacityLimit * pageSize :=
    Nat.mul_le_mul_right _ (Nat.le_of_lt hc)
  rw [Paddr.addPages_eq_some_iff] at hfirst
  unfold Countable
  rw [hnext, Nat.add_mul]
  omega

theorem Countable.of_addressed
    (h : k.layout.physBase.toNat + k.nextFrame * pageSize < UInt64.size) : k.Countable := by
  unfold Countable
  omega

theorem Countable.of_same {k' : Kernel} (h : k.Countable) (hnext : k'.nextFrame = k.nextFrame) :
    k'.Countable := by
  unfold Countable
  rw [hnext]
  exact h

end Kernel

variable {b b' : Broker} {into : ComponentId} {first : Paddr} {count : Nat} {align : UInt64}
  {needs fits : Prop} {award : Option Award}

/-! ### Mapping -/

/-- Nothing is mapped once the frames that were handed out end beyond the word. -/
theorem mapVerified_addressed :
    (mapVerified first count align into).Leads b
      (fun _ _ => b.kernel.layout.physBase.toNat + b.kernel.nextFrame * pageSize < UInt64.size)
      (fun _ _ => True) := by
  refine Step.leads_bind.2 (Part.run_leads (Step.leads_explain.2
    (Kernel.aliasFrames_addressed.mono ?_ fun _ _ _ => trivial)))
  exact fun _ _ hend => .of_forall (fun _ _ => hend) fun _ _ => trivial

/-- Where no fault is planned, what is mapped has room as well. -/
theorem mapVerified_addresses (hq : b.Quiet) :
    (mapVerified first count align into).Leads b
      (fun _ _ => b.kernel.Addresses b.kernel.nextFrame into align count) (fun _ _ => True) := by
  have hroom : (mapVerified first count align into).Leads b
      (fun _ _ => b.kernel.hasRoom into align count = true) (fun _ _ => True) := by
    refine Step.leads_bind.2 (Part.run_leads (Step.leads_explain.2
      ((Kernel.aliasFrames_quiet hq).mono ?_ fun _ _ _ => trivial)))
    rintro vaddr k ⟨_, ⟨s, hs, _, hroom⟩, _⟩
    exact .of_forall (fun _ _ => (Kernel.hasRoom_eq hs).trans hroom) fun _ _ => trivial
  exact (mapVerified_addressed.and hroom).mono (fun _ _ => id) fun _ _ _ => trivial

/-- A run that was handed out is mapped exactly if its addresses fit, and nothing but
the kernel goes on. -/
theorem mapVerified_decides (hq : b.Quiet) (hinto : ∃ s, b.kernel.space? into = some s)
    (hrun : b.kernel.HandedOut first count) (ha : pageSize ∣ align.toNat) :
    (mapVerified first count align into).Leads b
      (fun vaddr b' => b.kernel.Addresses b.kernel.nextFrame into align count ∧
        b.kernel.GrowsBy ⟨into, .frames count align, vaddr⟩ b'.kernel ∧
        ∃ k, k.nextFrame = b.kernel.nextFrame ∧ b' = { b with kernel := k } ∧
          ∀ j < count, k.FindsPage into vaddr first j)
      (fun why b' => (why = .abort ∧ ¬ b.kernel.Addresses b.kernel.nextFrame into align count) ∧
        b.kernel.SameHeaps b'.kernel ∧
        ∃ k, k.nextFrame = b.kernel.nextFrame ∧ b' = { b with kernel := k }) := by
  refine ((mapVerified_addresses hq).and ((mapVerified_maps ha).and mapVerified_finds)).mono
    (fun _ _ h => ⟨h.1, h.2.1.grows, h.2.2⟩) ?_
  rintro why b' ⟨_, hstrays, hsame⟩
  refine ⟨?_, hstrays.heaps hq, hsame⟩
  cases why with
  | abort => exact ⟨rfl, (hstrays.overflows hq rfl hrun).not_addresses⟩
  | refused reason =>
    obtain ⟨s, hs⟩ := hinto
    cases hs.symm.trans ((hstrays.refused hq reason rfl).2 hrun)

/-! ### Frames -/

/-- Frames were handed out, and nothing else happened. -/
structure Broker.Drew (count : Nat) (b b' : Broker) : Prop where
  rest : b' = { b with kernel := b'.kernel }
  layout : b'.kernel.layout = b.kernel.layout
  frames : b'.kernel.nextFrame = b.kernel.nextFrame + count
  spaces : ∀ id, b'.kernel.space? id = b.kernel.space? id
  quiet : b.Quiet → b'.Quiet

theorem Broker.Drew.addresses (h : b.Drew count b') :
    b'.kernel.Addresses b'.kernel.nextFrame into align count ↔
      b.kernel.Addresses (b.kernel.nextFrame + count) into align count := by
  unfold Kernel.Addresses Kernel.hasRoom
  rw [h.layout, h.frames, h.spaces]

/-- Frames are handed out as long as there are enough; if their count is a word, only
their addresses are in the way. -/
theorem reserveFrames_decides (hq : b.Quiet) (hc : count ≠ 0)
    (hword : b.kernel.nextFrame + count < UInt64.size) :
    (reserveFrames count).Leads b
      (fun first b' => b.kernel.nextFrame + count ≤ b.kernel.layout.physFrames ∧
        b.kernel.layout.physBase.addPages b.kernel.nextFrame = some first ∧ b.Drew count b')
      (fun why b' => why.Lacks (b.kernel.nextFrame + count ≤ b.kernel.layout.physFrames)
          (b.kernel.layout.physBase.toNat + b.kernel.nextFrame * pageSize < UInt64.size) ∧
        b' = b) := by
  refine Part.run_leads (Step.leads_explain.2 ((Kernel.reserveFrames_ends hq hc).mono ?_ ?_))
  · rintro first _ ⟨hroom, hfirst, trail, rfl⟩
    exact ⟨hroom, hfirst, rfl, rfl, rfl, fun _ => rfl, id⟩
  · rintro why _ ⟨⟨hfull, rfl⟩ | ⟨rfl, hbeyond | ⟨hroom, hbeyond⟩⟩, rfl⟩
    · exact ⟨hfull, rfl⟩
    · exact absurd hbeyond (Nat.not_le.2 hword)
    · exact ⟨⟨hroom, Nat.not_lt.2 hbeyond⟩, rfl⟩

/-! ### Stacks of pages -/

namespace Broker

/-- The page records lie one on the other, all with numbers that fit, and so do the
frames. -/
structure Stacked (b : Broker) : Prop where
  packed : b.pages.Packed
  small : b.pages.capacity < Pool.capacityLimit
  countable : b.kernel.Countable

/-- The pages are stacked as before or higher, and the spans are left alone. -/
structure Restacks (b b' : Broker) : Prop where
  stacked : b'.Stacked
  capacity : b'.pages.capacity = b.pages.capacity
  spans : b'.spans = b.spans

/-- The heaps have moved by a mapping, or by none. -/
structure Allocates (award : Option Award) (b b' : Broker) : Prop extends b.Restacks b' where
  heaps : b.kernel.Awards award b'.kernel

/-- Records for a run on top are kept, and the spans are left alone. -/
structure Earmarks (count : Nat) (award : Option Award) (b b' : Broker) : Prop where
  pages : b'.pages = b.pages.reserveRun b.pages.lowWater count
  countable : b'.kernel.Countable
  spans : b'.spans = b.spans
  heaps : b.kernel.Awards award b'.kernel

theorem Stacked.refl (h : b.Stacked) : b.Allocates none b :=
  ⟨⟨h, rfl, rfl⟩, refl_of Kernel.SameHeaps b.kernel⟩

/-- A run that is given up leaves the stack as it was. -/
theorem Earmarks.giveUp (h : b.Earmarks count award b') (hb : b.Stacked) (hc : count ≠ 0) :
    b.Allocates award { b' with
      pages := b'.pages.unreserveAll (b.pages.runOf b.pages.lowWater count) } := by
  have hcapacity : (b'.pages.unreserveAll (b.pages.runOf b.pages.lowWater count)).capacity =
      b.pages.capacity := by
    rw [Pool.capacity_unreserveAll, h.pages, Pool.capacity_reserveRun]
  refine ⟨⟨⟨?_, hcapacity ▸ hb.small, h.countable⟩, hcapacity, h.spans⟩, h.heaps⟩
  show (b'.pages.unreserveAll _).Packed
  rw [h.pages]
  exact hb.packed.giveUp hc

end Broker

/-- A run that is published lies on top of the stack. -/
theorem Published.packed {r : PageRun} {p pages : Pool Page} (hp : p.Packed) (hc : count ≠ 0)
    (h : Published r p.lowWater count 0 (p.reserveRun p.lowWater count) pages)
    (hactive : pages.active = p.active + count) (hfits : p.active + count ≤ p.capacity) :
    pages.Packed ∧ pages.capacity = p.capacity := by
  have hcapacity : pages.capacity = p.capacity := h.capacity.trans Pool.capacity_reserveRun
  obtain ⟨hdense, hmark⟩ := h.dense hp.dense hc
  have hout : ∀ i, i < p.lowWater → pages.entry i = p.entry i := fun i hi => by
    rw [h.outside i (.inl hi), Pool.entry_reserveRun, if_neg (by omega)]
  refine ⟨⟨?_, ?_, ?_, fun i hpos hle => ?_, fun i hi => ?_⟩, hcapacity⟩
  · rw [hmark, hactive, hp.mark]
    omega
  · rw [hactive, hcapacity]
    exact hfits
  · exact hp.fromOne.of_entry (Nat.ne_of_gt hdense.pos) (hout 0 hp.dense.pos)
  · by_cases hbelow : i < p.lowWater
    · rw [Pool.at?_congr (hout i hbelow)]
      exact hp.there i hpos (by rw [hp.mark] at hbelow; omega)
    · obtain ⟨page, _, hpage⟩ := h.inside (i - p.lowWater) (by rw [hp.mark] at hbelow ⊢; omega)
      rw [Nat.add_sub_of_le (Nat.le_of_not_lt hbelow)] at hpage
      exact Option.isSome_iff_exists.2 ⟨page, hpage⟩
  · exact hdense.free i (by rw [hmark, hp.mark]; omega)

namespace Broker.Earmarks

/-- The run is mapped exactly if its addresses fit, and then each of its pages has
one. -/
theorem maps (h : b.Earmarks count none b') (hq : b'.Quiet)
    (hinto : ∃ s, b'.kernel.space? into = some s) (hrun : b'.kernel.HandedOut first count)
    (ha : pageSize ∣ align.toNat) :
    (mapVerified first count align into).Leads b'
      (fun vaddr b'' => b'.kernel.Addresses b'.kernel.nextFrame into align count ∧
        b.Earmarks count (some ⟨into, .frames count align, vaddr⟩) b'' ∧ ∀ j < count, ∃ page,
          (⟨first, some (into, vaddr), b.pages.lowWater, count⟩ : PageRun).page? j = some page)
      (fun why b'' => (why = .abort ∧
          ¬ b'.kernel.Addresses b'.kernel.nextFrame into align count) ∧
        b.Earmarks count none b'') := by
  refine (mapVerified_decides hq hinto hrun ha).mono ?_ ?_
  · rintro vaddr _ ⟨haddresses, hgrows, k, hk, rfl, hfound⟩
    exact ⟨haddresses, ⟨h.pages, h.countable.of_same hk, h.spans, .of_same hgrows h.heaps⟩,
      exists_page? (b := { b' with kernel := k }) _ hfound⟩
  · rintro why _ ⟨hnone, hheaps, k, hk, rfl⟩
    exact ⟨hnone, h.pages, h.countable.of_same hk, h.spans, h.heaps.same hheaps⟩

/-- The run is published, if each of its pages has an address. -/
theorem publishes {mapped : Option (ComponentId × Vaddr)} (h : b.Earmarks count award b')
    (hb : b.Stacked) (hc : count ≠ 0) (hfits : b.pages.active + count ≤ b.pages.capacity) :
    (publishRun (b.pages.runOf b.pages.lowWater count) first mapped).Leads b'
      (fun _ => b.Allocates award) (fun _ _ => ¬ ∀ j < count, ∃ page,
        (⟨first, mapped, b.pages.lowWater, count⟩ : PageRun).page? j = some page) := by
  have hpublish := publishRun_publishes (r := ⟨first, mapped, b.pages.lowWater, count⟩) hc h.pages
  have hposts := publishRun_posts (r := ⟨first, mapped, b.pages.lowWater, count⟩) hc h.pages
  refine (hpublish.and hposts).mono ?_ fun _ _ => And.left
  rintro head _ ⟨⟨_, pages, trail, rfl, hpublished⟩, pages', _, hbrings, heq⟩
  obtain rfl : pages = pages' := congrArg Broker.pages heq
  have hactive : pages.active = b.pages.active + count := by
    rw [hbrings.active, h.pages]
    exact congrArg (· + count) (Pool.active_reserveAll _)
  rw [h.pages] at hpublished
  obtain ⟨hpacked, hcapacity⟩ := hpublished.packed hb.packed hc hactive hfits
  exact ⟨⟨⟨hpacked, hcapacity ▸ hb.small, h.countable⟩, hcapacity, h.spans⟩, h.heaps⟩

end Broker.Earmarks

/-- What an allocation does first: it keeps records for its pages, if there are so
many. -/
theorem onRun_decides {award : α → Award} {rest : List (Reservation Page) → Operation α}
    (hb : b.Stacked)
    (hrest : ∀ b₁, count ≠ 0 → b.pages.active + count ≤ b.pages.capacity →
      b.Earmarks count none b₁ → b₁.kernel = b.kernel ∧ b₁.contig = b.contig →
      (rest (b.pages.runOf b.pages.lowWater count)).Leads b₁
        (fun a b' => (needs ∧ fits) ∧ b.Allocates (some (award a)) b')
        (fun why b' => why.Lacks needs fits ∧ b.Earmarks count none b')) :
    Step.Decides (do
        if count = 0 then Step.refuse noPages
        let run ← pagePool.ask (Pool.allocateRun count)
        pagePool.holdingAll run (rest run)) b
      ((1 ≤ count ∧ b.pages.active + count ≤ b.pages.capacity) ∧ needs) fits
      (fun a => b.Allocates (some (award a))) (b.Allocates none) := by
  refine Step.Leads.ite (fun h0 => Step.Leads.refuse_bind ?_) fun hc => ?_
  · exact ⟨fun hneeds => absurd h0 (Nat.ne_of_gt hneeds.1.1), hb.refl⟩
  rw [← hb.packed.hasRun_iff]
  refine Step.leads_bind.2 (Part.ask_leads ((hb.packed.dense.allocateRun_leads hc).mono ?_ ?_))
  · rintro _ _ ⟨hrun, rfl, rfl⟩
    have hroom := hb.packed.hasRun_iff.1 hrun
    have hrun' := hrest (pagePool.put _ b) hc hroom ⟨rfl, hb.countable, rfl, hb.refl.heaps⟩
      ⟨rfl, rfl⟩
    refine Step.leads_cleanly.2 (hrun'.mono ?_ ?_)
    · rintro a b' ⟨⟨hneeds, hfits⟩, hdone⟩
      exact ⟨⟨⟨⟨Nat.one_le_iff_ne_zero.2 hc, hrun⟩, hneeds⟩, hfits⟩, hdone⟩
    · rintro why b' ⟨hlacks, hearmarks⟩
      refine ⟨?_, hearmarks.giveUp hb hc⟩
      cases why with
      | refused reason => exact fun hneeds => hlacks hneeds.2
      | abort => exact ⟨⟨⟨Nat.one_le_iff_ne_zero.2 hc, hrun⟩, hlacks.1⟩, hlacks.2⟩
  · rintro why _ ⟨hfull, ⟨reason, rfl⟩, rfl⟩
    exact ⟨fun hneeds => hfull hneeds.1.2, hb.refl⟩

/-! ### Allocation -/

/-- A run of pages is allocated in a component as long as there are records and
frames for it, and addresses. -/
theorem allocatePages_decides (hb : b.Stacked) (hq : b.Quiet)
    (hinto : ∃ s, b.kernel.space? into = some s) (ha : pageSize ∣ align.toNat) :
    (allocatePages (some into) count align).Decides b
      ((1 ≤ count ∧ b.pages.active + count ≤ b.pages.capacity) ∧
        b.kernel.nextFrame + count ≤ b.kernel.layout.physFrames)
      (b.kernel.Addresses (b.kernel.nextFrame + count) into align count)
      (fun answer => b.Allocates (some ⟨into, .frames count align, answer.2⟩))
      (b.Allocates none) := by
  refine onRun_decides hb fun b₁ hc hfits hearmarks hsame => ?_
  obtain ⟨hkernel, _⟩ := hsame
  have hsmall : count < Pool.capacityLimit :=
    Nat.lt_of_le_of_lt (Nat.le_trans (Nat.le_add_left _ _) hfits) hb.small
  have hq₁ : b₁.Quiet := by
    unfold Broker.Quiet
    rwa [hkernel]
  rw [← hkernel] at hinto ⊢
  have hword : b₁.kernel.nextFrame + count < UInt64.size := hearmarks.countable.fits hsmall
  refine Step.leads_bind.2 ((reserveFrames_decides hq₁ hc hword).mono ?_ ?_)
  swap
  -- If the first frame has no address, the last has none.
  · rintro why _ ⟨hlacks, rfl⟩
    refine ⟨?_, hearmarks⟩
    cases why with
    | refused reason => exact hlacks
    | abort =>
      refine ⟨hlacks.1, fun hends => hlacks.2 (Nat.lt_of_le_of_lt ?_ hends.1)⟩
      exact Nat.add_le_add_left (Nat.mul_le_mul_right _ (Nat.le_add_right _ _)) _
  rintro first b₂ ⟨hframes, hfirst, hdrew⟩
  -- The frames are handed out, so that only addresses are in the way of the mapping.
  have hearmarks₂ : b.Earmarks count none b₂ := by
    refine ⟨?_, .of_first hsmall hfirst hdrew.frames, ?_, hearmarks.heaps.same ?_⟩
    · exact (congrArg Broker.pages hdrew.rest).trans hearmarks.pages
    · exact (congrArg Broker.spans hdrew.rest).trans hearmarks.spans
    · exact Kernel.sameHeaps_of_spaces hdrew.layout hdrew.spaces
  have hrun : b₂.kernel.HandedOut first count := by
    refine Kernel.Layout.IsFrame.handedOut (n := b₁.kernel.nextFrame) ?_ (Nat.le_of_eq ?_)
    · rw [hdrew.layout]
      exact Kernel.Layout.isFrame_of_addPages hfirst
    · exact hdrew.frames.symm
  have hmap := hearmarks₂.maps (hdrew.quiet hq₁) (hdrew.spaces into ▸ hinto) hrun ha
  rw [hdrew.addresses] at hmap
  refine Step.leads_bind.2 (Step.leads_bind.2 (Step.leads_explain.2 (hmap.mono ?_ ?_)))
  · rintro vaddr b₃ ⟨haddresses, hearmarks₃, hpages⟩
    refine Step.leads_pure.2 (Step.leads_bind.2 ((hearmarks₃.publishes hb hc hfits).mono ?_
      fun _ _ hstop => absurd hpages hstop))
    exact fun _ _ hdone => Step.leads_pure.2 ⟨⟨hframes, haddresses⟩, hdone⟩
  · rintro why b₃ ⟨⟨rfl, hnone⟩, hearmarks₃⟩
    exact ⟨⟨hframes, hnone⟩, hearmarks₃⟩

/-- Nothing but the region is different. -/
structure Broker.Carves (b b' : Broker) : Prop where
  kernel : b'.kernel = b.kernel
  pages : b'.pages = b.pages
  spans : b'.spans = b.spans

/-- The region advances as long as pages are left in it. -/
theorem advanceContig_decides (hbounded : b.Bounded) (hc : count ≠ 0) :
    (advanceContig count).Leads b
      (fun carved b' => b.contigUsed + count ≤ b.contigCapacity ∧
        b.kernel.HandedOut carved.1 count ∧ b.Carves b')
      (fun why b' => why.Lacks (b.contigUsed + count ≤ b.contigCapacity)
          (b.kernel.layout.physBase.toNat + b.kernel.nextFrame * pageSize < UInt64.size) ∧
        b.Carves b') := by
  refine (advanceContig_gives hc).mono ?_ ?_
  · rintro ⟨first, _⟩ _ ⟨region, ⟨hregion, hroom, rfl⟩, hfirst, _⟩
    obtain ⟨m, hbase, hend⟩ := (hbounded.region region hregion).2 (by omega)
    rw [Broker.contigUsed_eq hregion, Broker.contigCapacity_eq hregion]
    exact ⟨hroom, (hbase.behind hfirst).handedOut (Nat.le_trans (by omega) hend), rfl, rfl, rfl⟩
  · rintro why b' (⟨rfl, hfull, rfl⟩ | ⟨rfl, region, ⟨hregion, hroom, rfl⟩, hnone⟩)
    · exact ⟨Nat.not_le.2 hfull, rfl, rfl, rfl⟩
    · obtain ⟨m, hbase, hend⟩ := (hbounded.region region hregion).2 (by omega)
      rw [Broker.contigUsed_eq hregion, Broker.contigCapacity_eq hregion]
      refine ⟨⟨hroom, fun hends => ?_⟩, rfl, rfl, rfl⟩
      have hbeyond := Kernel.size_le_of_addPages hnone
      have hmul : (m + region.used) * pageSize ≤ b.kernel.nextFrame * pageSize :=
        Nat.mul_le_mul_right _ (by omega)
      rw [hbase, Nat.add_assoc, ← Nat.add_mul] at hbeyond
      omega

/-- Pages are carved off the region as long as there are records for them and pages in
it, and addresses. -/
theorem carveContig_decides (hb : b.Stacked) (hq : b.Quiet) (hbounded : b.Bounded)
    (hinto : ∃ s, b.kernel.space? into = some s) (ha : pageSize ∣ align.toNat) :
    (carveContig into count align).Decides b
      ((1 ≤ count ∧ b.pages.active + count ≤ b.pages.capacity) ∧
        b.contigUsed + count ≤ b.contigCapacity)
      (b.kernel.Addresses b.kernel.nextFrame into align count)
      (fun answer => b.Allocates (some ⟨into, .frames count align, answer.2⟩))
      (b.Allocates none) := by
  refine onRun_decides hb fun b₁ hc hfits hearmarks hsame => ?_
  obtain ⟨hkernel, hcontig⟩ := hsame
  have hbounded₁ : b₁.Bounded :=
    (Broker.Spends.of_same hbounded (by rw [hkernel]) (by rw [hkernel]) hcontig).bounded
  have hused : b₁.contigUsed = b.contigUsed := by
    unfold Broker.contigUsed
    rw [hcontig]
  have hcapacity : b₁.contigCapacity = b.contigCapacity := by
    unfold Broker.contigCapacity
    rw [hcontig]
  rw [← hkernel] at hinto ⊢
  rw [← hused, ← hcapacity]
  have hkept : ∀ {b₂}, b₁.Carves b₂ → b.Earmarks count none b₂ := fun h =>
    ⟨h.pages.trans hearmarks.pages, h.kernel ▸ hearmarks.countable,
      h.spans.trans hearmarks.spans, h.kernel ▸ hearmarks.heaps⟩
  refine Step.leads_bind.2 ((advanceContig_decides hbounded₁ hc).mono ?_ ?_)
  swap
  · rintro why b₂ ⟨hlacks, hcarves⟩
    refine ⟨?_, hkept hcarves⟩
    cases why with
    | refused reason => exact hlacks
    | abort => exact ⟨hlacks.1, fun hends => hlacks.2 hends.1⟩
  rintro ⟨first, offset⟩ b₂ ⟨hroom, hrun, hcarves⟩
  have hq₂ : b₂.Quiet := by
    unfold Broker.Quiet
    rwa [hcarves.kernel, hkernel]
  rw [← hcarves.kernel] at hinto hrun ⊢
  refine Step.leads_bind.2 (Step.leads_explain.2
    (((hkept hcarves).maps hq₂ hinto hrun ha).mono ?_ ?_))
  · rintro vaddr b₃ ⟨haddresses, hearmarks₃, hpages⟩
    refine Step.leads_bind.2 ((hearmarks₃.publishes hb hc hfits).mono ?_
      fun _ _ hstop => absurd hpages hstop)
    rintro head b₄ ⟨⟨⟨hpacked, hsmall, hcountable⟩, hcapacity, hspans⟩, hheaps⟩
    refine Step.Leads.modify_bind (Step.Leads.modify_bind (Step.leads_pure.2 ?_))
    exact ⟨⟨hroom, haddresses⟩, ⟨⟨hpacked, hsmall, hcountable⟩, hcapacity, hspans⟩, hheaps⟩
  · rintro why b₃ ⟨⟨rfl, hnone⟩, hearmarks₃⟩
    exact ⟨⟨hroom, hnone⟩, hearmarks₃⟩

/-! ### Spans -/

/-- The pages are stacked, the spans are settled, and both pools are as large as the
settings say. -/
structure Broker.Tight (settings : Settings) (b : Broker) : Prop extends b.Stacked where
  pageCount : b.pages.capacity = settings.maxPages.toNat
  spans : b.spans.Settled
  spanCount : b.spans.capacity = settings.maxSpans.toNat
  spansFit : settings.maxSpans.toNat < Pool.capacityLimit

variable {settings : Settings}

namespace Broker.Tight

theorem restacks (h : b.Tight settings) (hr : b.Restacks b') : b'.Tight settings where
  toStacked := hr.stacked
  pageCount := hr.capacity.trans h.pageCount
  spans := hr.spans ▸ h.spans
  spanCount := hr.spans ▸ h.spanCount
  spansFit := h.spansFit

/-- What the pools and the count of frames do not tell apart. -/
theorem of_same (h : b.Tight settings) (hpages : b'.pages = b.pages) (hspans : b'.spans = b.spans)
    (hframes : b'.kernel.nextFrame = b.kernel.nextFrame) : b'.Tight settings :=
  h.restacks ⟨⟨hpages ▸ h.packed, hpages ▸ h.small, h.countable.of_same hframes⟩,
    congrArg Pool.capacity hpages, hspans⟩

/-- The pages are stacked higher, and the spans are settled again. -/
theorem settle {spans spans' : Pool Span} (trail : Trail Event) (h : b.Tight settings)
    (hr : (spanPool.put spans b).Restacks b') (hsettled : spans'.Settled)
    (hcapacity : spans'.capacity = b.spans.capacity) :
    Broker.Tight settings { b' with spans := spans', trail } where
  packed := hr.stacked.packed
  small := hr.stacked.small
  countable := hr.stacked.countable
  pageCount := hr.capacity.trans h.pageCount
  spans := hsettled
  spanCount := hcapacity.trans h.spanCount
  spansFit := h.spansFit

end Broker.Tight

/-- The pools are in order, and the heaps have moved by a mapping, or by none. -/
structure Broker.Delivers (settings : Settings) (award : Option Award) (b b' : Broker) : Prop
    extends b'.Tight settings where
  heaps : b.kernel.Awards award b'.kernel

theorem Broker.Tight.delivers (h : b.Tight settings) : b.Delivers settings none b :=
  ⟨h, h.refl.heaps⟩

theorem Broker.Allocates.delivers (h : b.Allocates award b') (hb : b.Tight settings) :
    b.Delivers settings award b' := ⟨hb.restacks h.toRestacks, h.heaps⟩

/-- A run of pages becomes a span, if there is an id for it as well: what refuses the
pages takes no id. -/
theorem spanOf_decides {carve : Operation (Handle Page × Vaddr)} {award : Vaddr → Award}
    (h : b.Tight settings) (hlength : needs → SpanLength count)
    (hcarve : ∀ spans, (spanPool.put spans b).Stacked →
      carve.Decides (spanPool.put spans b) needs fits
        (fun answer => (spanPool.put spans b).Allocates (some (award answer.2)))
        ((spanPool.put spans b).Allocates none)) :
    Step.Decides (spanPool.ask Pool.allocate >>= fun slot => spanPool.holding slot
      (carve >>= fun answer => activateSpan slot answer.1 count >>= fun span =>
        pure (span, answer.2))) b
      (needs ∧ b.spans.active < b.spans.capacity) fits
      (fun answer b' => answer.1 < Pool.capacityLimit ∧
        b.Delivers settings (some (award answer.2)) b')
      (b.Delivers settings none) := by
  refine Step.leads_bind.2 (Part.ask_leads (h.spans.allocate_keeps.mono ?_ ?_))
  swap
  · rintro why _ ⟨hfull, ⟨reason, rfl⟩, rfl⟩
    exact ⟨fun hneeds => hfull hneeds.2, h.delivers⟩
  rintro slot spans ⟨hfree, hpending, -, hcapacity⟩
  have hstacked : (spanPool.put spans b).Stacked := ⟨h.packed, h.small, h.countable⟩
  have hid : slot.index < Pool.capacityLimit :=
    Nat.lt_of_le_of_lt hpending.index_le (hcapacity.trans h.spanCount ▸ h.spansFit)
  -- The slot that is kept is published or given up, and either settles the spans.
  refine Step.leads_cleanly.2 (Step.leads_bind.2 ((hcarve spans hstacked).mono ?_ ?_))
  · rintro answer b₁ ⟨⟨hneeds, hfits⟩, hr, hheaps⟩
    have hspans : b₁.spans = spans := hr.spans
    refine Step.leads_bind.2 (activateSpan_leads.mono ?_ ?_)
    · rintro _ _ ⟨⟨rfl, _⟩, nPages, trail, _, rfl⟩
      refine Step.leads_pure.2 ⟨⟨⟨hneeds, hfree⟩, hfits⟩, hid, h.settle _ hr ?_ ?_, hheaps⟩
      · exact hspans ▸ hpending.publish
      · rw [← hcapacity, ← hspans]
        rfl
    · rintro why _ ⟨⟨_, hlost⟩ | ⟨_, hshort⟩, rfl⟩
      · exact absurd (hspans ▸ hpending.holds) hlost
      · exact absurd (hlength hneeds) hshort
  · rintro why b₁ ⟨hlacks, hr, hheaps⟩
    have hspans : b₁.spans = spans := hr.spans
    refine ⟨?_, h.settle b₁.trail hr ?_ ?_, hheaps⟩
    · cases why with
      | refused reason => exact fun hneeds => hlacks hneeds.1
      | abort => exact ⟨⟨hlacks.1, hfree⟩, hlacks.2⟩
    · show (b₁.spans.unreserve slot).Settled
      exact hspans ▸ hpending.giveUp
    · rw [← hcapacity, ← hspans]
      exact Pool.capacity_unreserve slot

/-- As many pages as there are records for can be a span. -/
theorem Broker.Stacked.spanLength {needs : Prop} (h : b.Stacked)
    (hneeds : (1 ≤ count ∧ b.pages.active + count ≤ b.pages.capacity) ∧ needs) :
    SpanLength count :=
  ⟨Nat.ne_of_gt hneeds.1.1, Nat.lt_of_le_of_lt
    (Nat.le_trans (Nat.le_add_left _ _) hneeds.1.2) h.small⟩

theorem allocateShared_decides (h : b.Tight settings) (hq : b.Quiet)
    (hinto : ∃ s, b.kernel.space? into = some s) (ha : pageSize ∣ align.toNat) :
    (allocateShared into count align).Decides b
      (((1 ≤ count ∧ b.pages.active + count ≤ b.pages.capacity) ∧
        b.kernel.nextFrame + count ≤ b.kernel.layout.physFrames) ∧
        b.spans.active < b.spans.capacity)
      (b.kernel.Addresses (b.kernel.nextFrame + count) into align count)
      (fun answer b' => answer.1 < Pool.capacityLimit ∧
        b.Delivers settings (some ⟨into, .frames count align, answer.2⟩) b')
      (b.Delivers settings none) :=
  spanOf_decides h h.toStacked.spanLength fun _ hstacked =>
    allocatePages_decides hstacked hq hinto ha

theorem allocateContiguousShared_decides (h : b.Tight settings) (hq : b.Quiet)
    (hbounded : b.Bounded) (hinto : ∃ s, b.kernel.space? into = some s)
    (ha : pageSize ∣ align.toNat) :
    (allocateContiguousShared into count align).Decides b
      (((1 ≤ count ∧ b.pages.active + count ≤ b.pages.capacity) ∧
        b.contigUsed + count ≤ b.contigCapacity) ∧ b.spans.active < b.spans.capacity)
      (b.kernel.Addresses b.kernel.nextFrame into align count)
      (fun answer b' => answer.1 < Pool.capacityLimit ∧
        b.Delivers settings (some ⟨into, .frames count align, answer.2⟩) b')
      (b.Delivers settings none) :=
  spanOf_decides h h.toStacked.spanLength fun spans hstacked =>
    carveContig_decides hstacked hq
      (show b.Spends (spanPool.put spans b) from .of_same hbounded rfl rfl rfl).bounded hinto ha

/-! ### Other operations -/

/-- The relation in which everything else on memory stays. -/
abbrev Broker.KeepsTight (settings : Settings) (b b' : Broker) : Prop :=
  b.Tight settings → b'.Tight settings

instance : IsPreorder Broker (Broker.KeepsTight settings) where
  refl _ := id
  trans _ _ _ h h' := h' ∘ h

theorem tight_places : AdmitsPlaces (Broker.KeepsTight settings) where
  lines _ _ h := h.of_same rfl rfl rfl
  events _ _ _ h := h.of_same rfl rfl rfl
  place b page m h := by
    have hcapacity := Pool.capacity_modify (p := b.pages) page (·.addMapping m)
    exact h.restacks ⟨⟨h.packed.modify _ _, hcapacity ▸ h.small, h.countable⟩, hcapacity, rfl⟩

theorem kernelPart_tight : kernelPart.Allows (Broker.KeepsTight settings)
    fun k k' => k'.nextFrame = k.nextFrame := fun _ _ hframes h => h.of_same rfl rfl hframes

theorem mapVerified_tight (first : Paddr) (count : Nat) (align : UInt64) (into : ComponentId) :
    Stays (Broker.KeepsTight settings) (mapVerified first count align into) := by
  refine fun b => mapVerified_finds.mono ?_ ?_
  · rintro vaddr _ ⟨k, hk, rfl, _⟩
    exact kernelPart_tight b k hk
  · rintro why _ ⟨k, hk, rfl⟩
    exact kernelPart_tight b k hk

theorem mapSpan_tight (id : Nat) (into : ComponentId) (align : UInt64) :
    Stays (Broker.KeepsTight settings) (mapSpan id into align) :=
  tight_places.mapSpan id into fun _ _ => mapVerified_tight _ _ _ _

/-! ### At the start -/

/-- Pages that are mapped nowhere are stacked on any machine, if they are
allocated. -/
theorem allocatePages_stacks (hb : b.Stacked) :
    (allocatePages none count align).Leads b (fun _ => b.Restacks) (fun _ _ => True) := by
  refine Step.Leads.ite (fun _ => Step.Leads.refuse_bind trivial) fun hc => ?_
  refine Step.leads_bind.2 (Part.ask_leads ((hb.packed.dense.allocateRun_leads hc).mono ?_
    fun _ _ _ => trivial))
  rintro _ _ ⟨hrun, rfl, rfl⟩
  have hfits := hb.packed.hasRun_iff.1 hrun
  have hsmall : count < Pool.capacityLimit :=
    Nat.lt_of_le_of_lt (Nat.le_trans (Nat.le_add_left _ _) hfits) hb.small
  refine Step.leads_cleanly.2 (Step.leads_bind.2 (Part.run_leads (Step.leads_explain.2
    (((Kernel.reserveFrames_grows count).and (Kernel.reserveFrames_heaps count b.kernel)).mono ?_
      fun _ _ _ => trivial))))
  rintro first k ⟨⟨_, hfirst, hgrows⟩, hheaps⟩
  have hearmarks : b.Earmarks count none
      (kernelPart.put k (pagePool.put (b.pages.reserveRun b.pages.lowWater count) b)) :=
    ⟨rfl, .of_first hsmall hfirst hgrows.frames, rfl, hheaps⟩
  refine Step.leads_bind.2 (Step.leads_pure.2 (Step.leads_bind.2
    ((hearmarks.publishes hb hc hfits).mono ?_ fun _ _ _ => trivial)))
  exact fun _ _ hdone => Step.leads_pure.2 hdone.toRestacks

/-- Pages that are made the span with a given id leave everything in order. -/
theorem allocateSharedAt_tight {number : Nat} (h : b.Tight settings) :
    (allocateSharedAt number count align).Leads b (fun _ => Broker.Tight settings)
      (fun _ _ => True) := by
  refine Step.leads_bind.2 (Part.ask_leads (h.spans.allocateAt_keeps.mono ?_ fun _ _ _ => trivial))
  rintro slot spans ⟨hpending, -, hcapacity⟩
  have hstacked : (spanPool.put spans b).Stacked := ⟨h.packed, h.small, h.countable⟩
  refine Step.leads_cleanly.2 (Step.leads_bind.2 ((allocatePages_stacks hstacked).mono ?_
    fun _ _ _ => trivial))
  intro answer b₁ hr
  refine activateSpan_leads.mono ?_ fun _ _ _ => trivial
  rintro _ _ ⟨⟨rfl, _⟩, nPages, trail, _, rfl⟩
  have hspans : b₁.spans = spans := hr.spans
  refine h.settle _ hr (hspans ▸ hpending.publish) ?_
  rw [← hcapacity, ← hspans]
  rfl

/-- The frames of the region are counted, since they are mapped. -/
theorem initContig_tight {selfId : ComponentId} (h : b.Tight settings) :
    (initContig selfId count).Leads b (fun _ => Broker.Tight settings) (fun _ _ => True) := by
  have hbase : (contigBase selfId count).Leads b (fun _ => Broker.Tight settings)
      fun _ _ => True := by
    refine Step.Leads.ite (fun _ => Step.leads_pure.2 h) fun _ => ?_
    refine Step.leads_bind.2 (Part.run_leads (Step.leads_explain.2
      (.of_forall (fun first k => ?_) fun _ _ => trivial)))
    refine Step.leads_bind.2 ((mapVerified_addressed.and mapVerified_finds).mono ?_
      fun _ _ _ => trivial)
    rintro vaddr _ ⟨hend, k', hk', rfl, _⟩
    have hcountable : k'.Countable := (Kernel.Countable.of_addressed hend).of_same hk'
    exact Step.leads_pure.2 (h.restacks ⟨⟨h.packed, h.small, hcountable⟩, rfl, rfl⟩)
  refine Step.leads_bind.2 (hbase.mono ?_ fun _ _ _ => trivial)
  intro base b₁ h₁
  refine Step.Leads.modify_bind (Step.leads_modify.2 ?_)
  split
  · exact h₁.of_same rfl rfl rfl
  · exact h₁.of_same rfl rfl rfl

end CapabilityBroker
