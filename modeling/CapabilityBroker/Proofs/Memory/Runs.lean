/-
CapabilityBroker/Proofs/Memory/Runs.lean

Allocations.

An allocation keeps a run of records, claims a frame for each, maps the frames
and publishes the run.  In between nothing is seen of it: a run that is ready
(`Broker.Readies`) is published as a whole.  `b.Publishes r b'` says what that
comes to: the pages of the run joined those on record, their frames were not
spent before, and the page tables gained no entry that the new records do not
have.  An allocation that stops has only drawn frames.
-/
import CapabilityBroker.Proofs.Memory.Pages
import CapabilityBroker.Proofs.Memory.Tables

namespace CapabilityBroker

open Kernel (RunAt RunIn)
open Step (Stays StaysFrom)

variable {b b' b'' : Broker} {component : Option ComponentId} {into : ComponentId} {vaddr : Vaddr}
  {first : Paddr} {start count : Nat} {align : UInt64} {r : PageRun}

/-! ### Runs and entries -/

/-- The page of a mapping that begins on a page boundary begins on one too. -/
theorem toNat_place {place : Vaddr} {j : Nat} (ha : pageSize ∣ vaddr.toNat)
    (hplace : vaddr.addPages j = some place) :
    place.toNat = (vaddr.pageNumber + j) * pageSize := by
  rw [Vaddr.addPages_eq_some_iff.1 hplace, Nat.add_mul]
  congr 1
  exact (Nat.div_mul_cancel ha).symm

/-- The entries of page tables that the records of the run have. -/
def PageRun.Mapped (r : PageRun) (id : ComponentId) (n : Nat) (frame : Paddr) : Prop :=
  ∃ j < r.count, ∃ page, r.page? j = some page ∧ page.frame = frame ∧
    ∃ place, ⟨id, place⟩ ∈ page.mappings ∧ place.toNat = n * pageSize

/-- Where every page of a mapped run is found, the run has all of its pages. -/
theorem exists_page? (start : Nat) (h : ∀ j < count, b.kernel.FindsPage into vaddr first j) :
    ∀ j < count, ∃ page, (⟨first, some (into, vaddr), start, count⟩ : PageRun).page? j
      = some page := by
  intro j hj
  obtain ⟨place, frame, hplace, hframe, _⟩ := h j hj
  refine ⟨⟨frame, [⟨into, place⟩]⟩, PageRun.page?_eq_some_iff.2 ⟨?_, hframe⟩⟩
  show (vaddr.addPages j).map _ = _
  rw [hplace]
  rfl

namespace Broker

theorem Maps.aligned (h : b.Maps into first count align vaddr b') (ha : pageSize ∣ align.toNat)
    (hq : b.Quiet) : pageSize ∣ vaddr.toNat := by
  obtain ⟨s, _, hv⟩ := h.placed hq
  exact Vaddr.dvd_of_alignUp hv ha

/-- What a mapping puts into page tables is what the records of its run say. -/
theorem Maps.mapped (h : b.Maps into first count align vaddr b') (ha : pageSize ∣ align.toNat) :
    b.Fills (⟨first, some (into, vaddr), start, count⟩ : PageRun).Mapped b' := by
  refine h.fills.mono fun _ hq id n frame hnew => ?_
  obtain ⟨rfl, j, hj, rfl, hframe⟩ := hnew
  obtain ⟨page, hpage⟩ := exists_page? start h.pages j hj
  obtain ⟨hplaces, hframe'⟩ := PageRun.page?_eq_some_iff.1 hpage
  obtain ⟨place, hplace, hmappings⟩ := Option.map_eq_some_iff.1 hplaces
  refine ⟨j, hj, page, hpage, Option.some.inj (hframe'.symm.trans hframe), place, ?_, ?_⟩
  · rw [← hmappings]
    exact List.mem_singleton_self _
  · exact toNat_place (h.aligned ha hq) hplace

/-- What strayed is of frames that had just been claimed. -/
theorem Claims.draws (h : b.Claims first count b') (hp : b''.pages = b'.pages)
    (hs : b''.spans = b'.spans) (hf : b'.Fills (RunIn into first count) b'') : b.Draws b'' where
  pages := by
    rw [hp, h.pages]
    exact .refl _
  spans := by
    rw [hs, h.spans]
    exact .refl _
  fills := by
    have hbounded : b.Bounded → b'.Bounded := fun hb => (h.fills.spends hb).bounded
    refine ⟨fun hb => (h.fills.spends hb).trans (hf.spends (hbounded hb)),
      hf.quiet ∘ h.fills.quiet, fun hb hq id n frame hframe => ?_⟩
    rcases hf.entries (hbounded hb) (h.fills.quiet hq) id n frame hframe with hold | hstray
    · exact .inl ((h.fills.entries hb hq id n frame hold).resolve_right not_false)
    · obtain ⟨_, j, hj, hframe⟩ := hstray
      exact .inr ((h.taken hb j hj frame hframe).trans (hf.spends (hbounded hb)))

/-! ### Publishing -/

/-- Slots for a run of records are kept, where they were free. -/
structure Keeps (start count : Nat) (b b' : Broker) : Prop where
  rest : b' = { b with pages := b.pages.reserveRun start count }
  mark : b.pages.lowWater ≤ start
  free : ∀ k, start ≤ k → k < start + count → (b.pages.entry k).slot = .free
  within : start + count ≤ b.pages.capacity + 1

/-- The run can be published: its records are kept, its frames are claimed, and
it is mapped where it is to be. -/
structure Readies (r : PageRun) (b b' : Broker) : Prop where
  pages : b'.pages = b.pages.reserveRun r.start r.count
  free : ∀ k, r.start ≤ k → k < r.start + r.count → (b.pages.entry k).slot = .free
  within : r.start + r.count ≤ b.pages.capacity + 1
  spans : b'.spans = b.spans
  fills : b.Fills r.Mapped b'
  taken : b.Bounded → ∀ j < r.count, ∀ frame, r.first.addPages j = some frame → b.Takes b' frame

/-- The run came on record, with frames that were not spent before. -/
structure Publishes (r : PageRun) (b b' : Broker) : Prop where
  pages : r.Joins b.pages b'.pages
  fills : b.Fills r.Mapped b'
  taken : b.Bounded → ∀ j < r.count, ∀ frame, r.first.addPages j = some frame → b.Takes b' frame

/-- Spans and what is written down are no part of this. -/
theorem Publishes.of_notes {spans : Pool Span} {trail : Trail Event} {journal : Trail JournalLine}
    (h : b.Publishes r b') : b.Publishes r { b' with spans, trail, journal } :=
  ⟨h.pages, h.fills.trans (.of_same rfl rfl), h.taken⟩

theorem Keeps.draws (h : b.Keeps start count b') : b.Draws b' := by
  rw [h.rest]
  refine pagePool_draws _ _ (Pool.Moves.reserveRun h.mark fun k h₁ h₂ => ?_)
  exact Pool.Entry.Idle.of_free (h.free k h₁ h₂)

/-- Records are kept, then frames are claimed, and then they are mapped. -/
theorem Keeps.readies {b₁ b₂ b₃ : Broker} (h : b.Keeps r.start r.count b₁)
    (hclaims : b₁.Claims r.first r.count b₂) (hp : b₃.pages = b₂.pages)
    (hs : b₃.spans = b₂.spans) (hf : b₂.Fills r.Mapped b₃) : b.Readies r b₃ where
  pages := by rw [hp, hclaims.pages, h.rest]
  free := h.free
  within := h.within
  spans := by rw [hs, hclaims.spans, h.rest]
  fills := by
    have hkept : b.Fills r.Mapped b₁ := by
      rw [h.rest]
      exact .of_same rfl rfl
    exact hkept.trans (hclaims.fills.of_none.trans hf)
  taken hb j hj frame hframe := by
    have hkept : b.Spends b₁ := h.draws.fills.spends hb
    have hclaimed := hclaims.fills.spends hkept.bounded
    exact (hkept.takes (hclaims.taken hkept.bounded j hj frame hframe)).trans
      (hf.spends hclaimed.bounded)

end Broker

/-- Slots for a run of records are found free, or nothing happens. -/
theorem allocateRun_keeps (hc : count ≠ 0) :
    (pagePool.ask (Pool.allocateRun count)).Leads b
      (fun run b' => ∃ start, run = b.pages.runOf start count ∧ b.Keeps start count b')
      (fun _ b' => b' = b) := by
  refine Part.ask_leads ((Pool.allocateRun_leads hc).mono ?_ ?_)
  · rintro _ _ ⟨start, hstart, rfl, rfl⟩
    obtain ⟨hmark, hwithin, hfree⟩ := Pool.findRun?_eq_some hstart
    exact ⟨start, rfl, rfl, hmark, hfree, hwithin⟩
  · rintro why _ ⟨_, _, rfl⟩
    rfl

/-- A run that is ready is published if each of its pages has its addresses. -/
theorem Broker.Readies.publish (h : b.Readies r b') (hc : r.count ≠ 0) :
    (publishRun (b.pages.runOf r.start r.count) r.first r.mapped).Leads b'
      (fun head b'' => head.index = r.start ∧ b.Publishes r b'' ∧ b''.spans = b.spans)
      (fun _ _ => ¬ ∀ j < r.count, ∃ page, r.page? j = some page) := by
  refine (publishRun_publishes hc h.pages).mono ?_ fun _ _ => id
  rintro head _ ⟨hhead, pages, trail, rfl, hpublished⟩
  rw [h.pages] at hpublished
  exact ⟨hhead, ⟨hpublished.joins hc h.within h.free, h.fills.trans (.of_same rfl rfl), h.taken⟩,
    h.spans⟩

/-! ### Allocation -/

/-- A claimed run is mapped where a component is given, and nowhere else. -/
theorem mapRun_maps (start : Nat) (ha : pageSize ∣ align.toNat) :
    (mapRun component first count align).Leads b
      (fun mapped b' => (b'.pages = b.pages ∧ b'.spans = b.spans) ∧
        b.Fills (⟨first, mapped, start, count⟩ : PageRun).Mapped b' ∧
        (component ≠ none → ∀ j < count, ∃ page,
          (⟨first, mapped, start, count⟩ : PageRun).page? j = some page))
      (fun _ b' => (b'.pages = b.pages ∧ b'.spans = b.spans) ∧
        ∃ into, b.Fills (RunIn into first count) b') := by
  cases component with
  | none => exact Step.leads_pure.2 ⟨⟨rfl, rfl⟩, .refl b, fun hne => absurd rfl hne⟩
  | some into =>
    refine Step.leads_bind.2 (Step.leads_explain.2 ((mapVerified_maps ha).mono ?_ ?_))
    · intro vaddr b' hmaps
      refine Step.leads_pure.2 ⟨?_, hmaps.mapped ha, fun _ => exists_page? start hmaps.pages⟩
      rw [hmaps.rest]
      exact ⟨rfl, rfl⟩
    · intro why b' hstrays
      refine ⟨?_, into, hstrays.fills⟩
      rw [hstrays.rest]
      exact ⟨rfl, rfl⟩

/-- An allocation in a component publishes its run, or stops having drawn frames
at most. -/
theorem allocatePages_publishes (ha : pageSize ∣ align.toNat) :
    (allocatePages component count align).Leads b
      (fun answer b' => ∃ r : PageRun, r.start = answer.1.index ∧ r.count = count ∧
        b.Publishes r b' ∧ b'.spans = b.spans)
      (fun _ b' => component ≠ none → b.Draws b') := by
  refine Step.Leads.ite (fun _ => Step.Leads.refuse_bind fun _ => .refl b) fun hc => ?_
  refine Step.leads_bind.2 ((allocateRun_keeps hc).mono ?_ ?_)
  · rintro _ b₁ ⟨start, rfl, hkeeps⟩
    refine Broker.pagePool_draws.holdingAll_leads (fun _ _ h hdraws hne => (h hne).trans hdraws) ?_
    refine Step.leads_bind.2 ((reserveFrames_claims count).mono ?_ ?_)
    · intro first b₂ hclaims
      refine Step.leads_bind.2 ((mapRun_maps start ha).mono ?_ ?_)
      · rintro mapped b₃ ⟨⟨hp, hs⟩, hfills, hpages⟩
        have hready : b.Readies ⟨first, mapped, start, count⟩ b₃ :=
          hkeeps.readies hclaims hp hs hfills
        refine Step.leads_bind.2 ((hready.publish hc).mono ?_ fun _ _ hstop hne => ?_)
        · rintro head b₄ ⟨hhead, hdone⟩
          exact Step.leads_pure.2 ⟨_, hhead.symm, rfl, hdone⟩
        · exact absurd (hpages hne) hstop
      · rintro why b₃ ⟨⟨hp, hs⟩, into, hfills⟩ _
        exact hkeeps.draws.trans (hclaims.draws hp hs hfills)
    · exact fun _ b₂ hdraws _ => hkeeps.draws.trans hdraws
  · rintro why _ rfl _
    exact .refl _

/-- Carving pages off the region publishes them too. -/
theorem carveContig_publishes (ha : pageSize ∣ align.toNat) :
    (carveContig into count align).Leads b
      (fun answer b' => ∃ r : PageRun, r.start = answer.1.index ∧ r.count = count ∧
        b.Publishes r b' ∧ b'.spans = b.spans)
      (fun _ => b.Draws) := by
  refine Step.Leads.ite (fun _ => Step.Leads.refuse_bind (.refl b)) fun hc => ?_
  refine Step.leads_bind.2 ((allocateRun_keeps hc).mono ?_ ?_)
  · rintro _ b₁ ⟨start, rfl, hkeeps⟩
    refine Broker.pagePool_draws.holdingAll_leads (fun _ _ => .trans) ?_
    refine Step.leads_bind.2 ((advanceContig_claims hc).mono ?_ ?_)
    · rintro ⟨first, offset⟩ b₂ hclaims
      refine Step.leads_bind.2 (Step.leads_explain.2 ((mapVerified_maps ha).mono ?_ ?_))
      · intro vaddr b₃ hmaps
        have hready : b.Readies ⟨first, some (into, vaddr), start, count⟩ b₃ :=
          hkeeps.readies hclaims (hmaps.rest ▸ rfl) (hmaps.rest ▸ rfl) (hmaps.mapped ha)
        refine Step.leads_bind.2 ((hready.publish hc).mono ?_ fun _ _ hstop => ?_)
        · rintro head b₄ ⟨hhead, hpublishes, hspans⟩
          refine Step.Leads.modify_bind (Step.Leads.modify_bind (Step.leads_pure.2 ?_))
          exact ⟨_, hhead.symm, rfl, hpublishes.of_notes, hspans⟩
        · exact absurd (exists_page? start hmaps.pages) hstop
      · intro why b₃ hstrays
        exact hkeeps.draws.trans
          (hclaims.draws (hstrays.rest ▸ rfl) (hstrays.rest ▸ rfl) hstrays.fills)
    · exact fun _ b₂ hdraws => hkeeps.draws.trans hdraws
  · rintro why _ rfl
    exact .refl _

end CapabilityBroker
