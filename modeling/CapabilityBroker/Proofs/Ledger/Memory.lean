/-
CapabilityBroker/Proofs/Ledger/Memory.lean

Operations on pages, spans and the contiguous region keep the books.

Between the frames that are drawn and the pages that get them stands the
mapping, which may be refused as a defect or abort.  The frames are lost then,
and no page is on record that the trail does not have.  Once the mapping has
passed its check nothing stops the operation any more, since the check has seen
an address for every page.
-/
import CapabilityBroker.Proofs.Ledger.Object
import CapabilityBroker.Proofs.Memory.Spans

namespace CapabilityBroker

open Step (Stays StaysFrom KeepsBooks)

variable {b b' : Broker} {component : Option ComponentId} {into : ComponentId} {first : Paddr}
  {mapped : Option (ComponentId × Vaddr)} {vaddr : Vaddr} {count : Nat} {align : UInt64}

/-! ### The kernel's side -/

/-- The kernel hands the frames out, or none. -/
theorem reserveFrames_draws (count : Nat) :
    (reserveFrames count).Leads b
      (fun _ b' => ∃ k, k.nextFrame = b.kernel.nextFrame + count ∧ b' = { b with kernel := k })
      (fun _ b' => ∃ k, k.nextFrame = b.kernel.nextFrame ∧ b' = { b with kernel := k }) := by
  refine Part.run_leads (Step.leads_explain.2 ((Kernel.reserveFrames_grows count).mono ?_ ?_))
  · rintro _ k ⟨_, _, hgrows⟩
    exact ⟨k, hgrows.frames, rfl⟩
  · exact fun _ k hgrows => ⟨k, hgrows.frames, rfl⟩

/-- A mapping draws no frames. -/
theorem mapFrames_draws :
    (mapFrames first count align into).StaysFrom
      (fun b b' => ∃ k, k.nextFrame = b.kernel.nextFrame ∧ b' = { b with kernel := k }) b := by
  refine Part.run_leads (Step.leads_explain.2
    ((Kernel.aliasFrames_grows first count align into b.kernel).mono ?_ ?_))
  · exact fun _ k hgrows => ⟨k, hgrows.frames, rfl⟩
  · exact fun _ k hgrows => ⟨k, hgrows.frames, rfl⟩

/-- Where it passes the check, every page has an address. -/
theorem mapVerified_finds :
    (mapVerified first count align into).Leads b
      (fun vaddr b' => ∃ k, k.nextFrame = b.kernel.nextFrame ∧ b' = { b with kernel := k } ∧
        ∀ j < count, k.FindsPage into vaddr first j)
      (fun _ b' => ∃ k, k.nextFrame = b.kernel.nextFrame ∧ b' = { b with kernel := k }) := by
  refine Step.leads_bind.2 (mapFrames_draws.mono ?_ fun _ _ => id)
  rintro vaddr _ ⟨k, hk, rfl⟩
  refine Step.leads_bind.2 (Part.run_leads (Kernel.verifyFrom_leads.mono ?_ ?_))
  · rintro _ _ ⟨rfl, hfound⟩
    exact Step.leads_pure.2 ⟨_, hk, rfl, fun j hj => hfound j (Nat.zero_le j) (by omega)⟩
  · rintro why _ rfl
    exact ⟨_, hk, rfl⟩

/-! ### Runs of pages -/

theorem length_of_placeOf? {i : Nat} {places : List Mapping} (h : placeOf? mapped i = some places) :
    places.length = if mapped.isSome then 1 else 0 := by
  unfold placeOf? at h
  split at h
  · cases h
    rfl
  · obtain ⟨place, _, rfl⟩ := Option.map_eq_some_iff.1 h
    rfl

/-- So many pages came on record, each with a place if they are mapped. -/
structure Brings (isMapped : Bool) (count : Nat) (p p' : Pool Page) : Prop where
  active : p'.active = p.active + count
  places : p'.total Page.placeCount = p.total Page.placeCount + if isMapped then count else 0

theorem publishFrom_brings (first : Paddr) (mapped : Option (ComponentId × Vaddr))
    (run : List (Reservation Page)) (i : Nat) :
    (publishFrom first mapped run i).Leads b
      (fun _ b' => ∃ pages, b' = { b with pages } ∧
        Brings mapped.isSome run.length b.pages pages)
      (fun _ _ => True) := by
  induction run generalizing b i with
  | nil => exact Step.leads_pure.2 ⟨b.pages, rfl, rfl, by simp⟩
  | cons slot slots ih =>
    refine Step.Leads.exact_bind (fun places hplaces => ?_) fun _ => trivial
    refine Step.Leads.exact_bind (fun frame hframe => ?_) fun _ => trivial
    refine Step.leads_bind.2 ((Part.activate_publishes rfl).mono ?_ fun _ _ _ => trivial)
    rintro _ _ ⟨hheld, rfl⟩
    refine (ih (i + 1)).mono ?_ fun _ _ _ => trivial
    rintro _ _ ⟨pages, rfl, hactive, htotal⟩
    refine ⟨pages, rfl, ?_, ?_⟩
    · rw [hactive, List.length_cons, Nat.add_comm slots.length, ← Nat.add_assoc]
      rfl
    · have hpublish : (b.pages.publish slot ⟨frame, places⟩).total Page.placeCount =
          b.pages.total Page.placeCount + places.length := Pool.total_publish hheld
      have hlength := length_of_placeOf? hplaces
      rw [htotal, List.length_cons]
      show (b.pages.publish slot ⟨frame, places⟩).total Page.placeCount + _ = _
      rw [hpublish, hlength]
      split <;> omega

/-- A run is published and entered, or one of its pages has no address. -/
theorem publishRun_posts {r : PageRun} {p : Pool Page} (hc : r.count ≠ 0)
    (hpages : b.pages = p.reserveRun r.start r.count) :
    (publishRun (p.runOf r.start r.count) r.first r.mapped).Leads b
      (fun _ b' => ∃ pages first, Brings r.mapped.isSome r.count b.pages pages ∧
        b' = { b with
          pages
          trail := b.trail.record (.pagesAllocated (r.mapped.map Prod.fst) first r.count) })
      (fun _ _ => ¬ ∀ j < r.count, ∃ page, r.page? j = some page) := by
  have hlength : (p.runOf r.start r.count).length = r.count := by
    rw [Pool.runOf, List.length_map, List.length_range']
  have hposts : (publishRun (p.runOf r.start r.count) r.first r.mapped).Leads b
      (fun _ b' => ∃ pages first, Brings r.mapped.isSome r.count b.pages pages ∧
        b' = { b with
          pages
          trail := b.trail.record (.pagesAllocated (r.mapped.map Prod.fst) first r.count) })
      (fun _ _ => True) := by
    unfold publishRun
    split
    · exact Step.leads_refuse.2 trivial
    · next head rest hrun =>
      refine Step.leads_bind.2 ((publishFrom_brings _ _ _ _).mono ?_ fun _ _ _ => trivial)
      rintro _ _ ⟨pages, rfl, hbrings⟩
      rw [hlength] at hbrings ⊢
      exact Step.Leads.modify_bind (Step.leads_pure.2 ⟨pages, head.index, hbrings, rfl⟩)
  exact (hposts.and (publishRun_publishes hc hpages)).mono (fun _ _ h => h.1) fun _ _ h => h.2

namespace Broker

/-- A run that came on record is entered, whatever became of its frames. -/
theorem Booked.allocate {pages : Pool Page} {kernel : Kernel} {contig : Option ContigRegion}
    {firstPage : Nat} (h : b.Booked) (hp : Brings mapped.isSome count b.pages pages) :
    Booked { b with
      kernel, pages, contig
      trail := b.trail.record (.pagesAllocated (mapped.map Prod.fst) firstPage count) } := by
  refine h.post rfl (fun _ _ => id) ?_ nofun
  rintro ⟨⟩
  case pages => exact hp.active
  case places =>
    show pages.total Page.placeCount = _ + if (mapped.map Prod.fst).isSome then count else 0
    rw [Option.isSome_map]
    exact hp.places
  all_goals rfl

/-- Pages that got frames of their own leave the books right. -/
theorem Balances.allocate {pages : Pool Page} {kernel : Kernel} {firstPage : Nat}
    (hp : Brings mapped.isSome count b.pages pages)
    (hk : kernel.nextFrame = b.kernel.nextFrame + count) :
    b.Balances { b with
      kernel, pages
      trail := b.trail.record (.pagesAllocated (mapped.map Prod.fst) firstPage count) } := by
  have hactive := hp.active
  refine ⟨⟨fun h => h.allocate hp, fun h => ⟨?_, ?_⟩⟩, fun h => ⟨?_, ?_⟩, id⟩
  · rw [Trail.sum_record]
    exact h.carved
  · have hdrawn := h.drawn
    show b.contigCapacity + pages.active ≤ kernel.nextFrame + b.contigUsed
    omega
  · rw [Trail.sum_record]
    exact h.carved
  · have hdrawn := h.drawn
    show b.contigCapacity + pages.active = kernel.nextFrame + b.contigUsed
    omega

/-- Frames that no page gets are lost, and nothing else is. -/
theorem Posts.of_lost {kernel : Kernel} (h : b.kernel.nextFrame ≤ kernel.nextFrame) :
    b.Posts { b with kernel } := by
  refine ⟨fun hb => hb.of_same rfl (fun _ _ => id) fun account => by cases account <;> rfl,
    fun hc => ⟨hc.carved, ?_⟩⟩
  have hdrawn := hc.drawn
  show b.contigCapacity + b.pages.active ≤ kernel.nextFrame + b.contigUsed
  omega

end Broker

/-! ### Allocation -/

/-- Slots for a run of records are kept, and nothing is entered. -/
theorem allocateRun_balances (hc : count ≠ 0) :
    (pagePool.ask (Pool.allocateRun count)).Leads b
      (fun run b' => b.Balances b' ∧ ∃ start, run = b.pages.runOf start count ∧
        b'.pages = b.pages.reserveRun start count)
      (fun _ => b.Balances) := by
  have hstays := pagePool_balances.ask (Pool.allocateRun_shuffles hc) b
  refine (hstays.and (allocateRun_keeps hc)).mono ?_ fun _ _ h => h.1
  rintro run b' ⟨hbalances, start, hrun, hkeeps⟩
  exact ⟨hbalances, start, hrun, hkeeps.rest ▸ rfl⟩

/-- A mapping that stops loses the frames that were drawn for it; one that
answers has an address for every page. -/
theorem mapRun_finds (start : Nat) :
    (mapRun component first count align).Leads b
      (fun mapped b' => mapped.map Prod.fst = component ∧
        (∃ k, k.nextFrame = b.kernel.nextFrame ∧ b' = { b with kernel := k }) ∧
        (component ≠ none → ∀ j < count, ∃ page,
          (⟨first, mapped, start, count⟩ : PageRun).page? j = some page))
      (fun why b' => (∀ failure, why = .refused failure → ¬ failure.Ordinary) ∧
        ∃ k, k.nextFrame = b.kernel.nextFrame ∧ b' = { b with kernel := k }) := by
  cases component with
  | none => exact Step.leads_pure.2 ⟨rfl, ⟨b.kernel, rfl, rfl⟩, fun h => absurd rfl h⟩
  | some into =>
    refine Step.leads_bind.2 (Step.leads_explain.2 (mapVerified_finds.mono ?_ ?_))
    · rintro vaddr _ ⟨k, hk, rfl, hpages⟩
      exact Step.leads_pure.2 ⟨rfl, ⟨k, hk, rfl⟩, fun _ =>
        exists_page? (b := { b with kernel := k }) start hpages⟩
    · rintro why _ ⟨k, hk, rfl⟩
      refine ⟨fun failure heq => ?_, k, hk, rfl⟩
      cases why with
      | refused defect =>
        cases heq
        exact nofun
      | abort => cases heq

/-- Pages are allocated with frames of their own, or the frames are lost.  Where
the pages are mapped nowhere, only an allocation that answers is spoken of. -/
theorem allocatePages_closes (component : Option ComponentId) (count : Nat) (align : UInt64) :
    (allocatePages component count align).Leads b (fun _ => b.Balances)
      (fun why b' => component ≠ none → b.Closes Failure.Ordinary why b') := by
  refine Step.Leads.ite (fun _ => Step.Leads.refuse_bind fun _ => .of_balances (refl_of _ b))
    fun hc => ?_
  refine Step.leads_bind.2 ((allocateRun_balances hc).mono ?_ fun _ _ h _ => .of_balances h)
  rintro _ b₁ ⟨hkept, start, rfl, hpages⟩
  refine KeepsBooks.holdingAll_leads pagePool_balances
    (fun _ _ _ hclose hr hne => (hclose hne).tidy hr) ?_
  refine Step.leads_bind.2 ((reserveFrames_draws count).mono ?_ ?_)
  swap
  · rintro why _ ⟨k, hk, rfl⟩ _
    exact .of_balances (trans_of Broker.Balances hkept (kernelPart_balances b₁ k hk))
  rintro first _ ⟨k₁, hk₁, rfl⟩
  refine Step.leads_bind.2 ((mapRun_finds start).mono ?_ ?_)
  swap
  · rintro why _ ⟨hdefect, k₂, hk₂, rfl⟩ _
    have hlost : b₁.Posts { b₁ with kernel := k₂ } := .of_lost (by rw [hk₂, hk₁]; omega)
    cases why with
    | refused failure => exact fun hordinary => absurd hordinary (hdefect failure rfl)
    | abort => exact trans_of Broker.Posts hkept.toPosts hlost
  rintro mapped _ ⟨rfl, ⟨k₂, hk₂, rfl⟩, hall⟩
  have hposts := publishRun_posts (r := ⟨first, mapped, start, count⟩)
    (b := { b₁ with kernel := k₂ }) hc hpages
  refine Step.leads_bind.2 (hposts.mono ?_ fun why b' hstop hne => absurd (hall hne) hstop)
  rintro head _ ⟨pages, firstPage, hbrings, rfl⟩
  exact Step.leads_pure.2
    (trans_of Broker.Balances hkept (.allocate hbrings (Eq.trans hk₂ hk₁)))

theorem allocatePages_keepsBooks (into : ComponentId) (count : Nat) (align : UInt64) :
    (allocatePages (some into) count align).KeepsBooks Failure.Ordinary b :=
  (allocatePages_closes _ _ _).mono (fun _ _ => id) fun _ _ h => h nofun

/-- A page that is mapped once more has one more place. -/
theorem total_addMapping {page : Handle Page} {record : Page} {p : Pool Page} (m : Mapping)
    (h : p.get? page = some record) :
    (p.modify page (·.addMapping m)).total Page.placeCount = p.total Page.placeCount + 1 := by
  have hmodify : (p.modify page (·.addMapping m)).total Page.placeCount + record.mappings.length =
      p.total Page.placeCount + (record.mappings.length + 1) :=
    (Pool.total_modify h).trans (congrArg _ List.length_append)
  omega

/-- No request maps a single page once more, but the books would be kept. -/
theorem aliasPage_keepsBooks (page : Handle Page) (into : ComponentId) (align : UInt64) :
    (aliasPage page into align).KeepsBooks Failure.Ordinary b := by
  refine Step.Leads.get_bind (Step.Leads.require_bind (fun record hrecord => ?_) fun _ => ?_)
  swap
  · exact .of_balances (refl_of Broker.Balances b)
  refine Step.Leads.ite (fun _ => KeepsBooks.refuse_bind) fun _ => ?_
  refine Step.leads_bind.2 (Step.leads_explain.2 (mapFrames_draws.mono ?_ ?_))
  swap
  · rintro why _ ⟨k, hk, rfl⟩
    exact .of_balances (kernelPart_balances b k hk)
  rintro vaddr _ ⟨k, hk, rfl⟩
  refine Step.Leads.modify_bind (Step.Leads.modify_bind (Step.leads_pure.2 ?_))
  refine .post rfl rfl rfl (Pool.active_modify _ _) hk (fun _ _ => id) ?_ nofun
  rintro ⟨⟩
  case pages => exact Pool.active_modify _ _
  case places => exact total_addMapping _ hrecord
  all_goals rfl

/-! ### Device memory -/

/-- This hands no frame out, and nothing comes on record. -/
theorem mapPhysical_counts {R : Broker → Broker → Prop} [IsPreorder Broker R]
    (h : kernelPart.Allows R fun k k' => k'.nextFrame = k.nextFrame)
    (component : ComponentId) (paddr : Paddr) (size : UInt64) :
    Stays R (mapPhysical component paddr size) := by
  refine .ite (fun b => .refuse_bind) (h.run (Stays.explain fun k => ?_))
  exact Kernel.mapDevice_grows.mono (fun _ _ h => h.2.frames) fun _ _ h => h.2.frames

/-! ### Spans -/

theorem activateSpan_keepsBooks {plain : Failure → Prop} (slot : Reservation Span)
    (head : Handle Page) (count : Nat) : (activateSpan slot head count).KeepsBooks plain b := by
  unfold activateSpan
  split
  · exact .refuse
  · refine Step.Leads.ite (fun _ => KeepsBooks.refuse_bind) fun _ => ?_
    refine KeepsBooks.publish_bind rfl fun span hheld => ?_
    refine Step.Leads.modify_bind (Step.leads_pure.2 (.post rfl rfl rfl rfl rfl ?_
      (by rintro ⟨⟩ <;> rfl) nofun))
    -- A span that is on record is not in the slot that was kept.
    intro id span hspan
    refine Pool.at?_publish.trans ((if_neg ?_).trans hspan)
    rintro rfl
    cases hspan.symm.trans (Pool.Holds.at?_eq_none hheld)

theorem allocateShared_keepsBooks (into : ComponentId) (count : Nat) (align : UInt64) :
    (allocateShared into count align).KeepsBooks Failure.Ordinary b := by
  refine .stays_bind (spanPool_balances.ask Pool.allocate_shuffles) fun slot b₁ _ => ?_
  refine .holding spanPool_balances (.bind (allocatePages_keepsBooks _ _ _) fun run b₂ _ => ?_)
  exact (activateSpan_keepsBooks _ _ _).bind fun span b₃ _ => .pure

theorem allocateSharedAt_balances (id count : Nat) (align : UInt64) :
    (allocateSharedAt id count align).Leads b (fun _ => b.Balances) (fun _ _ => True) := by
  refine Step.leads_bind.2 (((spanPool_balances.ask (Pool.allocateAt_shuffles id)) b).mono ?_
    fun _ _ _ => trivial)
  intro slot b₁ h₁
  refine Step.leads_cleanly.2 (Step.leads_bind.2 ((allocatePages_closes _ _ _).mono ?_
    fun _ _ _ => trivial))
  intro run b₂ h₂
  have hspan : (activateSpan slot run.1 count).KeepsBooks Failure.Ordinary b₂ :=
    activateSpan_keepsBooks _ _ _
  exact (hspan.after (trans_of Broker.Balances h₁ h₂)).mono (fun _ _ h => h) fun _ _ _ => trivial

/-- Every page of the run is noted in one more place. -/
theorem placePages_counts {pages : List (Handle Page × Page)} {start i : Nat}
    (h : Entered b.pages start pages) :
    (placePages into vaddr pages i).Leads b
      (fun _ b' => ∃ pool, b' = { b with pages := pool } ∧ pool.active = b.pages.active ∧
        pool.total Page.placeCount = b.pages.total Page.placeCount + pages.length)
      (fun _ _ => True) := by
  induction pages generalizing b start i with
  | nil => exact Step.leads_pure.2 ⟨b.pages, rfl, rfl, rfl⟩
  | cons e pages ih =>
    obtain ⟨hentry, hindex⟩ := h 0 e rfl
    have hget : b.pages.get? e.1 = some e.2 := Pool.get?_eq_some_iff.2 (hindex ▸ hentry)
    refine Step.leads_bind.2 (Step.Leads.exact_bind (fun place hplace => ?_) fun _ => trivial)
    refine Step.leads_modify.2 ((ih (b := { b with pages := _ }) h.tail).mono ?_
      fun _ _ _ => trivial)
    rintro _ _ ⟨pool, rfl, hactive, htotal⟩
    refine ⟨pool, rfl, hactive.trans (Pool.active_modify _ _), ?_⟩
    have hnoted := total_addMapping ⟨into, place⟩ hget
    have hrest : pool.total Page.placeCount =
        (b.pages.modify e.1 (·.addMapping ⟨into, place⟩)).total Page.placeCount +
          pages.length := htotal
    rw [hrest, List.length_cons]
    omega

theorem mapSpan_keepsBooks (id : Nat) (into : ComponentId) (align : UInt64) :
    (mapSpan id into align).KeepsBooks Failure.Ordinary b := by
  have hsame : ∀ {why : Stop Failure}, b.Closes Failure.Ordinary why b :=
    .of_balances (refl_of Broker.Balances b)
  refine Step.leads_bind.2 (Step.Leads.get_bind (Step.leads_require.2 ⟨fun span hspan => ?_,
    fun _ => hsame⟩))
  refine Step.Leads.exact_bind (fun _ _ => Step.Leads.get_bind ?_) fun _ => hsame
  refine Step.Leads.require_bind (fun pages hpages => ?_) fun _ => hsame
  obtain ⟨hlength, hentered⟩ : _ ∧ Entered _ _ _ := pagesFrom?_eq_some hpages
  split
  · exact Step.leads_abort.2 hsame
  split
  · exact Step.leads_refuse.2 hsame
  next handle head rest _ _ =>
  refine Step.leads_bind.2 (checkFrames_leads.mono ?_ ?_)
  swap
  · rintro why _ ⟨rfl, _⟩
    exact hsame
  rintro _ b₁ ⟨hb₁, _⟩
  rw [hb₁]
  refine Step.leads_bind.2 (Step.leads_explain.2 (mapVerified_finds.mono ?_ ?_))
  swap
  · rintro why _ ⟨k, hk, rfl⟩
    exact .of_balances (kernelPart_balances _ k hk)
  rintro vaddr _ ⟨k, hk, rfl, hfound⟩
  have hplaces : ∀ j < ((handle, head) :: rest).length, ∃ place,
      vaddr.addPages (0 + j) = some place := by
    intro j hj
    obtain ⟨place, _, hplace, _⟩ := hfound j hj
    exact ⟨place, (congrArg _ (Nat.zero_add j)).trans hplace⟩
  -- The places are noted: the check has seen an address for each.
  refine Step.leads_bind.2 (((placePages_counts (b := { b with kernel := k }) hentered).and
    (placePages_places hentered hplaces)).mono ?_ fun _ _ h => h.2.elim)
  rintro _ _ ⟨⟨pool, rfl, hactive, htotal⟩, -⟩
  refine Step.Leads.modify_bind (Step.leads_pure.2 ?_)
  refine .post rfl rfl rfl hactive hk (fun _ _ h => h) ?_ ?_
  · have hpages : b.spanLength id = span.nPages.toNat := by
      unfold Broker.spanLength
      rw [hspan]
      rfl
    rintro ⟨⟩
    case pages => exact hactive
    case places => exact htotal.trans (congrArg _ (hlength.trans hpages.symm))
    all_goals rfl
  · rintro _ _ _ ⟨⟩
    exact ⟨span, hspan⟩

/-! ### The contiguous region -/

namespace Broker

variable {region : ContigRegion} {kernel : Kernel}

/-- Pages that are given up for nothing are lost. -/
theorem Posts.of_advance (hregion : b.contig = some region)
    (hk : kernel.nextFrame = b.kernel.nextFrame) :
    b.Posts { b with kernel, contig := some (Broker.carved region count) } := by
  have hused := contigUsed_eq hregion
  have hcapacity := contigCapacity_eq hregion
  refine ⟨fun hb => ?_, fun hc => ?_⟩
  · exact hb.of_same rfl (fun _ _ => id) fun account => by cases account <;> rfl
  · have hcarved := hc.carved
    have hdrawn := hc.drawn
    refine ⟨?_, ?_⟩
    · show b.trail.sum Event.carved ≤ region.used + count
      omega
    · show region.capacity + b.pages.active ≤ kernel.nextFrame + (region.used + count)
      omega

/-- Pages that got the frames that the region gave up leave the books right. -/
theorem Balances.carve {pages : Pool Page} {firstPage offset : Nat} {journal : Trail JournalLine}
    (hregion : b.contig = some region) (hk : kernel.nextFrame = b.kernel.nextFrame)
    (hp : Brings mapped.isSome count b.pages pages) :
    b.Balances { b with
      kernel, pages, journal
      contig := some (Broker.carved region count)
      trail := (b.trail.record (.pagesAllocated (mapped.map Prod.fst) firstPage count)).record
        (.contigAllocated into offset count) } := by
  have hused := contigUsed_eq hregion
  have hcapacity := contigCapacity_eq hregion
  have hactive := hp.active
  refine ⟨⟨fun hb => ?_, fun hc => ?_⟩, fun he => ?_, fun hnone => by cases hregion ▸ hnone⟩
  · have hrun : Booked { b with
        kernel, pages
        trail := b.trail.record (.pagesAllocated (mapped.map Prod.fst) firstPage count) } :=
      hb.allocate hp
    exact hrun.post rfl (fun _ _ => id) (by rintro ⟨⟩ <;> rfl) nofun
  · have hcarved := hc.carved
    have hdrawn := hc.drawn
    refine ⟨?_, ?_⟩
    · rw [Trail.sum_record, Trail.sum_record]
      show b.trail.sum Event.carved + 0 + count ≤ region.used + count
      omega
    · show region.capacity + pages.active ≤ kernel.nextFrame + (region.used + count)
      omega
  · have hcarved := he.carved
    have hdrawn := he.drawn
    refine ⟨?_, ?_⟩
    · rw [Trail.sum_record, Trail.sum_record]
      show b.trail.sum Event.carved + 0 + count = region.used + count
      omega
    · show region.capacity + pages.active = kernel.nextFrame + (region.used + count)
      omega

end Broker

theorem carveContig_keepsBooks (into : ComponentId) (count : Nat) (align : UInt64) :
    (carveContig into count align).KeepsBooks Failure.Ordinary b := by
  refine Step.Leads.ite (fun _ => KeepsBooks.refuse_bind) fun hc => ?_
  refine Step.leads_bind.2 ((allocateRun_balances hc).mono ?_ fun _ _ => .of_balances)
  rintro _ b₁ ⟨hkept, start, rfl, hpages⟩
  refine KeepsBooks.holdingAll_leads pagePool_balances (fun _ _ _ hclose => hclose.tidy) ?_
  refine Step.leads_bind.2 ((advanceContig_gives hc).mono ?_ ?_)
  swap
  · rintro why b₂ (⟨_, _, rfl⟩ | ⟨rfl, region, ⟨hregion, _, rfl⟩, _⟩)
    · exact .of_balances hkept
    · exact trans_of Broker.Posts hkept.toPosts (.of_advance hregion rfl)
  rintro ⟨first, offset⟩ _ ⟨region, ⟨hregion, _, rfl⟩, _⟩
  refine Step.leads_bind.2 (Step.leads_explain.2 (mapVerified_finds.mono ?_ ?_))
  swap
  · rintro why _ ⟨k, hk, rfl⟩
    cases why with
    | refused defect => exact nofun
    | abort => exact trans_of Broker.Posts hkept.toPosts (.of_advance hregion hk)
  rintro vaddr _ ⟨k, hk, rfl, hfound⟩
  have hposts := publishRun_posts (r := ⟨first, some (into, vaddr), start, count⟩)
    (b := { b₁ with kernel := k, contig := some (Broker.carved region count) }) hc hpages
  refine Step.leads_bind.2 (hposts.mono ?_ fun why b' hstop =>
    absurd (exists_page? (b := { b₁ with kernel := k }) start hfound) hstop)
  rintro head _ ⟨pages, firstPage, hbrings, rfl⟩
  refine Step.Leads.modify_bind (Step.Leads.modify_bind (Step.leads_pure.2 ?_))
  exact trans_of Broker.Balances hkept (.carve hregion hk hbrings)

theorem allocateContiguousShared_keepsBooks (into : ComponentId) (count : Nat) (align : UInt64) :
    (allocateContiguousShared into count align).KeepsBooks Failure.Ordinary b := by
  refine .stays_bind (spanPool_balances.ask Pool.allocate_shuffles) fun slot b₁ _ => ?_
  refine .holding spanPool_balances (.bind (carveContig_keepsBooks _ _ _) fun run b₂ _ => ?_)
  exact (activateSpan_keepsBooks _ _ _).bind fun span b₃ _ => .pure

end CapabilityBroker
