/-
CapabilityBroker/Proofs/Sound/Span.lean

Spans and the contiguous region in sound states.

A span is registered over a run of pages with consecutive frames, and the run
stays as it is, so the checks of a later mapping pass: the records are there,
their indices fit a word, and the frames follow each other.  What is left to
stop the mapping is a page that is mapped as often as it can be, which is
refused, and an address space without room, which aborts.
-/
import CapabilityBroker.Proofs.Advance.Memory
import CapabilityBroker.Proofs.Memory.Frames
import CapabilityBroker.Proofs.Sound.Page

namespace CapabilityBroker

open Kernel (IsFrame Layout)

variable {b b' : Broker} {p : Pool Page} {into : ComponentId} {first : Paddr} {align : UInt64}
  {count : Nat} {off : Prop}

/-! ### Spans -/

/-- A run on record can be made a span. -/
theorem activateSpan_sound {slot : Reservation Span} {head : Handle Page} (h : b.Sound)
    (hslot : b.spans.Holds slot) (hrun : b.HasRun head.index count) :
    (activateSpan slot head count).Leads b (fun span b' => span = slot.index ∧ b'.Sound)
      (Ends False) := by
  refine activateSpan_leads.mono ?_ ?_
  · rintro _ _ ⟨⟨rfl, _⟩, nPages, trail, ⟨hlength, hn⟩, rfl⟩
    have hspans : Broker.Sound
        { b with spans := b.spans.publish slot ⟨head.index, nPages⟩ } := by
      refine h.withSpans rfl fun id span hspan => ?_
      rw [Pool.at?_publish] at hspan
      split at hspan
      · cases Option.some.inj hspan
        exact .inr ⟨hn ▸ hlength.1, hn ▸ hrun⟩
      · exact .inl hspan
    exact ⟨rfl, hspans.of_notes⟩
  · rintro _ _ ⟨⟨_, hlost⟩ | ⟨rfl, _⟩, rfl⟩
    · exact absurd hslot hlost
    · exact .refused h rfl not_false

/-- A run of pages becomes a span, if there is an id for it. -/
theorem spanOf_leads {carve : Operation (Handle Page × Vaddr)} {off' : Prop} (h : b.Sound)
    (hoff : off ↔ b.spans.hasFree = true ∧ off')
    (hcarve : ∀ spans, (spanPool.put spans b).Sound → carve.Leads (spanPool.put spans b)
      (fun answer b' => ¬ off' ∧
        count ≠ 0 ∧ b'.Sound ∧ b'.spans = spans ∧ b'.HasRun answer.1.index count)
      (Ends off')) :
    (spanPool.ask Pool.allocate >>= fun slot => spanPool.holding slot
      (carve >>= fun answer => activateSpan slot answer.1 count >>= fun span =>
        pure (span, answer.2))).Leads b
      (fun answer b' => ¬ off ∧ answer.1 < Pool.capacityLimit ∧ b'.Sound) (Ends off) := by
  rw [hoff]
  refine Step.leads_bind.2 ((spanPool_bears.allocate h).mono ?_ ?_)
  · rintro slot _ ⟨hfree, spans, rfl, hsound, hslot, hle⟩
    -- The index of the slot becomes the number of the span.
    have hfit : slot.index < Pool.capacityLimit := Nat.lt_of_le_of_lt hle hsound.spansFit
    apply spanPool_bears.holding
    refine Step.leads_bind.2 ((hcarve spans hsound).mono ?_ ?_)
    · rintro answer b' ⟨hnot, _, hsound, hspans, hrun⟩
      have hslot' : b'.spans.Holds slot := hspans ▸ hslot
      refine Step.leads_bind.2 ((activateSpan_sound hsound hslot' hrun).mono ?_ ?_)
      · rintro _ b' ⟨rfl, hsound⟩
        exact Step.leads_pure.2 ⟨fun hoff => hnot hoff.2, hfit, hsound⟩
      · rintro why b' ⟨hsound, ⟨_, hfalse⟩ | ⟨hwhy, _⟩⟩
        · exact hfalse.elim
        · exact ⟨hsound, .inr ⟨hwhy, fun hoff => hnot hoff.2⟩⟩
    · rintro why b' ⟨hsound, ⟨hwhy, hoff'⟩ | ⟨hwhy, hnot⟩⟩
      · exact ⟨hsound, .inl ⟨hwhy, hfree, hoff'⟩⟩
      · exact ⟨hsound, .inr ⟨hwhy, fun hoff => hnot hoff.2⟩⟩
  · rintro why b' ⟨hfull, hsound, hwhy⟩
    exact ⟨hsound, .inr ⟨hwhy, fun hoff => hfull hoff.1⟩⟩

theorem allocateShared_leads (h : b.Sound) (hinto : b.hasComponent into = true)
    (ha : pageSize ∣ align.toNat)
    (hoff : off ↔ b.spans.hasFree = true ∧ b.givesPages count = true ∧
      ¬ b.kernel.hasRoom into align count = true) :
    (allocateShared into count align).Leads b
      (fun answer b' => ¬ off ∧ answer.1 < Pool.capacityLimit ∧ b'.Sound) (Ends off) := by
  refine spanOf_leads h hoff fun spans hsound => ?_
  have hinto' : ∀ id, some into = some id → (spanPool.put spans b).hasComponent id = true := by
    rintro _ ⟨⟩
    exact hinto
  refine allocatePages_leads hsound hinto' ha ⟨?_, ?_⟩
  · rintro ⟨hgives, hroom⟩
    exact ⟨hgives, into, rfl, hroom⟩
  · rintro ⟨hgives, _, ⟨⟩, hroom⟩
    exact ⟨hgives, hroom⟩

/-- The spans that must be there from the start are mapped nowhere. -/
theorem allocateSharedAt_leads {id : Nat} (h : b.Sound) (ha : pageSize ∣ align.toNat) :
    (allocateSharedAt id count align).Leads b (fun _ b' => b'.Sound) (Ends False) := by
  refine Step.leads_bind.2 (Part.ask_leads (Pool.allocateAt_holds.mono ?_ ?_))
  · rintro slot spans ⟨_, hreserves, hcapacity, hslot⟩
    have hsound := spanPool_bears.sound b spans h hreserves hcapacity
    apply spanPool_bears.holding
    have hinto : ∀ id, none = some id → (spanPool.put spans b).hasComponent id = true := by
      rintro id ⟨⟩
    have hoff : False ↔ (spanPool.put spans b).givesPages count = true ∧
        ∃ id, none = some id ∧ ¬ b.kernel.hasRoom id align count = true := by
      constructor
      · exact False.elim
      · rintro ⟨_, id, ⟨⟩, _⟩
    refine Step.leads_bind.2 ((allocatePages_leads hsound hinto ha hoff).mono ?_
      fun _ _ hends => hends)
    rintro ⟨head, vaddr⟩ b' ⟨_, _, hsound, hspans, hrun⟩
    have hslot' : b'.spans.Holds slot := hspans ▸ hslot
    exact (activateSpan_sound hsound hslot' hrun).mono (fun _ _ hpost => hpost.2)
      fun _ _ hends => hends
  · rintro why spans ⟨⟨reason, rfl⟩, rfl⟩
    exact .refused h rfl not_false

/-! ### Mapping spans -/

/-- Whether every page of a span can be mapped once more. -/
def Broker.spanHasRoom (b : Broker) (span : Span) : Bool :=
  (List.range span.nPages.toNat).all fun j => (b.pages.at? (span.pageOff + j)).any Page.hasRoom

/-- The first page that cannot be mapped once more is found if there is one. -/
theorem find?_full_eq_none_iff {span : Span} {entries : List (Handle Page × Page)}
    (hlen : entries.length = span.nPages.toNat)
    (hget : ∀ j e, entries[j]? = some e → b.pages.at? (span.pageOff + j) = some e.2) :
    (entries.find? fun e => !e.2.hasRoom) = none ↔ b.spanHasRoom span = true := by
  unfold Broker.spanHasRoom
  rw [List.find?_eq_none, List.all_eq_true]
  constructor
  · intro hroom j hj
    have hlt : j < entries.length := hlen ▸ List.mem_range.1 hj
    have hfull := hroom _ (List.getElem_mem hlt)
    rw [hget j _ (List.getElem?_eq_getElem hlt), Option.any_some]
    simpa using hfull
  · intro hroom e he
    obtain ⟨j, hj, rfl⟩ := List.mem_iff_getElem.1 he
    have hany := hroom j (List.mem_range.2 (hlen ▸ hj))
    rw [hget j _ (List.getElem?_eq_getElem hj), Option.any_some] at hany
    simpa using hany

/-- Consecutive frames pass the check. -/
theorem checkFrames_sound {span pageOff i : Nat} {entries : List (Handle Page × Page)}
    (h : FramesFrom first entries i) :
    (checkFrames span pageOff first entries i).Leads b (fun _ b' => b' = b)
      (fun _ _ => False) := by
  induction entries generalizing i with
  | nil => exact Step.leads_pure.2 rfl
  | cons e entries ih =>
    obtain ⟨hframe, hrest⟩ := h
    unfold checkFrames
    rw [hframe]
    refine Step.Leads.exact_bind ?_ nofun
    rintro _ ⟨⟩
    rw [if_pos rfl]
    exact ih hrest

theorem Broker.Sound.addMapping (h : b.Sound) (page : Handle Page) (m : Mapping) :
    ({ b with pages := b.pages.modify page (·.addMapping m) } : Broker).Sound := by
  refine h.withPages (Pool.capacity_modify _ _) (h.pages.modify _ _) ?_ fun i record hrecord => ?_
  · rw [Pool.lowWater_modify]
    exact h.accounted
  · have hmoves : b.pages.Moves (Page.Gains fun _ => True) (fun _ => True)
        (b.pages.modify page (·.addMapping m)) :=
      .modify fun o => ⟨[m], rfl, fun _ _ => trivial⟩
    obtain ⟨_, ⟨more, rfl, _⟩, hat⟩ := hmoves.at? hrecord
    exact ⟨_, hat, rfl⟩

theorem placePages_sound {vaddr : Vaddr} {entries : List (Handle Page × Page)} {i : Nat}
    (h : b.Sound) (hbelow : vaddr.toNat + (i + entries.length) * pageSize < UInt64.size) :
    (placePages into vaddr entries i).Leads b (fun _ b' => b'.Sound) (fun _ _ => False) := by
  induction entries generalizing b i with
  | nil => exact Step.leads_pure.2 h
  | cons e entries ih =>
    rw [List.length_cons] at hbelow
    have hmul : i * pageSize ≤ (i + (entries.length + 1)) * pageSize :=
      Nat.mul_le_mul_right _ (Nat.le_add_right _ _)
    obtain ⟨place, hplace⟩ := Vaddr.exists_addPages
      (Nat.lt_of_le_of_lt (Nat.add_le_add_left hmul _) hbelow)
    have hnext : i + 1 + entries.length = i + (entries.length + 1) := by omega
    apply Step.leads_bind.2
    unfold placePage
    rw [hplace]
    refine Step.Leads.exact_bind ?_ nofun
    rintro _ ⟨⟩
    exact Step.leads_modify.2 (ih (h.addMapping _ _) (hnext ▸ hbelow))

/-- The pages of a span on record all have entries, and the entries are found to
have consecutive frames. -/
theorem Broker.Sound.exists_entries {id : Nat} {span : Span} (h : b.Sound)
    (hspan : b.spans.at? id = some span) :
    ∃ n handle head rest, n + span.nPages.toNat ≤ b.kernel.nextFrame ∧ IsFrame n head.frame ∧
      pagesFrom? b.pages span.nPages.toNat span.pageOff = some ((handle, head) :: rest) ∧
      rest.length + 1 = span.nPages.toNat ∧
      (((handle, head) :: rest).find? (fun e => !e.2.hasRoom) = none ↔
        b.spanHasRoom span = true) ∧
      FramesFrom head.frame ((handle, head) :: rest) 0 := by
  obtain ⟨hne, n, hend, hrun⟩ := h.spans id span hspan
  have hphys : b.kernel.nextFrame ≤ Layout.standard.physFrames := h.kernel.frames
  obtain ⟨entries, hentries⟩ := exists_pagesFrom? (p := b.pages)
    fun j hj => (hrun j hj).imp fun _ hpage => hpage.1
  obtain ⟨hlen, hentered⟩ := pagesFrom?_eq_some hentries
  have hget : ∀ j e, entries[j]? = some e → b.pages.at? (span.pageOff + j) = some e.2 :=
    fun j e he => Pool.at?_eq_some (hentered j e he).1
  have hframe : ∀ j e, entries[j]? = some e →
      j < span.nPages.toNat ∧ IsFrame (n + j) e.2.frame := by
    intro j e he
    have hj : j < entries.length := (List.getElem?_eq_some_iff.1 he).1
    obtain ⟨page, hpage, hframe⟩ := hrun j (hlen ▸ hj)
    cases Option.some.inj (hpage.symm.trans (hget j e he))
    exact ⟨hlen ▸ hj, hframe⟩
  have hfull := find?_full_eq_none_iff hlen hget
  -- A span on record has a head.
  cases entries with
  | nil => exact absurd hlen.symm hne
  | cons e rest =>
    obtain ⟨handle, head⟩ := e
    have hfirst : IsFrame n head.frame := (hframe 0 _ rfl).2
    refine ⟨n, handle, head, rest, hend, hfirst, hentries, hlen, hfull, ?_⟩
    refine framesFrom_iff.2 fun j e he => ?_
    obtain ⟨hj, hj'⟩ := hframe j e he
    rw [Nat.zero_add]
    exact hfirst.addPages_eq (by omega) hj'

/-- The records of a span end below the low-water mark, and there are no more
of them than frames. -/
theorem Broker.Sound.span_fits {id : Nat} {span : Span} (h : b.Sound)
    (hspan : b.spans.at? id = some span) : span.pageOff + span.nPages.toNat < UInt32.size := by
  obtain ⟨hne, n, _, hrun⟩ := h.spans id span hspan
  obtain ⟨rest, hrest⟩ := Nat.exists_eq_succ_of_ne_zero hne
  obtain ⟨page, hpage, _⟩ := hrun rest (by omega)
  have hlast := h.pages.lt_of_at? hpage
  have haccounted := h.accounted
  have hnext : b.kernel.nextFrame ≤ Layout.standard.physFrames := h.kernel.frames
  have hphys : Layout.standard.physFrames + 1 < UInt32.size := by decide
  omega

/-- A span on record can be mapped if all of its pages have room for one more
mapping, and the mapping aborts if the address space has none. -/
theorem mapSpan_leads {id : Nat} (h : b.Sound) (hinto : b.hasComponent into = true)
    (ha : pageSize ∣ align.toNat)
    (hoff : off ↔ ∃ span, b.spans.at? id = some span ∧ b.spanHasRoom span = true ∧
      ¬ b.kernel.hasRoom into align span.nPages.toNat = true) :
    (mapSpan id into align).Leads b
      (fun answer b' => ¬ off ∧ answer.1 < UInt32.size ∧ b'.Sound) (Ends off) := by
  rw [hoff]
  refine Step.leads_bind.2 (Step.Leads.get_bind (Step.leads_require.2 ⟨fun span hspan => ?_, ?_⟩))
  · obtain ⟨n, handle, head, rest, hend, hfirst, hentries, hlen, hfull, hframes⟩ :=
      h.exists_entries hspan
    refine Step.Leads.exact_bind (fun _ _ => Step.Leads.get_bind ?_) fun hnone => ?_
    -- The records are there.
    · rw [hentries]
      refine Step.Leads.require_bind ?_ nofun
      rintro _ ⟨⟩
      dsimp only
      split
      -- A page that is full is found before anything is mapped.
      · next full _ hfind =>
        refine Step.leads_refuse.2 (.refused h rfl ?_)
        rintro ⟨_, hspan', hroom, _⟩
        cases Option.some.inj (hspan.symm.trans hspan')
        cases hfind.symm.trans (hfull.2 hroom)
      · next hfind =>
        have hpages := hfull.1 hfind
        refine Step.leads_bind.2 ((checkFrames_sound hframes).mono ?_ fun _ _ => False.elim)
        rintro _ b₁ hb₁
        rw [hb₁, List.length_cons, hlen]
        -- The mapping, and then a note on every page.
        have hmap := mapVerified_sound h.kernel (h.known into hinto) hfirst hend ha
        refine Step.leads_bind.2 (Step.leads_explain.2 (hmap.mono ?_ ?_))
        · rintro vaddr b₂ ⟨hroom, hbelow, hdrives, _⟩
          refine Step.leads_bind.2 ((placePages_sound (hdrives.sound h) ?_).mono ?_
            fun _ _ => False.elim)
          · rwa [Nat.zero_add, List.length_cons, hlen]
          rintro _ b₃ h₃
          refine Step.Leads.modify_bind (Step.leads_pure.2 ⟨?_, span.nPages.toNat_lt, h₃.of_notes⟩)
          rintro ⟨_, hspan', _, hnone⟩
          cases Option.some.inj (hspan.symm.trans hspan')
          exact hnone hroom
        · rintro why b₂ ⟨hroom, rfl, hdrives⟩
          exact ⟨hdrives.sound h, .inl ⟨rfl, span, hspan, hpages, hroom⟩⟩
    · rw [word32?_eq_none_iff] at hnone
      exact absurd (h.span_fits hspan) (Nat.not_lt.2 hnone)
  · intro hnone
    refine .refused h rfl ?_
    rintro ⟨span, hspan, _⟩
    cases hnone.symm.trans hspan

/-! ### The contiguous region -/

/-- The region changes, within the frames handed out. -/
theorem Broker.Sound.withContig {region : ContigRegion} (h : b.Sound) (hregion : b.Holds region)
    (haccounted : b.pages.lowWater + (region.capacity - region.used) ≤ b.kernel.nextFrame + 1) :
    ({ b with contig := some region } : Broker).Sound where
  kernel := h.kernel
  known := h.known
  componentsFit := h.componentsFit
  pagesFit := h.pagesFit
  spansFit := h.spansFit
  pages := h.pages
  contig := by
    rintro _ ⟨⟩
    exact hregion
  accounted := haccounted
  spans := h.spans

theorem Broker.contigLeft_eq {region : ContigRegion} (h : b.contig = some region) :
    b.contigLeft = region.capacity - region.used := by
  unfold contigLeft contigCapacity contigUsed
  rw [h]
  rfl

theorem Broker.contigLeft_of_none (h : b.contig = none) : b.contigLeft = 0 := by
  unfold contigLeft contigCapacity
  rw [h]
  exact Nat.zero_sub _

/-- The region advances if enough of it is left. -/
theorem advanceContig_leads (h : b.Pending p count) (hc : count ≠ 0) :
    (advanceContig count).Leads b
      (fun carved b' => count ≤ b.contigLeft ∧
        (b'.Pending p count ∧ b'.contigLeft + count = b.contigLeft) ∧
        (∃ n, IsFrame n carved.1 ∧ n + count ≤ b'.kernel.nextFrame) ∧
        b' = { b with contig := b'.contig })
      (fun why b' => ¬ count ≤ b.contigLeft ∧ why.Ordinary ∧ b' = b) := by
  refine (advanceContig_gives hc).mono ?_ ?_
  · rintro ⟨first, _⟩ _ ⟨region, ⟨hregion, hroom, rfl⟩, hfirst, _⟩
    have hleft := Broker.contigLeft_eq hregion
    have hholds : b.Holds region := h.sound.contig region hregion
    obtain ⟨n, hend, hframe⟩ := hholds.2 (by omega)
    -- The region keeps its base, so that it stays within the frames handed out.
    have hholds' : b.Holds (Broker.carved region count) := ⟨hroom, fun _ => ⟨n, hend, hframe⟩⟩
    have haccounted := h.accounted
    have hle : count ≤ region.capacity - region.used := by omega
    refine ⟨hleft ▸ hle, ⟨⟨?_, h.pages⟩, ?_⟩, ⟨n + region.used, ?_, ?_⟩, rfl⟩
    · apply h.sound.withContig hholds'
      show p.lowWater + (region.capacity - (region.used + count)) ≤ b.kernel.nextFrame + 1
      omega
    · rw [hleft]
      show region.capacity - (region.used + count) + count = _
      omega
    · exact hframe.of_addPages hfirst
    · show n + region.used + count ≤ b.kernel.nextFrame
      omega
  · rintro why b' (⟨rfl, hfull, rfl⟩ | ⟨_, region, ⟨hregion, hroom, _⟩, hnone⟩)
    · refine ⟨?_, .refused rfl, rfl⟩
      unfold Broker.contigLeft
      omega
    -- The frames of the region were handed out, so they have addresses.
    · have hholds : b.Holds region := h.sound.contig region hregion
      obtain ⟨n, hend, hframe⟩ := hholds.2 (by omega)
      have hnext : b.kernel.nextFrame ≤ Layout.standard.physFrames := h.kernel.frames
      obtain ⟨first, hfirst⟩ := hframe.addPages (j := region.used) (by omega)
      cases hfirst.symm.trans hnone

/-- Whether there are records for `count` pages, and enough of the region is
left. -/
def Broker.givesContig (b : Broker) (count : Nat) : Bool :=
  count != 0 && b.pages.hasRun count && count ≤ b.contigLeft

theorem Broker.givesContig_iff : b.givesContig count = true ↔
    (count ≠ 0 ∧ b.pages.hasRun count = true) ∧ count ≤ b.contigLeft := by
  unfold givesContig
  rw [Bool.and_eq_true, Bool.and_eq_true, bne_iff_ne, decide_eq_true_eq]

/-- Carving comes to the mapping if there are records for the pages and enough
of the region is left, and aborts there if there is no room. -/
theorem carveContig_leads (h : b.Sound) (hinto : b.hasComponent into = true)
    (ha : pageSize ∣ align.toNat)
    (hoff : off ↔ b.givesContig count = true ∧ ¬ b.kernel.hasRoom into align count = true) :
    (carveContig into count align).Leads b
      (fun answer b' => ¬ off ∧
        count ≠ 0 ∧ b'.Sound ∧ b'.spans = b.spans ∧ b'.HasRun answer.1.index count)
      (Ends off) := by
  rw [hoff, Broker.givesContig_iff]
  refine Step.Leads.ite (fun h0 => Step.Leads.refuse_bind ?_) fun hc => ?_
  · exact .refused h rfl fun hoff => hoff.1.1.1 h0
  -- The records are kept.
  refine Step.leads_bind.2 ((keepPages_leads h hc).mono ?_ ?_)
  · rintro _ b₁ ⟨rfl, ⟨hrun, _⟩, hpending, hrest⟩
    have hkernel : b.kernel = b₁.kernel := (congrArg Broker.kernel hrest).trans rfl
    have hspans : b.spans = b₁.spans := (congrArg Broker.spans hrest).trans rfl
    have hleft : b.contigLeft = b₁.contigLeft := (congrArg Broker.contigLeft hrest).trans rfl
    have hknown : b₁.kernel.hasComponent into = true := hkernel ▸ h.known into hinto
    have haccounted := hpending.accounted
    rw [hkernel, hspans, hleft]
    apply holdingAll_leads hc
    -- The frames come from the region, which has accounted for them already.
    refine Step.leads_bind.2 ((advanceContig_leads hpending hc).mono ?_ ?_)
    · rintro ⟨first, offset⟩ b₂ ⟨hle, ⟨hpending₂, hleft₂⟩, ⟨n, hfirst, hend⟩, hb₂⟩
      have hkernel₂ : b₂.kernel = b₁.kernel := (congrArg Broker.kernel hb₂).trans rfl
      have hspans₂ : b₂.spans = b₁.spans := (congrArg Broker.spans hb₂).trans rfl
      rw [← hkernel₂] at hknown haccounted ⊢
      -- The mapping, the only place where carving can abort.
      have hmap := mapVerified_sound hpending₂.kernel hknown hfirst hend ha
      refine Step.leads_bind.2 (Step.leads_explain.2 (hmap.mono ?_ ?_))
      · rintro vaddr b₃ ⟨hroom, hbelow, hd₃, hnext₃⟩
        have hleft₃ : b₃.contigLeft = b₂.contigLeft := by
          rw [hd₃.rest]
          rfl
        refine Step.leads_bind.2 ((publishRun_sound (hpending₂.drives hd₃) hc hfirst
          (by omega) (by omega) (placeOf?_of_below hbelow)).mono ?_ fun _ _ => False.elim)
        rintro head b₄ ⟨hsound, hspans₄, hrun₄⟩
        refine Step.Leads.modify_bind (Step.Leads.modify_bind (Step.leads_pure.2 ?_))
        refine ⟨fun hoff => hoff.2 hroom, hc, hsound.of_notes, ?_, hrun₄⟩
        show b₄.spans = b₁.spans
        rw [hspans₄, hd₃.rest, ← hspans₂]
      · rintro why b₃ ⟨hroom, rfl, hd₃⟩
        exact ⟨hpending₂.drives hd₃, .inl ⟨rfl, ⟨⟨hc, hrun⟩, hle⟩, hroom⟩⟩
    · rintro why _ ⟨hle, hwhy, rfl⟩
      exact ⟨hpending, .inr ⟨hwhy, fun hoff => hle hoff.1.2⟩⟩
  · rintro why b' ⟨hrun, hwhy, hsound⟩
    exact ⟨hsound, .inr ⟨hwhy, fun hoff => hrun hoff.1.1.2⟩⟩

theorem allocateContiguousShared_leads (h : b.Sound) (hinto : b.hasComponent into = true)
    (ha : pageSize ∣ align.toNat)
    (hoff : off ↔ b.spans.hasFree = true ∧ b.givesContig count = true ∧
      ¬ b.kernel.hasRoom into align count = true) :
    (allocateContiguousShared into count align).Leads b
      (fun answer b' => ¬ off ∧ answer.1 < Pool.capacityLimit ∧ b'.Sound) (Ends off) :=
  spanOf_leads h hoff fun _ hsound => carveContig_leads hsound hinto ha Iff.rfl

end CapabilityBroker
