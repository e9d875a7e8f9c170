/-
CapabilityBroker/Proofs/Admission.lean

Memory is granted while it lasts.

In every state of every run the pages on record are numbered from one on without a
gap, and no slot of the span pool is lost: every request that was refused, and every
one that stopped half way, left the pools as it found them.  So on a machine
without faults there is nothing to be found out by trying.  Whether a request for
memory is refused can be told from four numbers: the pages and the spans on record,
the frames handed out, and the pages carved off the contiguous region.  What one that
is answered has done to the heaps is said beside it (`Broker.Delivers`).
-/
import CapabilityBroker.Proofs.Awards
import CapabilityBroker.Proofs.Memory.Admission
import CapabilityBroker.Proofs.Whole

namespace CapabilityBroker

open Step (Stays StaysFrom)

variable {b b' : Broker} {settings : Settings} {α : Type} {needs fits : Prop}

namespace Service

variable {image : Image} {i : Invocation} {count : UInt64} {align : Option UInt64}

/-! ### Requests -/

/-- A request needs a caller on record. -/
theorem acting_decides {f : ComponentId → Operation α} {post : α → Broker → Prop}
    {left : Broker → Prop} (hleft : left b)
    (hf : b.hasComponent i.caller = true → (f i.caller).Decides b needs fits post left) :
    (acting i >>= f).Decides b (b.hasComponent i.caller = true ∧ needs) fits post left := by
  refine acting_leads_bind (fun hnot => ⟨fun hneeds => hnot hneeds.1, hleft⟩) fun hcaller => ?_
  exact (hf hcaller).congr (iff_and_self.2 fun _ => hcaller) Iff.rfl

/-- It needs an alignment that may be asked for. -/
theorem alignment_decides {f : UInt64 → Operation α} {post : α → Broker → Prop}
    {left : Broker → Prop} (hleft : left b)
    (hf : pageSize ∣ (align.getD 4096).toNat →
      (f (align.getD 4096)).Decides b needs fits post left) :
    (alignment align >>= f).Decides b (aligns align = true ∧ needs) fits post left := by
  refine alignment_leads_bind (fun hnot => ⟨fun hneeds => hnot hneeds.1, hleft⟩) ?_
  exact fun haligns hdvd => (hf hdvd).congr (iff_and_self.2 fun _ => haligns) Iff.rfl

/-- The id of a span fits its word in the reply. -/
theorem spanReply_decides {s : Operation (Nat × Vaddr)} {award : Vaddr → Award}
    {request : Request}
    (h : s.Decides b needs fits
      (fun answer b' => answer.1 < Pool.capacityLimit ∧
        b.Delivers settings (some (award answer.2)) b')
      (b.Delivers settings none))
    (hrequest : ∀ span vaddr, request.award? i.caller (.span span vaddr) = some (award vaddr)) :
    (finishing (s >>= spanReply)).Decides b needs fits
      (fun progress => b.Delivers settings (progress.award? i request))
      (b.Delivers settings none) := by
  refine .map (h.certain_bind ?_)
  rintro ⟨span, vaddr⟩ b' ⟨hsmall, hdelivers⟩
  refine Step.Leads.exact_bind (fun id _ => Step.leads_pure.2 ?_) fun hnone => ?_
  · show b.Delivers settings (request.award? i.caller (.span id vaddr)) b'
    rw [hrequest]
    exact hdelivers
  · exact Nat.not_le.2 hsmall (word32?_eq_none_iff.1 hnone)

theorem heapPages_decide (image : Image) (i : Invocation) (count : UInt64)
    (align : Option UInt64) (h : b.Tight settings) (hq : b.Quiet) (hh : b.Homed) :
    (perform image i (.allocateHeapPages count align)).Decides b
      (b.hasComponent i.caller = true ∧ aligns align = true ∧
        (1 ≤ count.toNat ∧ b.pages.active + count.toNat ≤ b.pages.capacity) ∧
          b.kernel.nextFrame + count.toNat ≤ b.kernel.layout.physFrames)
      (b.kernel.Addresses (b.kernel.nextFrame + count.toNat) i.caller (align.getD 4096)
        count.toNat)
      (fun progress => b.Delivers settings (progress.award? i (.allocateHeapPages count align)))
      (b.Delivers settings none) := by
  refine .map (.map (acting_decides h.delivers fun hcaller =>
    alignment_decides h.delivers fun ha => ?_))
  refine Step.leads_bind.2 ((allocatePages_decides h.toStacked hq (exists_space hh hcaller)
    ha).mono ?_ fun _ _ hstop => ⟨hstop.1, hstop.2.delivers h⟩)
  exact fun _ _ hdone => Step.leads_pure.2 ⟨hdone.1, hdone.2.delivers h⟩

theorem sharedPages_decide (image : Image) (i : Invocation) (count : UInt64)
    (align : Option UInt64) (h : b.Tight settings) (hq : b.Quiet) (hh : b.Homed) :
    (perform image i (.allocateSharedPages count align)).Decides b
      (b.hasComponent i.caller = true ∧ aligns align = true ∧
        ((1 ≤ count.toNat ∧ b.pages.active + count.toNat ≤ b.pages.capacity) ∧
          b.kernel.nextFrame + count.toNat ≤ b.kernel.layout.physFrames) ∧
        b.spans.active < b.spans.capacity)
      (b.kernel.Addresses (b.kernel.nextFrame + count.toNat) i.caller (align.getD 4096)
        count.toNat)
      (fun progress => b.Delivers settings (progress.award? i (.allocateSharedPages count align)))
      (b.Delivers settings none) :=
  spanReply_decides (acting_decides h.delivers fun hcaller => alignment_decides h.delivers
    fun ha => allocateShared_decides h hq (exists_space hh hcaller) ha) fun _ _ => rfl

theorem contiguousPages_decide (image : Image) (i : Invocation) (count : UInt64)
    (h : b.Tight settings) (hq : b.Quiet) (hh : b.Homed) (hbounded : b.Bounded) :
    (perform image i (.allocateContiguousPages count)).Decides b
      (b.hasComponent i.caller = true ∧
        (1 ≤ count.toNat ∧ b.pages.active + count.toNat ≤ b.pages.capacity) ∧
          b.contigUsed + count.toNat ≤ b.contigCapacity)
      (b.kernel.Addresses b.kernel.nextFrame i.caller 4096 count.toNat)
      (fun progress => b.Delivers settings (progress.award? i (.allocateContiguousPages count)))
      (b.Delivers settings none) := by
  refine .map (.map (acting_decides h.delivers fun hcaller => .map ?_))
  exact (carveContig_decides h.toStacked hq hbounded (exists_space hh hcaller) (by decide)).mono
    (fun _ _ hdone => ⟨hdone.1, hdone.2.delivers h⟩) fun _ _ hstop => ⟨hstop.1, hstop.2.delivers h⟩

theorem contiguousShared_decide (image : Image) (i : Invocation) (count : UInt64)
    (align : Option UInt64) (h : b.Tight settings) (hq : b.Quiet) (hh : b.Homed)
    (hbounded : b.Bounded) :
    (perform image i (.allocateContiguousShared count align)).Decides b
      (b.hasComponent i.caller = true ∧ aligns align = true ∧
        ((1 ≤ count.toNat ∧ b.pages.active + count.toNat ≤ b.pages.capacity) ∧
          b.contigUsed + count.toNat ≤ b.contigCapacity) ∧
        b.spans.active < b.spans.capacity)
      (b.kernel.Addresses b.kernel.nextFrame i.caller (align.getD 4096) count.toNat)
      (fun progress =>
        b.Delivers settings (progress.award? i (.allocateContiguousShared count align)))
      (b.Delivers settings none) :=
  spanReply_decides (acting_decides h.delivers fun hcaller => alignment_decides h.delivers
    fun ha => allocateContiguousShared_decides h hq hbounded (exists_space hh hcaller) ha)
    fun _ _ => rfl

/-! ### In a run -/

/-- Whatever is asked for leaves the pools in order. -/
theorem perform_tight (image : Image) (i : Invocation) (request : Request)
    (h : b.Tight settings) (hq : b.Quiet) (hh : b.Homed) (hbounded : b.Bounded) :
    (perform image i request).Leads b (fun _ => Broker.Tight settings)
      (fun _ => Broker.Tight settings) := by
  have hends : ∀ {s : Operation (Progress Reply)} {needs fits : Prop}
      {award : Progress Reply → Option Award},
      s.Decides b needs fits (fun progress => b.Delivers settings (award progress))
        (b.Delivers settings none) →
          s.Leads b (fun _ => Broker.Tight settings) fun _ => Broker.Tight settings :=
    fun hs => hs.mono (fun _ _ hdone => hdone.2.toTight) fun _ _ hstop => hstop.2.toTight
  have hkept : ∀ {s : Operation (Progress Reply)}, s.StaysFrom (Broker.KeepsTight settings) b →
      s.Leads b (fun _ => Broker.Tight settings) fun _ => Broker.Tight settings :=
    fun hs => hs.mono (fun _ _ hkeeps => hkeeps h) fun _ _ hkeeps => hkeeps h
  by_cases hobjects : isAboutObjects request = true
  · refine hkept ((perform_objects image i hobjects b).mono ?_ ?_)
    · exact fun _ _ hm h => h.of_same hm.pages hm.spans hm.kernel.nextFrame
    · exact fun _ _ hm h => h.of_same hm.pages hm.spans hm.kernel.nextFrame
  cases request with
  | allocateHeapPages count align => exact hends (heapPages_decide image i count align h hq hh)
  | allocateSharedPages count align => exact hends (sharedPages_decide image i count align h hq hh)
  | allocateContiguousPages count =>
    exact hends (contiguousPages_decide image i count h hq hh hbounded)
  | allocateContiguousShared count align =>
    exact hends (contiguousShared_decide image i count align h hq hh hbounded)
  | translate vaddr =>
    exact hkept (.map (.map (acting_bind (translate_stays _ _ b))))
  | mapPhysicalRegion paddr size =>
    exact hkept (.map (.map (acting_bind (mapPhysical_counts kernelPart_tight _ _ _ b))))
  | mapSharedSpan span align =>
    refine hkept (.map (Stays.bind (fun b => acting_bind ?_) mappedReply_stays b))
    exact alignment_bind (fun _ _ => mapSpan_tight _ _ _) b
  | mapSharedSpanInVm vm span align =>
    refine hkept (.map (Stays.bind (fun b => ?_) mappedReply_stays b))
    refine knownComponent_bind fun _ _ => ?_
    exact .ite (fun _ => deny_noted tight_places.toAdmitsNotes _ _ b) fun _ =>
      alignment_bind (fun _ _ => mapSpan_tight _ _ _) b
  | _ => exact absurd rfl hobjects

/-- So does whatever happens. -/
theorem Action.tight (image : Image) (action : Action) (h : b.Tight settings) (hq : b.Quiet)
    (hh : b.Homed) (hbounded : b.Bounded) : (action.after image b).Tight settings := by
  have hobjects : ∀ {b'}, b.ObjectMove machinesOnly b' → b'.Tight settings :=
    fun hm => h.of_same hm.pages hm.spans hm.kernel.nextFrame
  cases action with
  | request i request =>
    have hperform : (perform image i request).StaysFrom (Broker.KeepsTight settings) b :=
      (perform_tight image i request h hq hh hbounded).mono (fun _ _ h _ => h) fun _ _ h _ => h
    exact (dispatch_staysFrom_of (fun _ _ => tight_places.log _ _) hperform).final h
  | parallelInit core isInitCore => exact hobjects (parallelInit_objects image _ _ b).final
  | parallelMain core => exact hobjects (parallelMain_objects image _ b).final

variable {s : Setting}

/-- The pools are made in order. -/
theorem makePools_tight {ε : Type} (settings : Settings) (hcountable : b.kernel.Countable) :
    (makePools settings : Step Broker ε Unit).Leads b (fun _ => Broker.Tight settings)
      (fun _ _ => True) := by
  refine (makePools_leads settings).mono ?_ fun _ _ _ => trivial
  rintro _ _ ⟨components, threads, rcvs, asnds, pages, spans, rfl, -, -, -, -, hpages, hspans⟩
  obtain ⟨hsmall, rfl⟩ := Pool.create?_eq_some_iff.1 hpages
  obtain ⟨hfit, rfl⟩ := Pool.create?_eq_some_iff.1 hspans
  exact ⟨⟨Pool.packed_create _ _, hsmall, hcountable⟩, rfl, Pool.settled_create _ _, rfl, hfit⟩

/-- The start leaves the pools in order. -/
theorem boot_tight (settings : Settings) (manifest : Manifest) (hcountable : b.kernel.Countable) :
    (boot settings manifest).Leads b (fun _ => Broker.Tight settings) (fun _ _ => True) := by
  have hanswers : ∀ {ε α : Type} {s : Step Broker ε α},
      (∀ b, b.Tight settings → s.Leads b (fun _ => Broker.Tight settings) fun _ _ => True) →
        Step.Answers (Broker.KeepsTight settings) s := fun hs b =>
    (Step.Leads.given (hs b)).mono (fun _ _ => id) fun _ _ _ => trivial
  have hmake : ∀ journal, (makePools settings : Step Broker Defect Unit).Leads { b with journal }
      (fun _ => Broker.Tight settings) (fun _ _ => True) :=
    fun journal => makePools_tight settings hcountable
  have hobjects : ∀ b b' : Broker, b.ObjectMove (Replays manifest) b' →
      Broker.KeepsTight settings b b' :=
    fun _ _ hm h => h.of_same hm.pages hm.spans hm.kernel.nextFrame
  have hspans : ∀ region, Step.Answers (Broker.KeepsTight settings) (setAside region) := by
    refine fun region => hanswers fun b h => Step.leads_bind.2 (Step.leads_explain.2 ?_)
    refine (allocateSharedAt_tight h).mono (fun _ b' h' => ?_) fun _ _ _ => trivial
    exact Step.leads_modify.2 (h'.of_same rfl rfl rfl)
  have hcontig : Step.Answers (Broker.KeepsTight settings)
      (initContig settings.selfId settings.contigPages.toNat) :=
    hanswers fun b h => initContig_tight h
  have hboot := boot_keeps hmake (admitsBoot_of_moves settings manifest hobjects hspans hcontig)
  refine hboot.mono ?_ fun _ _ _ => trivial
  rintro image b' ⟨_, made, hmade, hkeeps⟩
  exact hkeeps hmade

/-- Where no fault is planned, the pools are in order in every state of a run. -/
theorem Reached.tight (h : Reached s image b) (hfaults : s.faults = []) : b.Tight s.settings := by
  induction h with
  | @boot kernel b created booted =>
    have hcountable : kernel.Countable := by
      obtain ⟨space, _, rfl⟩ := Option.map_eq_some_iff.1 created
      show 0 * pageSize < _
      rw [Nat.zero_mul]
      exact Nat.add_pos_left (by decide) _
    exact (boot_tight (b := .create kernel) s.settings s.manifest hcountable).of_ok booted
  | @act b action before ih =>
    obtain ⟨horderly, hhomed, hquiet⟩ := before.orderly
    exact action.tight image ih (hquiet hfaults) hhomed horderly.accounted.bounded

/-! ### Verdicts -/

/-- The request is refused exactly if it is not admitted, and answered exactly if it is
admitted and its numbers fit their words. -/
structure Verdict (image : Image) (i : Invocation) (request : Request) (b : Broker)
    (admits fits : Prop) : Prop where
  answered : answers image i request b = true ↔ admits ∧ fits
  refused : (∃ failure b', perform image i request b = .error (.refused failure) b') ↔ ¬ admits

theorem Verdict.of_decides {request : Request} {post : Progress Reply → Broker → Prop}
    {left : Broker → Prop} (h : (perform image i request).Decides b needs fits post left) :
    Verdict image i request b needs fits := by
  rcases h.ends with ⟨progress, hend, hboth, -⟩ | ⟨why, hend, hlacks, -⟩
  · have hanswers : answers image i request b = true := by
      unfold answers
      rw [hend]
    refine ⟨iff_of_true hanswers hboth, iff_of_false ?_ (not_not_intro hboth.1)⟩
    rintro ⟨failure, b', hrefused⟩
    cases hend.symm.trans hrefused
  · have hanswers : ¬ answers image i request b = true := by
      unfold answers
      rw [hend]
      exact Bool.false_ne_true
    cases why with
    | refused failure =>
      exact ⟨iff_of_false hanswers fun hboth => hlacks hboth.1,
        iff_of_true ⟨failure, _, hend⟩ hlacks⟩
    | abort =>
      refine ⟨iff_of_false hanswers fun hboth => hlacks.2 hboth.2,
        iff_of_false ?_ (not_not_intro hlacks.1)⟩
      rintro ⟨failure, b', hrefused⟩
      cases hend.symm.trans hrefused

/-- Memory is granted while it lasts.  In every state of every run on a machine without
faults, the pages on record are numbered from one on without a gap.  A component on
record that asks for pages with a valid alignment is refused if and only if it asks for
none, or what it needs is not left: as many slots for pages, as many frames, or, where
the pages are to be contiguous, as many pages of the region, and one slot for a span
where they are to be shared.  Otherwise it is answered, if and only if the addresses
fit: the ends of the frames handed out by then, and of the mapping in its heap. -/
theorem memory_is_granted_while_it_lasts (h : Reached s image b) (hfaults : s.faults = []) :
    (∀ index, (b.pages.at? index).isSome = true ↔ 1 ≤ index ∧ index ≤ b.pages.active) ∧
      ∀ (i : Invocation) (count : UInt64) (align : Option UInt64),
        b.hasComponent i.caller = true → aligns align = true →
        Verdict image i (.allocateHeapPages count align) b
          (1 ≤ count.toNat ∧ b.pages.active + count.toNat ≤ s.settings.maxPages.toNat ∧
            b.kernel.nextFrame + count.toNat ≤ s.layout.physFrames)
          (b.kernel.Addresses (b.kernel.nextFrame + count.toNat) i.caller (align.getD 4096)
            count.toNat) ∧
        Verdict image i (.allocateSharedPages count align) b
          (1 ≤ count.toNat ∧ b.pages.active + count.toNat ≤ s.settings.maxPages.toNat ∧
            b.kernel.nextFrame + count.toNat ≤ s.layout.physFrames ∧
            b.spans.active < s.settings.maxSpans.toNat)
          (b.kernel.Addresses (b.kernel.nextFrame + count.toNat) i.caller (align.getD 4096)
            count.toNat) ∧
        Verdict image i (.allocateContiguousPages count) b
          (1 ≤ count.toNat ∧ b.pages.active + count.toNat ≤ s.settings.maxPages.toNat ∧
            b.contigUsed + count.toNat ≤ b.contigCapacity)
          (b.kernel.Addresses b.kernel.nextFrame i.caller 4096 count.toNat) ∧
        Verdict image i (.allocateContiguousShared count align) b
          (1 ≤ count.toNat ∧ b.pages.active + count.toNat ≤ s.settings.maxPages.toNat ∧
            b.contigUsed + count.toNat ≤ b.contigCapacity ∧
            b.spans.active < s.settings.maxSpans.toNat)
          (b.kernel.Addresses b.kernel.nextFrame i.caller (align.getD 4096) count.toNat) := by
  have htight := h.tight hfaults
  obtain ⟨horderly, hh, hquiet⟩ := h.orderly
  have hq := hquiet hfaults
  have hbounded := horderly.accounted.bounded
  refine ⟨fun index => htight.packed.isSome_at?_iff, fun i count align hcaller ha => ?_⟩
  have hheap := heapPages_decide image i count align htight hq hh
  have hshared := sharedPages_decide image i count align htight hq hh
  have hcontig := contiguousPages_decide image i count htight hq hh hbounded
  have hcontigShared := contiguousShared_decide image i count align htight hq hh hbounded
  simp only [hcaller, ha, htight.pageCount, htight.spanCount, h.layout, true_and, and_assoc]
    at hheap hshared hcontig hcontigShared
  exact ⟨.of_decides hheap, .of_decides hshared, .of_decides hcontig, .of_decides hcontigShared⟩

/-- Of a region of 64 pages, 60 were carved off: four more are granted, and not five. -/
theorem region_of_sixty_four_pages_runs_out :
    ∃ image b, Reached .ordinary image b ∧ b.contigUsed = 60 ∧
      answers image ⟨⟨7⟩, ⟨0⟩⟩ (.allocateContiguousPages 4) b = true ∧
      ∃ failure b', perform image ⟨⟨7⟩, ⟨0⟩⟩ (.allocateContiguousPages 5) b =
        .error (.refused failure) b' := by
  have hrun : (Setting.ordinary.run [.request ⟨⟨5⟩, ⟨0⟩⟩ (.allocateContiguousPages 60)]).any
      (fun p => p.2.contigUsed = 60 && (p.2.contigCapacity = 64 && (p.2.pages.active ≤ 100 &&
        (p.2.hasComponent ⟨7⟩ &&
          p.2.kernel.Addresses p.2.kernel.nextFrame ⟨7⟩ 4096 4)))) = true := by decide +kernel
  obtain ⟨image, b, h, hshows⟩ := exists_reached hrun
  simp only [Bool.and_eq_true, decide_eq_true_eq] at hshows
  obtain ⟨hused, hcapacity, hactive, hcaller, hfits⟩ := hshows
  obtain ⟨_, hverdicts⟩ := memory_is_granted_while_it_lasts h rfl
  have hfour := (hverdicts ⟨⟨7⟩, ⟨0⟩⟩ 4 none hcaller (by decide)).2.2.1
  have hfive := (hverdicts ⟨⟨7⟩, ⟨0⟩⟩ 5 none hcaller (by decide)).2.2.1
  rw [hused, hcapacity] at hfour hfive
  have hmax : (256 : Nat) = Setting.ordinary.settings.maxPages.toNat := by decide
  refine ⟨image, b, h, hused, hfour.answered.2 ⟨⟨by decide, ?_, by decide⟩, hfits⟩,
    hfive.refused.2 fun hadmits => absurd hadmits.2.2 (by decide)⟩
  rw [← hmax]
  exact Nat.le_trans (Nat.add_le_add_right hactive _) (by decide)

end Service

end CapabilityBroker
