/-
CapabilityBroker/Proofs/Gap/Memory.lean

Operations that map a run, and what becomes of a gap.

Four paths lead to a mapping: fresh pages, pages of the contiguous region, a span that
is there already, and the region itself.  All of them go the same way.  They keep slots
and get frames first, and nothing that is on record or in a page table changes by that
(`Broker.Prepares`).  Then comes the one mapping with its check (`mapVerified_checked`).
Only then are records written, and from there on the kernel is left alone
(`Broker.SameKernel`).  So each path is put together from one rule for what comes before
the mapping (`Checked.prepare_bind`) and one for what comes after
(`Checked.settle_bind`), and a gap that is caught is caught before anything is on record.
-/
import CapabilityBroker.Proofs.Gap.Kernel
import CapabilityBroker.Proofs.Memory.Spans
import CapabilityBroker.Proofs.Move.Memory
import CapabilityBroker.Proofs.Unchanged.Memory

namespace CapabilityBroker

open Step (Stays StaysFrom Certain)

variable {ε α β σ : Type} {b b' b'' : Broker} {into : ComponentId} {vaddr last : Vaddr}
  {first expected found : Paddr} {count : Nat} {align : UInt64} {why : Stop ε}

/-! ### Defects that speak of a gap -/

/-- The defect says that a page does not show its frame. -/
def Defect.IsGap (defect : Defect) : Prop :=
  ∃ component page expected found, defect = .contiguityViolation component page expected found

/-- The reason is a defect that speaks of a gap, in the form that defects have here. -/
def OfGap (fatal : Defect → ε) (reason : ε) : Prop := ∃ defect, reason = fatal defect ∧ defect.IsGap

theorem not_ofGap {failure : Failure} (h : failure.defect? = none) :
    ¬ OfGap Failure.fatal failure := by
  rintro ⟨defect, rfl, _⟩
  cases h

/-- The operation never speaks of a gap. -/
abbrev Silent (s : Operation α) : Prop := s.Certain (OfGap Failure.fatal)

theorem ask_silent {part : Part (Pool σ)} {s : Step (Pool σ) Pool.Refusal α} :
    Silent (part.ask s) := .within (.of_explain fun _ => not_ofGap rfl)

theorem askKernel_silent {s : Step Kernel Kernel.Refusal α} : Silent (askKernel s) :=
  .within (.of_explain fun _ => not_ofGap rfl)

/-! ### What comes before a mapping -/

namespace Broker

/-- No record of a page or of a span came, went or changed. -/
structure SameRecords (b b' : Broker) : Prop where
  pages : b.pages.Reserves b'.pages
  spans : b.spans.Reserves b'.spans

theorem SameRecords.trans (h : b.SameRecords b') (h' : b'.SameRecords b'') : b.SameRecords b'' :=
  ⟨h.pages.trans (fun _ _ _ => False.elim) h'.pages,
    h.spans.trans (fun _ _ _ => False.elim) h'.spans⟩

/-- No record changed, no page table did, and no gap was left. -/
structure Prepares (b b' : Broker) : Prop extends b.SameRecords b' where
  components : b'.kernel.components = b.kernel.components
  gaps : b.kernel.Gapless b'.kernel

namespace Prepares

theorem refl (b : Broker) : b.Prepares b := ⟨⟨.refl _, .refl _⟩, rfl, rfl⟩

theorem trans (h : b.Prepares b') (h' : b'.Prepares b'') : b.Prepares b'' :=
  ⟨h.toSameRecords.trans h'.toSameRecords, h'.components.trans h.components,
    trans_of Kernel.Gapless h.gaps h'.gaps⟩

instance : IsPreorder Broker Prepares where
  refl := refl
  trans _ _ _ := trans

theorem space?_eq (h : b.Prepares b') (id : ComponentId) :
    b'.kernel.space? id = b.kernel.space? id := by
  unfold Kernel.space?
  rw [h.components]

theorem hasRoom_eq (h : b.Prepares b') :
    b'.kernel.hasRoom into align count = b.kernel.hasRoom into align count := by
  unfold Kernel.hasRoom
  rw [h.space?_eq]

end Prepares

theorem pagePool_prepares : pagePool.Allows Prepares Pool.Reserves :=
  fun _ _ h => ⟨⟨h, .refl _⟩, rfl, rfl⟩

theorem spanPool_prepares : spanPool.Allows Prepares Pool.Reserves :=
  fun _ _ h => ⟨⟨.refl _, h⟩, rfl, rfl⟩

theorem kernelPart_prepares : kernelPart.Allows Prepares
    (fun k k' => k'.components = k.components ∧ k.Gapless k') :=
  fun _ _ h => ⟨⟨.refl _, .refl _⟩, h.1, h.2⟩

end Broker

theorem reserveFrames_prepares {g : Kernel.Refusal → ε} (count : Nat) :
    Stays Broker.Prepares (kernelPart.run ((Kernel.reserveFrames count).explain g)) :=
  Broker.kernelPart_prepares.run (Kernel.reserveFrames_gapless count).explain

theorem reserveFrames_silent (count : Nat) : Silent (reserveFrames count) := by
  refine .within (.of_explain fun refusal => ?_)
  cases refusal <;> exact not_ofGap rfl

theorem advanceContig_prepares (count : Nat) : Stays Broker.Prepares (advanceContig count) := by
  refine .get_bind fun b => ?_
  split
  · exact Stays.refuse b
  · refine .ite (fun _ => Stays.refuse b) fun _ => ?_
    have hmodify : ∀ region, b.Prepares { b with contig := some region } :=
      fun _ => ⟨⟨.refl _, .refl _⟩, rfl, rfl⟩
    exact Step.Leads.modify_bind
      (Step.Leads.exact_bind (fun _ _ => Step.leads_pure.2 (hmodify _)) fun _ => hmodify _)

theorem advanceContig_silent (count : Nat) : Silent (advanceContig count) := by
  refine .get_bind fun b => ?_
  split
  · exact .refuse (not_ofGap rfl)
  · refine .ite (.refuse (not_ofGap rfl)) ?_
    exact Certain.modify.bind fun _ => Certain.exact.bind fun _ => .pure

/-- A span that is not contiguous has no gap in a mapping. -/
theorem checkFrames_silent (span pageOff : Nat) (first : Paddr)
    (pages : List (Handle Page × Page)) (i : Nat) :
    Silent (checkFrames span pageOff first pages i) := by
  refine checkFrames_certain (fun _ _ => ?_) span pageOff first pages i
  rintro ⟨_, heq, _, _, _, _, rfl⟩
  cases heq

/-! ### What comes after a mapping -/

/-- The kernel is left alone. -/
def Broker.SameKernel (b b' : Broker) : Prop := b'.kernel = b.kernel

instance : IsPreorder Broker Broker.SameKernel where
  refl _ := rfl
  trans _ _ _ h h' := Eq.trans h' h

theorem records_sameKernel : AdmitsRecords Broker.SameKernel where
  lines _ _ := rfl
  events _ _ _ := rfl
  spans _ _ := rfl
  pages _ _ _ := rfl

theorem publishRun_silent (run : List (Reservation Page)) (first : Paddr)
    (mapped : Option (ComponentId × Vaddr)) : Silent (publishRun run first mapped) := by
  cases run with
  | nil => exact .refuse (not_ofGap rfl)
  | cons head rest => exact publishRun_certain (List.cons_ne_nil _ _) _ _

theorem activateSpan_silent (slot : Reservation Span) (head : Handle Page) (count : Nat) :
    Silent (activateSpan slot head count) := by
  unfold activateSpan
  split
  · exact .refuse (not_ofGap rfl)
  · have hrest : ∀ nPages, Silent (do
        let span ← spanPool.ask (Pool.activate slot ⟨head.index, nPages⟩)
        note (.spanCreated span.index count)
        pure span.index) := fun _ => ask_silent.bind fun _ => (certain_note _).bind fun _ => .pure
    exact .ite (Certain.bind (.refuse (not_ofGap rfl)) fun _ => hrest _) (hrest _)

/-! ### An operation that maps -/

namespace Broker

/-- How an operation that is to map `count` pages into a component stops: without a gap
and without a word of one; with a gap that is lost because there is no room; or with a
gap that is caught, and no record has changed. -/
inductive Breaks (fatal : Defect → ε) (into : ComponentId) (align : UInt64) (count : Nat)
    (b : Broker) : Stop ε → Broker → Prop
  | quiet {why : Stop ε} {b' : Broker} (gaps : b.kernel.Gapless b'.kernel)
      (silent : ∀ reason, why = .refused reason → ¬ OfGap fatal reason) :
      Breaks fatal into align count b why b'
  | overruns {b' : Broker} (full : ¬ b.kernel.hasRoom into align count = true) :
      Breaks fatal into align count b .abort b'
  | caught {b' : Broker} {vaddr last : Vaddr} {first expected found : Paddr}
      (gaps : b'.kernel.gaps = b.kernel.gaps + 1) (records : b.SameRecords b')
      (gap : b'.kernel.GappedAt into vaddr first count last expected found) :
      Breaks fatal into align count b
        (.refused (fatal (.contiguityViolation into last expected (some found)))) b'

/-- The operation maps `count` consecutive frames into a component without a gap, and
answers what is given for the range; or it breaks off. -/
abbrev Checked (fatal : Defect → ε) (into : ComponentId) (align : UInt64) (count : Nat)
    (given : Vaddr → Paddr → α → Broker → Prop) (b : Broker) (s : Step Broker ε α) : Prop :=
  s.Leads b
    (fun a b' => b.kernel.Gapless b'.kernel ∧ ∃ vaddr first, given vaddr first a b' ∧
      b'.kernel.TranslatesRun into vaddr first count)
    (b.Breaks fatal into align count)

variable {fatal : Defect → ε} {given : Vaddr → Paddr → α → Broker → Prop}

/-- What is refused without a defect is refused quietly. -/
theorem Breaks.refused {failure : Failure} (gaps : b.kernel.Gapless b'.kernel)
    (h : failure.defect? = none) :
    b.Breaks Failure.fatal into align count (.refused failure) b' := by
  refine .quiet gaps ?_
  rintro _ ⟨⟩
  exact not_ofGap h

/-- What came before the mapping may be counted in. -/
theorem Breaks.after (h : b'.Breaks fatal into align count why b'') (hb : b.Prepares b') :
    b.Breaks fatal into align count why b'' := by
  cases h with
  | quiet gaps silent => exact .quiet (trans_of Kernel.Gapless hb.gaps gaps) silent
  | overruns full => exact .overruns (hb.hasRoom_eq ▸ full)
  | caught gaps records gap =>
    exact .caught (gaps.trans (congrArg (· + 1) hb.gaps)) (hb.toSameRecords.trans records) gap

/-- Slots that are given up afterwards change nothing either. -/
theorem Breaks.tidy (h : b.Breaks fatal into align count why b') (hr : b'.SameRecords b'')
    (hk : b''.kernel = b'.kernel) : b.Breaks fatal into align count why b'' := by
  cases h with
  | quiet gaps silent => exact .quiet (hk ▸ gaps) silent
  | overruns full => exact .overruns full
  | caught gaps records gap => exact .caught (hk ▸ gaps) (records.trans hr) (hk ▸ gap)

namespace Checked

/-- Something is prepared, and then an operation maps. -/
theorem prepare_bind {s : Step Broker ε β} {f : β → Step Broker ε α}
    (hs : s.StaysFrom Prepares b) (hsilent : s.Certain (OfGap fatal))
    (hf : ∀ a b', b.Prepares b' → b'.Checked fatal into align count given (f a)) :
    b.Checked fatal into align count given (s >>= f) := by
  refine Step.leads_bind.2 ((Step.Leads.and hs (hsilent b)).mono ?_ ?_)
  · rintro a b' ⟨hb, _⟩
    refine (hf a b' hb).mono ?_ fun _ _ h => h.after hb
    rintro a' b'' ⟨hgaps, hgiven⟩
    exact ⟨trans_of Kernel.Gapless hb.gaps hgaps, hgiven⟩
  · rintro why b' ⟨hb, hwhy⟩
    exact .quiet hb.gaps hwhy

/-- Something is written down of what was mapped. -/
theorem settle_bind {given' : Vaddr → Paddr → β → Broker → Prop} {s : Step Broker ε β}
    {f : β → Step Broker ε α} (hs : b.Checked fatal into align count given' s)
    (hf : ∀ vaddr first a b', given' vaddr first a b' →
      (f a).Leads b' (fun a' b'' => b'.SameKernel b'' ∧ given vaddr first a' b'')
        fun why b'' => b'.SameKernel b'' ∧ ∀ reason, why = .refused reason → ¬ OfGap fatal reason) :
    b.Checked fatal into align count given (s >>= f) := by
  refine Step.leads_bind.2 (hs.mono ?_ fun _ _ => id)
  rintro a b' ⟨hgaps, vaddr, first, hgiven, hrun⟩
  refine (hf vaddr first a b' hgiven).mono ?_ ?_
  · rintro a' b'' ⟨hk, hgiven'⟩
    have hk : b''.kernel = b'.kernel := hk
    exact ⟨hk ▸ hgaps, vaddr, first, hgiven', hk ▸ hrun⟩
  · rintro why b'' ⟨hk, hwhy⟩
    have hk : b''.kernel = b'.kernel := hk
    exact .quiet (hk ▸ hgaps) hwhy

theorem map {given' : Vaddr → Paddr → β → Broker → Prop} {s : Step Broker ε β} {g : β → α}
    (hs : b.Checked fatal into align count given' s)
    (hg : ∀ vaddr first a b', given' vaddr first a b' → given vaddr first (g a) b') :
    b.Checked fatal into align count given (g <$> s) := by
  refine Step.leads_map.2 (hs.mono ?_ fun _ _ => id)
  rintro a b' ⟨hgaps, vaddr, first, hgiven, hrun⟩
  exact ⟨hgaps, vaddr, first, hg vaddr first a b' hgiven, hrun⟩

/-- A defect of the mapping is a failure of the operation. -/
theorem explain {given : Vaddr → Paddr → α → Broker → Prop} {s : Step Broker Defect α}
    (hs : b.Checked id into align count given s) :
    b.Checked .fatal into align count given (s.explain Failure.fatal) := by
  refine Step.leads_explain.2 (hs.mono (fun _ _ => id) fun why b' h => ?_)
  cases h with
  | quiet gaps silent =>
    refine .quiet gaps fun reason heq => ?_
    rintro ⟨defect, rfl, hgap⟩
    cases why with
    | refused cause =>
      cases heq
      exact silent _ rfl ⟨defect, rfl, hgap⟩
    | abort => cases heq
  | overruns full => exact .overruns full
  | caught gaps records gap => exact .caught gaps records gap

theorem holdingAll {given : Vaddr → Paddr → α → Broker → Prop} {run : List (Reservation Page)}
    {s : Operation α} (hs : b.Checked .fatal into align count given s) :
    b.Checked .fatal into align count given (pagePool.holdingAll run s) :=
  Step.leads_cleanly.2 (hs.mono (fun _ _ => id) fun _ _ h =>
    h.tidy ⟨.unreserveAll run, .refl _⟩ rfl)

theorem holding {given : Vaddr → Paddr → α → Broker → Prop} {slot : Reservation Span}
    {s : Operation α} (hs : b.Checked .fatal into align count given s) :
    b.Checked .fatal into align count given (spanPool.holding slot s) :=
  Step.leads_cleanly.2 (hs.mono (fun _ _ => id) fun _ _ h => h.tidy ⟨.refl _, .unreserve slot⟩ rfl)

end Checked

/-- The operation leaves the kernel alone, never speaks of a gap, and what it answers is
in `post`. -/
abbrev Registers (post : α → Broker → Prop) (b : Broker) (s : Operation α) : Prop :=
  s.Leads b (fun a b' => b.SameKernel b' ∧ post a b')
    fun why b' => b.SameKernel b' ∧ ∀ reason, why = .refused reason → ¬ OfGap .fatal reason

namespace Registers

variable {post : α → Broker → Prop}

theorem bind {s : Operation β} {f : β → Operation α} (hs : Stays SameKernel s)
    (hsilent : Silent s) (hf : ∀ a (b' : Broker), b'.Registers post (f a)) :
    b.Registers post (s >>= f) := by
  refine Step.leads_bind.2 ((Step.Leads.and (hs b) (hsilent b)).mono ?_ fun _ _ => id)
  rintro a b' ⟨hk, _⟩
  refine (hf a b').mono ?_ ?_
  · exact fun _ _ h => ⟨trans_of SameKernel hk h.1, h.2⟩
  · exact fun _ _ h => ⟨trans_of SameKernel hk h.1, h.2⟩

theorem pure {a : α} (h : post a b) : b.Registers post (pure a) :=
  Step.leads_pure.2 ⟨refl_of SameKernel b, h⟩

end Registers

end Broker

open Broker (Checked Registers)

/-! ### The four paths -/

/-- The mapping itself, and its check. -/
theorem mapVerified_checked {s : Kernel.Space} (ha : pageSize ∣ align.toNat)
    (hs : b.kernel.space? into = some s) :
    b.Checked id into align count (fun vaddr base a _ => a = vaddr ∧ base = first)
      (mapVerified first count align into) := by
  refine Step.leads_bind.2 (Part.run_leads (Step.leads_explain.2
    ((Kernel.aliasFrames_gaps ha hs).mono ?_ ?_)))
  · rintro vaddr k (⟨hgaps, hmapped⟩ | ⟨hgaps, last, expected, found, hgap⟩)
    · refine Step.leads_bind.2 (Part.run_leads (hmapped.verifies.mono ?_ fun _ _ => False.elim))
      rintro _ _ rfl
      exact Step.leads_pure.2 ⟨hgaps, vaddr, first, ⟨rfl, rfl⟩, hmapped.translatesRun⟩
    · refine Step.leads_bind.2 (Part.run_leads (hgap.verifies.mono (fun _ _ => False.elim) ?_))
      rintro _ _ ⟨rfl, rfl⟩
      exact .caught hgaps ⟨.refl _, .refl _⟩ hgap
  · rintro why k (hgaps | ⟨rfl, hfull⟩)
    · refine .quiet hgaps fun reason heq => ?_
      cases why with
      | abort => cases heq
      | refused refusal =>
        cases heq
        rintro ⟨_, rfl, _, _, _, _, h⟩
        cases h
    · exact .overruns hfull

/-- Fresh pages in a component. -/
theorem allocatePages_checked {s : Kernel.Space} (ha : pageSize ∣ align.toNat)
    (hs : b.kernel.space? into = some s) :
    b.Checked .fatal into align count (fun vaddr _ answer _ => answer.2 = vaddr)
      (allocatePages (some into) count align) := by
  refine Step.Leads.ite (fun _ => Step.Leads.refuse_bind (.refused rfl rfl)) fun _ => ?_
  have hslots := Broker.pagePool_prepares.ask (Pool.allocateRun_stays count) b
  refine Checked.prepare_bind hslots ask_silent fun run b₁ h₁ => Checked.holdingAll ?_
  refine Checked.prepare_bind (reserveFrames_prepares count b₁) (reserveFrames_silent count)
    fun first b₂ h₂ => ?_
  have hs₂ : b₂.kernel.space? into = some s := (h₁.trans h₂).space?_eq into ▸ hs
  have hmap : b₂.Checked .fatal into align count
      (fun vaddr _ mapped _ => mapped = some (into, vaddr))
      (mapRun (some into) first count align) := by
    refine Checked.settle_bind (Checked.explain (mapVerified_checked ha hs₂)) ?_
    rintro vaddr _ _ b₃ ⟨rfl, _⟩
    exact Registers.pure rfl
  refine Checked.settle_bind hmap ?_
  rintro vaddr _ _ b₃ rfl
  exact Registers.bind (records_sameKernel.publishRun _ _ _) (publishRun_silent _ _ _)
    fun head b₄ => Registers.pure rfl

/-- Pages of the contiguous region. -/
theorem carveContig_checked {s : Kernel.Space} (ha : pageSize ∣ align.toNat)
    (hs : b.kernel.space? into = some s) :
    b.Checked .fatal into align count (fun vaddr _ answer _ => answer.2 = vaddr)
      (carveContig into count align) := by
  refine Step.Leads.ite (fun _ => Step.Leads.refuse_bind (.refused rfl rfl)) fun _ => ?_
  have hslots := Broker.pagePool_prepares.ask (Pool.allocateRun_stays count) b
  refine Checked.prepare_bind hslots ask_silent fun run b₁ h₁ => Checked.holdingAll ?_
  refine Checked.prepare_bind (advanceContig_prepares count b₁) (advanceContig_silent count)
    fun carved b₂ h₂ => ?_
  have hs₂ : b₂.kernel.space? into = some s := (h₁.trans h₂).space?_eq into ▸ hs
  refine Checked.settle_bind (Checked.explain (mapVerified_checked ha hs₂)) ?_
  rintro vaddr _ _ b₃ ⟨rfl, _⟩
  have hrecords := records_sameKernel
  refine Registers.bind (hrecords.publishRun _ _ _) (publishRun_silent _ _ _) fun _ b₄ => ?_
  refine Registers.bind (.modify fun _ => rfl) (certain_note _) fun _ b₅ => ?_
  exact Registers.bind (hrecords.log _ _) (certain_log _ _) fun _ b₆ => Registers.pure rfl

/-- Pages that become a span, wherever they are from. -/
theorem spanOf_checked {carve : Operation (Handle Page × Vaddr)}
    (hcarve : ∀ b', b.Prepares b' →
      b'.Checked .fatal into align count (fun vaddr _ answer _ => answer.2 = vaddr) carve) :
    b.Checked .fatal into align count (fun vaddr _ answer _ => answer.2 = vaddr)
      (spanPool.ask Pool.allocate >>= fun slot => spanPool.holding slot
        (carve >>= fun answer => activateSpan slot answer.1 count >>= fun span =>
          pure (span, answer.2))) := by
  refine Checked.prepare_bind (Broker.spanPool_prepares.ask Pool.allocate_stays b) ask_silent
    fun slot b₁ h₁ => Checked.holding (Checked.settle_bind (hcarve b₁ h₁) ?_)
  rintro vaddr _ answer b₂ rfl
  exact Registers.bind (records_sameKernel.activateSpan _ _ _) (activateSpan_silent _ _ _)
    fun span b₃ => Registers.pure rfl

/-- The number of pages of a span, if it is on record. -/
def Broker.spanPages (b : Broker) (id : Nat) : Nat :=
  (b.spans.at? id).elim 0 fun span => span.nPages.toNat

/-- A span that is there already. -/
theorem mapSpan_checked {s : Kernel.Space} {id : Nat} (ha : pageSize ∣ align.toNat)
    (hs : b.kernel.space? into = some s) :
    b.Checked .fatal into align (b.spanPages id) (fun vaddr _ answer _ => answer.2 = vaddr)
      (mapSpan id into align) := by
  have habort : b.Breaks Failure.fatal into align (b.spanPages id) .abort b :=
    .quiet rfl nofun
  refine Step.leads_bind.2 (Step.Leads.get_bind (Step.leads_require.2 ⟨fun span hspan => ?_,
    fun _ => .refused rfl rfl⟩))
  refine Step.Leads.exact_bind (fun _ _ => Step.Leads.get_bind ?_) fun _ => habort
  refine Step.Leads.require_bind (fun entries hentries => ?_) fun _ => .refused rfl rfl
  have hlen : entries.length = b.spanPages id := by
    unfold Broker.spanPages
    rw [hspan]
    exact (pagesFrom?_eq_some hentries).1
  split
  · exact Step.leads_abort.2 habort
  · next handle head rest =>
    split
    · exact Step.leads_refuse.2 (.refused rfl rfl)
    · refine Checked.prepare_bind (AdmitsPlaces.checkFrames _ _ _ _ _ b)
        (checkFrames_silent _ _ _ _ _) fun _ b₁ h₁ => ?_
      have hs₁ : b₁.kernel.space? into = some s := h₁.space?_eq into ▸ hs
      rw [← hlen]
      refine Checked.settle_bind (Checked.explain (mapVerified_checked ha hs₁)) ?_
      rintro vaddr _ _ b₂ ⟨rfl, _⟩
      refine Registers.bind (records_sameKernel.toAdmitsPlaces.placePages _ _ _ _)
        (placePages_certain _ _ _ _) fun _ b₃ => ?_
      exact Registers.bind (records_sameKernel.note rfl) (certain_note _) fun _ b₄ =>
        Registers.pure rfl

/-! ### The region itself -/

/-- No region came, went or changed. -/
def Broker.SameRegion (b b' : Broker) : Prop := b'.contig = b.contig

instance : IsPreorder Broker Broker.SameRegion where
  refl _ := rfl
  trans _ _ _ h h' := Eq.trans h' h

theorem runKernel_sameRegion (s : Step Kernel ε α) : Stays Broker.SameRegion (kernelPart.run s) :=
  fun _ => Part.run_leads (.of_forall (fun _ _ => rfl) fun _ _ => rfl)

theorem contigBase_sameRegion (selfId : ComponentId) (count : Nat) :
    Stays Broker.SameRegion (contigBase selfId count) := by
  refine .ite .pure ((runKernel_sameRegion _).bind fun base => ?_)
  refine Stays.bind ?_ fun _ => .pure
  exact (runKernel_sameRegion _).bind fun vaddr => (runKernel_sameRegion _).bind fun _ => .pure

/-- The frames of the region, mapped into the broker. -/
theorem contigBase_checked {s : Kernel.Space} (hs : b.kernel.space? into = some s) :
    b.Checked id into 4096 count (fun _ first base _ => base = first) (contigBase into count) := by
  refine Step.Leads.ite (fun h0 => ?_) fun _ => ?_
  · refine Step.leads_pure.2 ⟨rfl, ⟨0⟩, ⟨0⟩, rfl, fun j hj => ?_⟩
    omega
  refine Checked.prepare_bind (reserveFrames_prepares count b) ?_ fun base b₁ h₁ => ?_
  · refine .within (.of_explain ?_)
    rintro refusal ⟨_, rfl, _, _, _, _, h⟩
    cases h
  have hs₁ : b₁.kernel.space? into = some s := h₁.space?_eq into ▸ hs
  refine Step.leads_bind.2 ((mapVerified_checked (by decide) hs₁).mono ?_ fun _ _ h => h)
  rintro vaddr b₂ ⟨hgaps, _, first, ⟨rfl, rfl⟩, hrun⟩
  exact Step.leads_pure.2 ⟨hgaps, vaddr, first, rfl, hrun⟩

/-- The region is on record only after its frames are mapped. -/
theorem initContig_checked {s : Kernel.Space} (hs : b.kernel.space? into = some s)
    (hnone : b.contig = none) :
    b.Checked id into 4096 count (fun _ first _ b' => b'.contig = some ⟨first, count, 0⟩)
      (initContig into count) := by
  refine Step.leads_bind.2 (((contigBase_checked hs).and (contigBase_sameRegion into count b)).mono
    ?_ fun _ _ h => h.1)
  rintro base b₁ ⟨⟨hgaps, vaddr, first, rfl, hrun⟩, hregion⟩
  have hregion : b₁.contig = none := Eq.trans hregion hnone
  refine Step.Leads.modify_bind (Step.leads_modify.2 ?_)
  rw [hregion]
  exact ⟨hgaps, vaddr, base, rfl, hrun⟩

end CapabilityBroker
