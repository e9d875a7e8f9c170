/-
CapabilityBroker/Proofs/Unchanged/Memory.lean

Refused operations on pages, spans and the contiguous region.

Slots are kept and frames are reserved before anything is mapped, and those
are the steps that can be refused.  A mapping that fails is a defect, and what
follows a mapping cannot fail at all: a span of a run that was allocated has a
length that it can have.
-/
import CapabilityBroker.Memory.Contiguous
import CapabilityBroker.Proofs.Memory.Pages
import CapabilityBroker.Proofs.Unchanged.Basic

namespace CapabilityBroker

open Step (Stays StaysFrom Certain)

variable {b : Broker} {plain : Failure → Prop} {count : Nat}

/-! ### Steps that are sure -/

theorem publishFrom_certain (first : Paddr) (mapped : Option (ComponentId × Vaddr))
    (run : List (Reservation Page)) (i : Nat) : (publishFrom first mapped run i).Certain plain := by
  induction run generalizing i with
  | nil => exact .pure
  | cons slot slots ih =>
    refine Certain.exact.bind fun mappings => Certain.exact.bind fun frame => ?_
    exact (certain_activate _ _).bind fun _ => ih (i + 1)

theorem publishRun_certain {run : List (Reservation Page)} (h : run ≠ []) (first : Paddr)
    (mapped : Option (ComponentId × Vaddr)) : (publishRun run first mapped).Certain plain := by
  cases run with
  | nil => exact absurd rfl h
  | cons head rest =>
    refine (publishFrom_certain _ _ _ _).bind fun _ => ?_
    exact (certain_note _).bind fun _ => .pure

theorem mapRun_certain (component : Option ComponentId) (first : Paddr) (count : Nat)
    (align : UInt64) : (mapRun component first count align).Certain Failure.Plain := by
  cases component with
  | none => exact .pure
  | some into => exact certain_defect.bind fun _ => .pure

theorem placePages_certain (component : ComponentId) (vaddr : Vaddr)
    (pages : List (Handle Page × Page)) (i : Nat) :
    (placePages component vaddr pages i).Certain plain := by
  induction pages generalizing i with
  | nil => exact .pure
  | cons page pages ih =>
    exact (Certain.exact.bind fun _ => .modify).bind fun _ => ih (i + 1)

theorem activateSpan_certain (h : SpanLength count) (slot : Reservation Span)
    (head : Handle Page) : (activateSpan slot head count).Certain plain := by
  refine fun b => activateSpan_leads.mono (fun _ _ _ => trivial) ?_
  rintro _ _ ⟨⟨rfl, _⟩ | ⟨_, hlength⟩, _⟩
  · exact nofun
  · exact absurd h hlength

/-! ### Pages -/

theorem reserveFrames_reverts (count : Nat) :
    (reserveFrames count).Reverts Broker.Unchanged plain b b := by
  have hreserve := Kernel.reserveFrames_recoils count b.kernel
  refine Part.run_leads (Step.leads_explain.2 (hreserve.mono (fun _ _ _ => trivial) ?_))
  rintro why k hwhy
  cases why with
  | refused reason => exact fun _ => .of_kernel (hwhy trivial)
  | abort => trivial

theorem allocatePages_recoils (component : Option ComponentId) (count : Nat) (align : UInt64) :
    Recoils b (allocatePages component count align) b := by
  refine .ite (fun _ => .refuse_bind fun _ => .refl b) fun hc => ?_
  refine pagePool_apart.allocateRun_reverts hc fun run p hne => ?_
  refine (reserveFrames_reverts count).certain_bind fun first => ?_
  refine (mapRun_certain _ _ _ _).bind fun mapped => ?_
  exact (publishRun_certain hne _ _).bind fun _ => .pure

/-- What was allocated can be a span. -/
theorem spanLength_of_run (hlimit : b.pages.capacity < Pool.capacityLimit) {α : Type}
    {f : List (Reservation Page) → Operation α} :
    ((do
      if count = 0 then Step.refuse noPages
      let run ← pagePool.ask (Pool.allocateRun count)
      pagePool.holdingAll run (f run)) : Operation α).Leads b (fun _ _ => SpanLength count)
      (fun _ _ => True) := by
  refine Step.Leads.ite (fun _ => .refuse_bind trivial) fun hc => ?_
  refine Step.leads_bind.2 (Part.ask_leads
    ((Pool.allocateRun_kept hc).mono ?_ fun _ _ _ => trivial))
  rintro run p ⟨_, _, hle⟩
  exact .of_forall (fun _ _ => ⟨hc, Nat.lt_of_le_of_lt hle hlimit⟩) fun _ _ => trivial

theorem mapPhysical_reverts (component : ComponentId) (paddr : Paddr) (size : UInt64) :
    (mapPhysical component paddr size).Reverts Broker.Unchanged plain b b :=
  .ite (fun _ => .refuse_bind fun _ => .refl b) fun _ =>
    askKernel_reverts (Kernel.mapDevice_recoils component paddr size)

theorem translate_reverts (component : ComponentId) (vaddr : Vaddr) :
    (translate component vaddr).Reverts Broker.Unchanged plain b b :=
  Step.Stays.reverts (translate_stays component vaddr)

/-! ### Spans -/

/-- Pages are allocated in one way or another, and then they are a span. -/
theorem spanOf_recoils {run : Operation (Handle Page × Vaddr)}
    (hrun : ∀ b, Recoils b run b)
    (hlength : ∀ p, run.Leads (spanPool.put p b) (fun _ _ => SpanLength count) (fun _ _ => True)) :
    Recoils b (do
      let slot ← spanPool.ask Pool.allocate
      spanPool.holding slot do
        let (head, vaddr) ← run
        let span ← activateSpan slot head count
        pure (span, vaddr)) b := by
  refine spanPool_apart.allocate_reverts fun slot p => ?_
  refine Step.leads_bind.2 (((hlength p).and (hrun _)).mono ?_ fun _ _ h => h.2)
  rintro ⟨head, vaddr⟩ b₁ ⟨hcount, _⟩
  exact Certain.reverts ((activateSpan_certain hcount slot head).bind fun _ => .pure)

theorem allocateShared_recoils (hlimit : b.pages.capacity < Pool.capacityLimit)
    (component : ComponentId) (count : Nat) (align : UInt64) :
    Recoils b (allocateShared component count align) b :=
  spanOf_recoils (fun _ => allocatePages_recoils _ _ _) fun p =>
    spanLength_of_run (b := spanPool.put p b) hlimit

theorem checkFrames_certain (h : ∀ span page, ¬ plain (.fatal (.spanNotContiguous span page)))
    (span pageOff : Nat) (first : Paddr) (pages : List (Handle Page × Page)) (i : Nat) :
    (checkFrames span pageOff first pages i).Certain plain := by
  induction pages generalizing i with
  | nil => exact .pure
  | cons page pages ih =>
    exact Certain.exact.bind fun _ => .ite (ih (i + 1)) (.refuse (h _ _))

theorem mapSpan_recoils (id : Nat) (component : ComponentId) (align : UInt64) :
    Recoils b (mapSpan id component align) b := by
  have hknown : Stays Broker.Unchanged (knownSpan id) := .get_bind fun b => Stays.require b
  refine (hknown b).reverts_bind fun span b₁ _ => ?_
  refine .exact_bind (fun _ _ => ?_) fun _ => trivial
  refine .get_bind (.require_bind (fun pages _ => ?_) fun _ _ => .refl b₁)
  split
  · exact Step.leads_abort.2 trivial
  · split
    · exact Step.leads_refuse.2 fun _ => .refl b₁
    · have hscattered : ∀ span page, ¬ Failure.Plain (.fatal (.spanNotContiguous span page)) :=
        fun _ _ hplain => by cases hplain.1
      refine Certain.reverts ((checkFrames_certain hscattered _ _ _ _ _).bind fun _ => ?_)
      refine certain_defect.bind fun vaddr => (placePages_certain _ _ _ _).bind fun _ => ?_
      exact (certain_note _).bind fun _ => .pure

/-! ### The contiguous region -/

theorem advanceContig_reverts (count : Nat) :
    (advanceContig count).Reverts Broker.Unchanged plain b b := by
  apply Step.Leads.get_bind
  split
  · exact Step.leads_refuse.2 fun _ => .refl b
  · refine .ite (fun _ => Step.leads_refuse.2 fun _ => .refl b) fun _ => ?_
    exact Certain.reverts (Certain.modify.bind fun _ => Certain.exact.bind fun _ => .pure)

theorem carveContig_recoils (component : ComponentId) (count : Nat) (align : UInt64) :
    Recoils b (carveContig component count align) b := by
  refine .ite (fun _ => .refuse_bind fun _ => .refl b) fun hc => ?_
  refine pagePool_apart.allocateRun_reverts hc fun run p hne => ?_
  refine (advanceContig_reverts count).certain_bind fun carved => ?_
  refine certain_defect.bind fun vaddr => (publishRun_certain hne _ _).bind fun head => ?_
  exact (certain_note _).bind fun _ => (certain_log _ _).bind fun _ => .pure

theorem allocateContiguousShared_recoils (hlimit : b.pages.capacity < Pool.capacityLimit)
    (component : ComponentId) (count : Nat) (align : UInt64) :
    Recoils b (allocateContiguousShared component count align) b :=
  spanOf_recoils (fun _ => carveContig_recoils _ _ _) fun p =>
    spanLength_of_run (b := spanPool.put p b) hlimit

end CapabilityBroker
