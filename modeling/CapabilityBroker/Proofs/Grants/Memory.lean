/-
CapabilityBroker/Proofs/Grants/Memory.lean

The ranges that operations on memory answer.

Each of them maps a range and checks the mapping, or maps device memory, and
whatever it does after that leaves the range shown.  So the range that is
answered is shown in the state that the operation leaves.  Where a span is
answered as well, its record has as many pages as were asked for.
-/
import CapabilityBroker.Proofs.Kernel.Ranges
import CapabilityBroker.Proofs.Memory.Spans
import CapabilityBroker.Proofs.Move.Memory

namespace CapabilityBroker

open Step (Stays StaysFrom)

variable {b b' : Broker} {into : ComponentId} {vaddr : Vaddr} {first : Paddr} {count : Nat}
  {align : UInt64} {α β : Type}

/-! ### What stays shown -/

/-- Page tables change behind their frontiers only. -/
def Broker.Deepens (b b' : Broker) : Prop := Kernel.Advance .any b.kernel b'.kernel

instance : IsPreorder Broker Broker.Deepens where
  refl _ := .refl _
  trans _ _ _ := .trans

theorem memory_deepens : AdmitsMemory (Kernel.Advance .any) Broker.Deepens where
  lines _ _ := .refl _
  events _ _ _ := .refl _
  kernel _ _ h := h
  reads := .refl
  spans _ _ := .refl _
  region _ _ := .refl _
  carvings _ _ _ _ := .refl _
  pages _ _ _ := .refl _
  reserve := Kernel.reserveFrames_stays
  frames first count align _ _ := fun _ =>
    (Kernel.aliasFrames_leads first count align trivial).mono (fun _ _ => And.left) fun _ _ => id
  device _ paddr size := Kernel.mapDevice_stays paddr size trivial

namespace Kernel.ShowsPages

/-- A range is shown through a step, and the rest may go on with it. -/
theorem keep_bind {s : Operation α} {f : α → Operation β} {post : β → Broker → Prop}
    (h : b.kernel.ShowsPages into vaddr count) (hs : Stays Broker.Deepens s)
    (hf : ∀ a b', b'.kernel.ShowsPages into vaddr count → (f a).Leads b' post fun _ _ => True) :
    (s >>= f).Leads b post (fun _ _ => True) :=
  Step.leads_bind.2 ((hs b).mono (fun a b' hadv => hf a b' (h.advance hadv)) fun _ _ _ => trivial)

end Kernel.ShowsPages

/-- A mapping that passed its check shows its range. -/
theorem mapVerified_shows (hc : count ≠ 0) :
    (mapVerified first count align into).Leads b
      (fun vaddr b' => b'.kernel.ShowsPages into vaddr count) (fun _ _ => True) := by
  refine (mapVerified_found (w := .any) trivial).mono ?_ fun _ _ _ => trivial
  rintro vaddr b' ⟨_, hend, hfound⟩
  obtain ⟨s, hs, hfrontier⟩ := hend hc
  exact .of_verified hc hs (Nat.le_of_eq hfrontier.symm) hfound

/-! ### Pages -/

/-- The pages of an allocation are shown where the answer says. -/
theorem allocatePages_shows :
    (allocatePages (some into) count align).Leads b
      (fun answer b' => b'.kernel.ShowsPages into answer.2 count) (fun _ _ => True) := by
  refine Step.Leads.ite (fun _ => Step.Leads.refuse_bind trivial) fun hc => ?_
  refine .forget_bind fun run b₁ => Step.leads_cleanly.2 (.forget_bind fun first b₂ => ?_)
  refine Step.leads_bind.2 (Step.leads_bind.2 (Step.leads_explain.2
    ((mapVerified_shows hc).mono ?_ fun _ _ _ => trivial)))
  intro vaddr b₃ hshows
  refine Step.leads_pure.2 (hshows.keep_bind (memory_deepens.publishRun _ _ _) fun _ b₄ h => ?_)
  exact Step.leads_pure.2 h

theorem carveContig_shows :
    (carveContig into count align).Leads b
      (fun answer b' => b'.kernel.ShowsPages into answer.2 count) (fun _ _ => True) := by
  refine Step.Leads.ite (fun _ => Step.Leads.refuse_bind trivial) fun hc => ?_
  refine .forget_bind fun run b₁ => Step.leads_cleanly.2 (.forget_bind fun carved b₂ => ?_)
  refine Step.leads_bind.2 (Step.leads_explain.2
    ((mapVerified_shows hc).mono ?_ fun _ _ _ => trivial))
  intro vaddr b₃ hshows
  refine hshows.keep_bind (memory_deepens.publishRun _ _ _) fun _ b₄ h => ?_
  refine h.keep_bind (.modify fun _ => .refl _) fun _ b₅ h => ?_
  exact h.keep_bind (memory_deepens.log _ _) fun _ b₆ h => Step.leads_pure.2 h

/-- Of device memory, the pages around the range that was asked for are shown. -/
theorem mapPhysical_shows {paddr : Paddr} {size : UInt64} :
    (mapPhysical into paddr size).Leads b
      (fun vaddr b' => b'.kernel.ShowsPages into vaddr (Kernel.devicePages paddr size))
      (fun _ _ => True) :=
  Step.Leads.ite (fun _ => Step.Leads.refuse_bind trivial) fun _ =>
    Part.run_leads (Step.leads_explain.2 Kernel.mapDevice_shows)

/-! ### Spans -/

/-- The id is that of a span of so many pages. -/
def Broker.HasSpan (b : Broker) (id count : Nat) : Prop :=
  ∃ span, b.spans.at? id = some span ∧ span.nPages.toNat = count

/-- Pages that are registered as a span are shown, and the span has as many. -/
theorem spanOf_shows {carve : Operation (Handle Page × Vaddr)}
    (hcarve : ∀ b, carve.Leads b (fun answer b' => b'.kernel.ShowsPages into answer.2 count)
      fun _ _ => True) :
    (spanPool.ask Pool.allocate >>= fun slot => spanPool.holding slot
      (carve >>= fun answer => activateSpan slot answer.1 count >>= fun span =>
        pure (span, answer.2))).Leads b
      (fun answer b' => b'.kernel.ShowsPages into answer.2 count ∧ b'.HasSpan answer.1 count)
      (fun _ _ => True) := by
  refine .forget_bind fun slot b₁ => Step.leads_cleanly.2 ?_
  refine Step.Leads.bind (hcarve b₁) fun answer b₂ hshows => ?_
  refine Step.leads_bind.2 ((activateSpan_registers (r := ⟨⟨0⟩, none, answer.1.index, count⟩)
    rfl).mono ?_ fun _ _ _ => trivial)
  rintro id _ ⟨spans, trail, rfl, -, nPages, hcount, hat⟩
  exact Step.leads_pure.2 ⟨hshows, _, hat, hcount⟩

theorem allocateShared_shows :
    (allocateShared into count align).Leads b
      (fun answer b' => b'.kernel.ShowsPages into answer.2 count ∧ b'.HasSpan answer.1 count)
      (fun _ _ => True) := spanOf_shows fun _ => allocatePages_shows

theorem allocateContiguousShared_shows :
    (allocateContiguousShared into count align).Leads b
      (fun answer b' => b'.kernel.ShowsPages into answer.2 count ∧ b'.HasSpan answer.1 count)
      (fun _ _ => True) := spanOf_shows fun _ => carveContig_shows

/-- A span that is mapped is shown, as many pages as the answer says. -/
theorem mapSpan_shows {id : Nat} :
    (mapSpan id into align).Leads b
      (fun answer b' => b'.kernel.ShowsPages into answer.2 answer.1) (fun _ _ => True) := by
  refine .forget_bind fun span b₁ => .forget_bind fun _ b₂ => .forget_bind fun _ b₃ =>
    .forget_bind fun pages b₄ => ?_
  split
  · exact Step.leads_abort.2 trivial
  · next handle head rest =>
    split
    · exact Step.leads_refuse.2 trivial
    · refine .forget_bind fun _ b₅ => ?_
      have hsome : ((handle, head) :: rest).length ≠ 0 := Nat.succ_ne_zero _
      refine Step.leads_bind.2 (Step.leads_explain.2
        ((mapVerified_shows hsome).mono ?_ fun _ _ _ => trivial))
      intro vaddr b₆ hshows
      refine hshows.keep_bind (memory_deepens.toAdmitsPlaces.placePages _ _ _ _) fun _ b₇ h => ?_
      exact h.keep_bind (memory_deepens.note rfl) fun _ b₈ h => Step.leads_pure.2 h

end CapabilityBroker
