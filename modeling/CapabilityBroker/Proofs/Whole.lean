/-
CapabilityBroker/Proofs/Whole.lean

Spans in runs.

Every span that was ever made is whole, and shares no page with another.  So on
a machine without faults there is only one reason to refuse a span to a
component on record: its pages are mapped as often as they can be.  Otherwise
the component gets to see the frames that all earlier views of the span show,
in the same order.
-/
import CapabilityBroker.Proofs.Mapped
import CapabilityBroker.Proofs.Memory.Whole

namespace CapabilityBroker

variable {b b' : Broker} {span : Span} {head : Page} {id : Nat} {into : ComponentId}
  {align : UInt64} {m : Mapping}

namespace Broker

/-! ### Whole spans that are mapped -/

/-- The frames of a whole span were handed out. -/
theorem IsWhole.handedOut (h : b.IsWhole span head) (ha : b.Accounted) :
    b.kernel.HandedOut head.frame span.nPages.toNat := by
  obtain ⟨n, hn, _⟩ := ha.spent _ _ h.heads
  have hpos := Nat.pos_of_ne_zero h.nonempty
  obtain ⟨page, hpage, hbehind⟩ := h.pages (span.nPages.toNat - 1) (Nat.sub_lt hpos Nat.one_pos)
  obtain ⟨last, hlast, hspent⟩ := ha.spent _ _ hpage
  have hsame : last = n + (span.nPages.toNat - 1) := hlast.inj (hn.behind hbehind.frame)
  have hlt := hspent.1
  exact hn.handedOut (by omega)

end Broker

namespace Service

variable {s : Setting} {image : Image}

/-! ### In a run -/

/-- When the pools are made there is nothing to be out of order. -/
theorem Made.orderly {kernel : Kernel} {made : Broker}
    (hc : Kernel.create? s.selfId s.layout s.faults = some kernel)
    (h : Made s.settings (.create kernel) made) :
    made.Orderly ∧ made.Homed ∧ (s.faults = [] → made.Quiet) := by
  obtain ⟨space, _, rfl⟩ := Option.map_eq_some_iff.1 hc
  have hpages : ∀ k page, made.pages.at? k ≠ some page := by
    intro k page hpage
    obtain ⟨g, hg⟩ := Pool.at?_eq_some_iff.1 hpage
    exact (h.pages k).ne hg
  have hspans : ∀ id span, made.spans.at? id ≠ some span := by
    intro id span hspan
    obtain ⟨g, hg⟩ := Pool.at?_eq_some_iff.1 hspan
    exact (h.spans id).ne hg
  have hbounded : made.Bounded := by
    refine ⟨?_, fun region hregion => ?_⟩
    · rw [h.kernel]
      exact Nat.zero_le _
    · rw [h.contig] at hregion
      cases hregion
  refine ⟨⟨⟨hbounded, ?_, ?_⟩, ?_, ?_, ?_⟩, ?_, fun hfaults => ?_⟩
  · exact fun k page hpage => absurd hpage (hpages k page)
  · exact fun k k' page page' hpage => absurd hpage (hpages k page)
  · exact fun k page hpage => absurd hpage (hpages k page)
  · exact fun id span hspan => absurd hspan (hspans id span)
  · exact fun id id' span span' hspan => absurd hspan (hspans id span)
  · exact fun i g c hc => absurd hc (h.components i).ne
  · unfold Broker.Quiet
    rw [h.kernel, ← hfaults]
    rfl

/-- In every state of a run memory is in order, every component on record is one
of the kernel's, and no fault is planned that was not planned for the run. -/
theorem Reached.orderly (h : Reached s image b) :
    b.Orderly ∧ b.Homed ∧ (s.faults = [] → b.Quiet) := by
  refine h.upholds (fun kernel made created hmade => hmade.orderly created) ?_
  rintro new b b' hstep ⟨horderly, hhomed, hquiet⟩
  exact ⟨horderly.step hstep, hstep.homed hhomed, hstep.memory.quiet ∘ hquiet⟩

theorem exists_space (hh : b.Homed) {i : ComponentId} (hi : b.hasComponent i = true) :
    ∃ space, b.kernel.space? i = some space := by
  obtain ⟨c, hc⟩ := Option.isSome_iff_exists.1 hi
  obtain ⟨g, hg⟩ := Pool.at?_eq_some_iff.1 hc
  obtain ⟨hid, hspace⟩ := hh _ g c hg
  have hsame : c.id = i := congrArg ComponentId.mk (UInt64.toNat.inj hid)
  exact hsame ▸ hspace

/-- The state that an answered operation leaves is one of the run. -/
theorem Reached.of_answered (h : Reached s image b) {i : Invocation} {request : Request}
    {progress : Progress Reply} (hend : perform image i request b = .ok progress b') :
    Reached s image b' := by
  have hfinal : (dispatch image i request).final b = b' :=
    Step.final_of_ok (dispatch_of_answered hend)
  exact hfinal ▸ h.act (.request i request)

/-- Whether an operation is answered. -/
def answers (image : Image) (i : Invocation) (request : Request) (b : Broker) : Bool :=
  match perform image i request b with
  | .ok _ _ => true
  | .error _ _ => false

end Service

end CapabilityBroker
