/-
CapabilityBroker/Proofs/Conservation.lean

Every page has a frame of its own, and no frame is lost.

Two counters feed the pool of pages: the kernel hands frames out in order, and
pages are carved off the contiguous region, whose frames it handed out at the
start.  Under any faults no frame is ever handed out twice.  A request that
aborts after it drew frames loses them; as long as none does, the frames are as
many as the pages that came from the kernel and those of the region.
-/
import CapabilityBroker.Proofs.Accounts
import CapabilityBroker.Proofs.Answers
import CapabilityBroker.Proofs.Sharing

namespace CapabilityBroker

variable {b : Broker}

namespace Broker

/-- The region lies within the frames that were handed out. -/
theorem Bounded.capacity_le (h : b.Bounded) :
    b.contigUsed ≤ b.contigCapacity ∧ b.contigCapacity ≤ b.kernel.nextFrame := by
  unfold contigUsed contigCapacity
  cases hregion : b.contig with
  | none => exact ⟨Nat.le_refl _, Nat.zero_le _⟩
  | some region =>
    obtain ⟨hused, hwithin⟩ := h.region region hregion
    refine ⟨hused, ?_⟩
    show region.capacity ≤ b.kernel.nextFrame
    by_cases hc : region.capacity = 0
    · omega
    · obtain ⟨m, _, hend⟩ := hwithin hc
      omega

/-- Where no frame was lost, the pages that were not carved off the region have
all frames behind it. -/
theorem Even.conserved (h : b.Even) (hb : b.Bounded) : b.contigUsed ≤ b.pages.active ∧
    b.kernel.nextFrame = b.contigCapacity + (b.pages.active - b.contigUsed) := by
  have hdrawn := h.drawn
  have hcapacity := hb.capacity_le.2
  omega

end Broker

namespace Service

variable {s : Setting} {image : Image}

/-- Under any faults the pages on record have different frames, which the kernel
handed out, and no more was carved off the region than it has.  Before the first
defect there are no fewer frames than the pages account for, and while every
action comes to its end there are no more either. -/
theorem frames_are_conserved (h : Reached s image b) :
    (∀ i j page page', b.pages.at? i = some page → b.pages.at? j = some page' →
      page.frame = page'.frame → i = j) ∧
    (∀ i page, b.pages.at? i = some page →
      ∃ n < b.kernel.nextFrame, s.layout.IsFrame n page.frame) ∧
    b.kernel.nextFrame ≤ s.layout.physFrames ∧ b.contigUsed ≤ b.contigCapacity ∧
    (ReachedBy noDefect s image b →
      b.contigCapacity + b.pages.active ≤ b.kernel.nextFrame + b.contigUsed) ∧
    (ReachedBy answered s image b → b.contigUsed ≤ b.pages.active ∧
      b.kernel.nextFrame = b.contigCapacity + (b.pages.active - b.contigUsed)) := by
  have haccounted : b.Accounted := h.orderly.1.accounted
  have hbounded := haccounted.bounded
  rw [← h.layout]
  refine ⟨haccounted.apart, fun i page hpage => ?_, hbounded.frames, hbounded.capacity_le.1,
    fun hstanding => hstanding.books.2.drawn, fun hanswered => hanswered.even.conserved hbounded⟩
  obtain ⟨n, hframe, hspent⟩ := haccounted.spent i page hpage
  exact ⟨n, hspent.1, hframe⟩

/-- Of 69 frames 64 are the region's, and five of the six pages have the others. -/
theorem busy_day_conserves_frames :
    ∃ image b, ReachedBy answered .ordinary image b ∧
      (b.kernel.nextFrame = b.contigCapacity + (b.pages.active - b.contigUsed) ∧
        b.kernel.nextFrame = 69 ∧ b.contigCapacity = 64 ∧ b.pages.active = 6) ∧
      ∃ page page', b.pages.at? 1 = some page ∧ b.pages.at? 6 = some page' ∧
        page.frame ≠ page'.frame := by
  have hrun : (Setting.ordinary.runWhile answered Setting.busyDay).any (fun p =>
      (p.2.kernel.nextFrame = 69 ∧ p.2.contigCapacity = 64 ∧ p.2.pages.active = 6) ∧
        (p.2.pages.at? 1).isSome = true ∧ (p.2.pages.at? 6).isSome = true) = true := by
    decide +kernel
  obtain ⟨image, b, hanswered, hshows⟩ := exists_reachedBy hrun
  obtain ⟨hcounts, hfirst, hlast⟩ := of_decide_eq_true hshows
  obtain ⟨page, hpage⟩ := Option.isSome_iff_exists.1 hfirst
  obtain ⟨page', hpage'⟩ := Option.isSome_iff_exists.1 hlast
  obtain ⟨hapart, _, _, _, _, heven⟩ := frames_are_conserved hanswered.reached
  refine ⟨image, b, hanswered, ⟨(heven hanswered).2, hcounts⟩, page, page', hpage, hpage', ?_⟩
  exact fun hsame => absurd (hapart 1 6 page page' hpage hpage' hsame) (by decide)

/-- The frame that was drawn for a page for which there is no room has no page. -/
theorem aborted_allocation_loses_its_frame :
    ∃ image b, ReachedBy noDefect .ordinary image b ∧ b.kernel.nextFrame = 66 ∧
      b.contigCapacity + (b.pages.active - b.contigUsed) = 65 := by
  have hrun : (Setting.ordinary.runWhile noDefect
      [.request anyClient pageAtHalf, .request anyClient pageAtHalf]).any (fun p =>
        p.2.kernel.nextFrame = 66 ∧
          p.2.contigCapacity + (p.2.pages.active - p.2.contigUsed) = 65) = true := by
    decide +kernel
  obtain ⟨image, b, hreached, hshows⟩ := exists_reachedBy hrun
  exact ⟨image, b, hreached, of_decide_eq_true hshows⟩

end Service

end CapabilityBroker
