/-
CapabilityBroker/Proofs/Memory/Frames.lean

Which frame is whose.

The machine numbers its frames from the first that can be handed out.  A frame
is spent once it was handed out and does not wait in the contiguous region any
more.  In an accounted state every page on record has a spent frame, and no two
pages have the same one.  Frames are only ever spent (`Broker.Spends`), and a
page that comes takes one that was not spent before (`Broker.Takes`), so the
account stays right on any machine, whatever faults are planned.  The contiguous
region gives its frames up in order, as long as it has any (`advanceContig_gives`).
-/
import CapabilityBroker.Memory.Contiguous
import CapabilityBroker.Proofs.Move.Basic

namespace CapabilityBroker

/-! ### Numbers of frames -/

namespace Kernel.Layout

variable {l : Layout} {n m j count : Nat} {first frame frame' : Paddr}

/-- The frame with a number, counted from the first that can be handed out. -/
def IsFrame (l : Layout) (n : Nat) (frame : Paddr) : Prop :=
  frame.toNat = l.physBase.toNat + n * pageSize

theorem IsFrame.inj (h : l.IsFrame n frame) (h' : l.IsFrame m frame) : n = m := by
  have heq : n * pageSize = m * pageSize := by
    unfold IsFrame at h h'
    omega
  exact Nat.mul_right_cancel (by decide) heq

theorem isFrame_of_addPages (h : l.physBase.addPages n = some first) : l.IsFrame n first :=
  Paddr.addPages_eq_some_iff.1 h

theorem IsFrame.behind (h : l.IsFrame n first) (hj : first.addPages j = some frame) :
    l.IsFrame (n + j) frame := by
  rw [Paddr.addPages_eq_some_iff, h, Nat.add_assoc, ← Nat.add_mul] at hj
  exact hj

/-- Frames that follow one another have numbers that do. -/
theorem IsFrame.handedOut {k : Kernel} (h : k.layout.IsFrame n first)
    (hend : n + count ≤ k.nextFrame) : k.HandedOut first count := by
  have hmul : (n + count) * pageSize ≤ k.nextFrame * pageSize := Nat.mul_le_mul_right _ hend
  rw [Nat.add_mul] at hmul
  unfold HandedOut
  rw [h]
  omega

end Kernel.Layout

/-! ### Spent frames -/

namespace Broker

variable {b b' b'' : Broker} {frame : Paddr} {region : ContigRegion} {n m count : Nat}

/-- The frame waits in the contiguous region to be carved off. -/
def Waits (b : Broker) (n : Nat) : Prop :=
  ∃ region m, b.contig = some region ∧ b.kernel.layout.IsFrame m region.base ∧
    m + region.used ≤ n ∧ n < m + region.capacity

/-- The frame was handed out, and waits for nothing. -/
def Spent (b : Broker) (n : Nat) : Prop := n < b.kernel.nextFrame ∧ ¬ b.Waits n

/-- No more frames were handed out than there are, and the contiguous region lies
within those that were. -/
structure Bounded (b : Broker) : Prop where
  frames : b.kernel.nextFrame ≤ b.kernel.layout.physFrames
  region : ∀ region, b.contig = some region → region.used ≤ region.capacity ∧
    (region.capacity ≠ 0 → ∃ m, b.kernel.layout.IsFrame m region.base ∧
      m + region.capacity ≤ b.kernel.nextFrame)

/-- Every page has a spent frame of its own. -/
structure Accounted (b : Broker) : Prop where
  bounded : b.Bounded
  spent : ∀ i page, b.pages.at? i = some page →
    ∃ n, b.kernel.layout.IsFrame n page.frame ∧ b.Spent n
  apart : ∀ i j page page', b.pages.at? i = some page → b.pages.at? j = some page' →
    page.frame = page'.frame → i = j

/-- Frames are spent, and none comes back. -/
structure Spends (b b' : Broker) : Prop where
  layout : b'.kernel.layout = b.kernel.layout
  bounded : b'.Bounded
  spent : ∀ n, b.Spent n → b'.Spent n

/-- The frame was not spent before, and is now. -/
def Takes (b b' : Broker) (frame : Paddr) : Prop :=
  ∃ n, b.kernel.layout.IsFrame n frame ∧ ¬ b.Spent n ∧ b'.Spent n

theorem Spends.refl (h : b.Bounded) : b.Spends b := ⟨rfl, h, fun _ => id⟩

theorem Spends.trans (h : b.Spends b') (h' : b'.Spends b'') : b.Spends b'' :=
  ⟨h'.layout.trans h.layout, h'.bounded, fun n hn => h'.spent n (h.spent n hn)⟩

theorem Takes.trans (h : b.Takes b' frame) (h' : b'.Spends b'') : b.Takes b'' frame := by
  obtain ⟨n, hframe, hbefore, hafter⟩ := h
  exact ⟨n, hframe, hbefore, h'.spent n hafter⟩

/-- The account depends on the kernel's count of frames and on the region. -/
theorem Spends.of_same (h : b.Bounded) (hl : b'.kernel.layout = b.kernel.layout)
    (hn : b'.kernel.nextFrame = b.kernel.nextFrame) (hc : b'.contig = b.contig) :
    b.Spends b' := by
  refine ⟨hl, ⟨?_, ?_⟩, ?_⟩
  · rw [hl, hn]
    exact h.frames
  · rw [hl, hn, hc]
    exact h.region
  · unfold Spent Waits
    rw [hl, hn, hc]
    exact fun _ => id

/-- A frame that waits was handed out. -/
theorem Bounded.lt_of_waits (h : b.Bounded) (hw : b.Waits n) : n < b.kernel.nextFrame := by
  obtain ⟨region, m, hregion, hbase, _, hlt⟩ := hw
  obtain ⟨m', hbase', hend⟩ := (h.region region hregion).2 (by omega)
  obtain rfl := hbase.inj hbase'
  omega

/-! ### Handing frames out -/

/-- Frames are handed out. -/
theorem Bounded.draw {k : Kernel} (h : b.Bounded) (hl : k.layout = b.kernel.layout)
    (hn : k.nextFrame = b.kernel.nextFrame + count)
    (hroom : b.kernel.nextFrame + count ≤ b.kernel.layout.physFrames) :
    b.Spends { b with kernel := k } := by
  refine ⟨hl, ⟨?_, fun region hregion => ?_⟩, fun n ⟨hlt, hwaits⟩ => ⟨?_, ?_⟩⟩
  · show k.nextFrame ≤ k.layout.physFrames
    rw [hn, hl]
    exact hroom
  · obtain ⟨hused, hbase⟩ := h.region region hregion
    refine ⟨hused, fun hc => ?_⟩
    obtain ⟨m, hm, hend⟩ := hbase hc
    refine ⟨m, ?_, ?_⟩
    · show k.layout.IsFrame m region.base
      rw [hl]
      exact hm
    · show m + region.capacity ≤ k.nextFrame
      omega
  · show n < k.nextFrame
    omega
  · unfold Waits at hwaits ⊢
    show ¬ ∃ region m, b.contig = some region ∧ k.layout.IsFrame m region.base ∧ _
    rwa [hl]

/-- What is handed out was not spent before. -/
theorem Bounded.takes_drawn {k : Kernel} (h : b.Bounded) (hl : k.layout = b.kernel.layout)
    (hn : k.nextFrame = b.kernel.nextFrame + count) {j : Nat} (hj : j < count)
    (hframe : b.kernel.layout.IsFrame (b.kernel.nextFrame + j) frame) :
    b.Takes { b with kernel := k } frame := by
  refine ⟨_, hframe, fun hspent => ?_, ?_, fun hwaits => ?_⟩
  · exact absurd hspent.1 (Nat.not_lt.2 (Nat.le_add_right _ _))
  · show b.kernel.nextFrame + j < k.nextFrame
    omega
  -- What waits was handed out earlier.
  · have hwaits' : b.Waits (b.kernel.nextFrame + j) := by
      unfold Waits at hwaits ⊢
      have hsame : ({ b with kernel := k } : Broker).kernel.layout = b.kernel.layout := hl
      rwa [hsame] at hwaits
    exact absurd (h.lt_of_waits hwaits') (Nat.not_lt.2 (Nat.le_add_right _ _))

/-- The region after so many more pages were carved off. -/
def carved (region : ContigRegion) (count : Nat) : ContigRegion :=
  { region with used := region.used + count }

/-- Pages are carved off the region. -/
theorem Bounded.carve (h : b.Bounded) (hregion : b.contig = some region)
    (hroom : region.used + count ≤ region.capacity) :
    b.Spends { b with contig := some (carved region count) } := by
  refine ⟨rfl, ⟨h.frames, ?_⟩, fun n ⟨hlt, hwaits⟩ => ⟨hlt, ?_⟩⟩
  · rintro _ ⟨⟩
    exact ⟨hroom, (h.region region hregion).2⟩
  · rintro ⟨_, m, ⟨⟩, hbase, hle, hend⟩
    have hle' : m + (region.used + count) ≤ n := hle
    exact hwaits ⟨region, m, hregion, hbase, by omega, hend⟩

/-- What is carved off was not spent before. -/
theorem Bounded.takes_carved (h : b.Bounded) (hregion : b.contig = some region)
    (hroom : region.used + count ≤ region.capacity) {j : Nat} (hj : j < count) {first : Paddr}
    (hfirst : region.base.addPages region.used = some first)
    (hframe : first.addPages j = some frame) :
    b.Takes { b with contig := some (carved region count) } frame := by
  obtain ⟨m, hbase, hend⟩ := (h.region region hregion).2 (by omega)
  have hnumber : b.kernel.layout.IsFrame (m + region.used + j) frame :=
    (hbase.behind hfirst).behind hframe
  refine ⟨_, hnumber, fun hspent => ?_, ?_, ?_⟩
  · exact hspent.2 ⟨region, m, hregion, hbase, by omega, by omega⟩
  · show m + region.used + j < b.kernel.nextFrame
    omega
  · rintro ⟨_, m', ⟨⟩, hbase', hle, _⟩
    obtain rfl := hbase.inj hbase'
    have hle' : m + (region.used + count) ≤ m + region.used + j := hle
    omega

/-- A region is set aside; its frames were handed out just before. -/
theorem spends_region {k : Kernel} (hl : k.layout = b.kernel.layout)
    (hn : k.nextFrame = b.kernel.nextFrame + count)
    (hroom : b.kernel.nextFrame + count ≤ b.kernel.layout.physFrames) {base : Paddr}
    (hbase : count ≠ 0 → b.kernel.layout.IsFrame b.kernel.nextFrame base) :
    b.Spends { b with kernel := k, contig := some ⟨base, count, 0⟩ } := by
  refine ⟨hl, ⟨?_, ?_⟩, fun n ⟨hlt, _⟩ => ⟨?_, ?_⟩⟩
  · show k.nextFrame ≤ k.layout.physFrames
    rw [hn, hl]
    exact hroom
  · rintro _ ⟨⟩
    refine ⟨Nat.zero_le _, fun hc => ⟨b.kernel.nextFrame, ?_, Nat.le_of_eq hn.symm⟩⟩
    show k.layout.IsFrame _ base
    rw [hl]
    exact hbase hc
  · show n < k.nextFrame
    omega
  · rintro ⟨_, m, ⟨⟩, hm, hle, hend⟩
    have hc : count ≠ 0 := by
      have hend' : n < m + count := hend
      have hle' : m + 0 ≤ n := hle
      omega
    have hm' : b.kernel.layout.IsFrame m base := hl ▸ hm
    obtain rfl := hm'.inj (hbase hc)
    exact absurd hlt (Nat.not_lt.2 hle)

/-! ### What the region gives up -/

theorem contigUsed_eq (h : b.contig = some region) : b.contigUsed = region.used := by
  unfold contigUsed
  rw [h]
  rfl

theorem contigCapacity_eq (h : b.contig = some region) : b.contigCapacity = region.capacity := by
  unfold contigCapacity
  rw [h]
  rfl

/-- The region had so many pages left, and has given them up. -/
structure GivesUp (region : ContigRegion) (count : Nat) (b b' : Broker) : Prop where
  there : b.contig = some region
  room : region.used + count ≤ region.capacity
  rest : b' = { b with contig := some (carved region count) }

end Broker

/-- The region gives up as many pages as it is asked for, behind those that it gave up
before, or it says how many are left.  It gives them up before it is known whether they
have addresses. -/
theorem advanceContig_gives {b : Broker} {count : Nat} (hc : count ≠ 0) :
    (advanceContig count).Leads b
      (fun carved b' => ∃ region, b.GivesUp region count b' ∧
        region.base.addPages region.used = some carved.1 ∧ carved.2 = region.used)
      (fun why b' =>
        (why = .refused (.contigExhausted count (b.contigCapacity - b.contigUsed)) ∧
          b.contigCapacity < b.contigUsed + count ∧ b' = b) ∨
        (why = .abort ∧ ∃ region, b.GivesUp region count b' ∧
          region.base.addPages region.used = none)) := by
  apply Step.Leads.get_bind
  cases hregion : b.contig with
  | none =>
    have hcapacity : b.contigCapacity = 0 := by
      unfold Broker.contigCapacity
      rw [hregion]
      rfl
    rw [hcapacity, Nat.zero_sub]
    exact Step.leads_refuse.2 (.inl ⟨rfl, by omega, rfl⟩)
  | some region =>
    rw [Broker.contigUsed_eq hregion, Broker.contigCapacity_eq hregion]
    refine Step.Leads.ite (fun hfull => Step.leads_refuse.2 (.inl ⟨rfl, hfull, rfl⟩))
      fun hroom => ?_
    have hgives : b.GivesUp region count { b with contig := some (Broker.carved region count) } :=
      ⟨hregion, Nat.le_of_not_lt hroom, rfl⟩
    refine Step.Leads.modify_bind (Step.Leads.exact_bind (fun first hfirst => ?_) fun hnone => ?_)
    · exact Step.leads_pure.2 ⟨region, hgives, hfirst, rfl⟩
    · exact .inr ⟨rfl, region, hgives, hnone⟩

end CapabilityBroker
