/-
CapabilityBroker/Proofs/Memory/Tables.lean

What comes into the page tables.

`b.Fills new b'` bounds a stretch of a run from above: frames were at most
spent, and every entry of a page table was there before or is in `new`.  A
planned fault may put a frame where it does not belong, so entries are spoken of
only where none is planned.  `b.Draws b'` is the case that most operations stay
in when they stop: nothing came on record, and what was put into page tables are
frames that were not spent before.

Both are preorders, so both pass through the combinators.  A mapping fills page
tables with the run that it maps (`Maps`), and where it stops, with frames of
that run (`Strays`).
-/
import CapabilityBroker.Proofs.Kernel.Heaps
import CapabilityBroker.Proofs.Memory.Frames

namespace CapabilityBroker

open Kernel (RunAt RunIn)
open Step (Stays StaysFrom)

variable {b b' b'' : Broker} {into : ComponentId} {vaddr : Vaddr} {first frame : Paddr}
  {count : Nat} {align : UInt64} {new new' : ComponentId → Nat → Paddr → Prop}

namespace Broker

/-! ### Entries -/

/-- No fault is planned any more. -/
def Quiet (b : Broker) : Prop := b.kernel.faults.pending = []

/-- Frames are spent, and page tables gain at most the entries in `new`. -/
structure Fills (new : ComponentId → Nat → Paddr → Prop) (b b' : Broker) : Prop where
  spends : b.Bounded → b.Spends b'
  quiet : b.Quiet → b'.Quiet
  entries : b.Bounded → b.Quiet → ∀ id n frame, b'.kernel.frameAt? id n = some frame →
    b.kernel.frameAt? id n = some frame ∨ new id n frame

theorem quiet_of_faults (h : ∀ f ∈ b'.kernel.faults.pending, f ∈ b.kernel.faults.pending)
    (hq : b.Quiet) : b'.Quiet := by
  unfold Quiet at hq
  rw [hq] at h
  exact List.eq_nil_iff_forall_not_mem.2 fun f hf => List.not_mem_nil (h f hf)

namespace Fills

theorem refl (b : Broker) : b.Fills new b := ⟨.refl, id, fun _ _ _ _ _ => .inl⟩

theorem trans (h : b.Fills new b') (h' : b'.Fills new b'') : b.Fills new b'' where
  spends hb := (h.spends hb).trans (h'.spends (h.spends hb).bounded)
  quiet := h'.quiet ∘ h.quiet
  entries hb hq id n frame hframe := by
    rcases h'.entries (h.spends hb).bounded (h.quiet hq) id n frame hframe with hold | hnew
    · exact h.entries hb hq id n frame hold
    · exact .inr hnew

theorem mono (h : b.Fills new b')
    (hnew : b.Bounded → b.Quiet → ∀ id n frame, new id n frame → new' id n frame) :
    b.Fills new' b' :=
  ⟨h.spends, h.quiet, fun hb hq id n frame hframe =>
    (h.entries hb hq id n frame hframe).imp_right (hnew hb hq id n frame)⟩

/-- Where nothing new can be, anything may be said of it. -/
theorem of_none (h : b.Fills (fun _ _ _ => False) b') : b.Fills new b' :=
  h.mono fun _ _ _ _ _ => False.elim

/-- Only the kernel and the region matter. -/
theorem of_same (hk : b'.kernel = b.kernel) (hc : b'.contig = b.contig) : b.Fills new b' := by
  refine ⟨fun hb => ?_, fun hq => ?_, fun _ _ id n frame hframe => .inl ?_⟩
  · exact .of_same hb (by rw [hk]) (by rw [hk]) hc
  · unfold Quiet
    rw [hk]
    exact hq
  · rwa [hk] at hframe

/-- The kernel hands no frame out; where no fault is planned, its tables gain
what is in `new`. -/
theorem of_grows {k : Kernel} (h : b.kernel.Grows 0 (fun _ _ _ => True) k)
    (hquiet : b.Quiet → b.kernel.Grows 0 new k) : b.Fills new { b with kernel := k } where
  spends hb := .of_same hb h.memory.layout h.frames rfl
  quiet := quiet_of_faults h.memory.faults
  entries _ hq := (hquiet hq).entries

end Fills

/-- An operation on objects maps nothing. -/
theorem ObjectMove.fills {adds : ComponentId → Option Kernel.Resources → Prop}
    (h : b.ObjectMove adds b') : b.Fills new b' where
  spends hb := .of_same hb h.kernel.layout h.kernel.nextFrame h.contig
  quiet := quiet_of_faults h.kernel.faults
  entries _ _ id n frame hframe := by
    left
    cases hs : b.kernel.space? id with
    | none =>
      obtain ⟨s', hs', hn⟩ := Option.bind_eq_some_iff.1 hframe
      rw [(h.kernel.fresh id s' hs hs').2] at hn
      simp at hn
    | some s =>
      obtain ⟨s', hs', hm⟩ := h.kernel.spaces id s hs
      rw [Kernel.frameAt?_eq hs', hm.pages] at hframe
      rw [Kernel.frameAt?_eq hs]
      exact hframe

/-! ### Drawing frames -/

/-- Nothing came on record, and page tables gained at most frames that were not
spent before. -/
structure Draws (b b' : Broker) : Prop where
  pages : b.pages.Reserves b'.pages
  spans : b.spans.Reserves b'.spans
  fills : b.Fills (fun _ _ frame => b.Takes b' frame) b'

/-- What was not spent later was not spent before. -/
theorem Spends.takes (h : b.Spends b') (ht : b'.Takes b'' frame) : b.Takes b'' frame := by
  obtain ⟨n, hframe, hbefore, hafter⟩ := ht
  rw [h.layout] at hframe
  exact ⟨n, hframe, fun hn => hbefore (h.spent n hn), hafter⟩

namespace Draws

theorem refl (b : Broker) : b.Draws b := ⟨.refl _, .refl _, .refl b⟩

theorem trans (h : b.Draws b') (h' : b'.Draws b'') : b.Draws b'' where
  pages := h.pages.trans (fun _ _ _ => False.elim) h'.pages
  spans := h.spans.trans (fun _ _ _ => False.elim) h'.spans
  fills := by
    have hbounded : b.Bounded → b'.Bounded := fun hb => (h.fills.spends hb).bounded
    refine ⟨fun hb => (h.fills.spends hb).trans (h'.fills.spends (hbounded hb)),
      h'.fills.quiet ∘ h.fills.quiet, fun hb hq id n frame hframe => ?_⟩
    rcases h'.fills.entries (hbounded hb) (h.fills.quiet hq) id n frame hframe with hold | hnew
    · exact (h.fills.entries hb hq id n frame hold).imp_right
        fun ht => ht.trans (h'.fills.spends (hbounded hb))
    · exact .inr ((h.fills.spends hb).takes hnew)

instance : IsPreorder Broker Draws where
  refl := refl
  trans _ _ _ := trans

/-- What is written down is no part of this. -/
theorem of_notes {scheduler : Scheduler} {barriers : Barriers} {trail : Trail Event}
    {journal : Trail JournalLine} :
    b.Draws { b with scheduler, barriers, trail, journal } := ⟨.refl _, .refl _, .of_same rfl rfl⟩

end Draws

theorem pagePool_draws : pagePool.Allows Draws Pool.Reserves :=
  fun _ _ h => ⟨h, .refl _, .of_same rfl rfl⟩

theorem spanPool_draws : spanPool.Allows Draws Pool.Reserves :=
  fun _ _ h => ⟨.refl _, h, .of_same rfl rfl⟩

/-- Frames are claimed: they were not spent before, and nothing else
happens. -/
structure Claims (first : Paddr) (count : Nat) (b b' : Broker) : Prop where
  pages : b'.pages = b.pages
  spans : b'.spans = b.spans
  fills : b.Fills (fun _ _ _ => False) b'
  taken : b.Bounded → ∀ j < count, ∀ frame, first.addPages j = some frame → b.Takes b' frame

theorem Draws.of_fills (hp : b'.pages = b.pages) (hs : b'.spans = b.spans)
    (h : b.Fills (fun _ _ _ => False) b') : b.Draws b' := by
  refine ⟨?_, ?_, h.of_none⟩
  · rw [hp]
    exact .refl _
  · rw [hs]
    exact .refl _

theorem ObjectMove.draws {adds : ComponentId → Option Kernel.Resources → Prop}
    (h : b.ObjectMove adds b') : b.Draws b' := .of_fills h.pages h.spans h.fills

/-! ### Where frames come from -/

/-- The kernel hands out the frames from its frontier on. -/
theorem claims_drawn {k : Kernel} (hroom : b.kernel.nextFrame + count ≤ b.kernel.layout.physFrames)
    (hfirst : b.kernel.layout.physBase.addPages b.kernel.nextFrame = some first)
    (h : b.kernel.Grows count (fun _ _ _ => False) k) :
    b.Claims first count { b with kernel := k } where
  pages := rfl
  spans := rfl
  fills := ⟨fun hb => hb.draw h.memory.layout h.frames hroom, quiet_of_faults h.memory.faults,
    fun _ _ => h.entries⟩
  taken hb _ hj _ hframe := hb.takes_drawn h.memory.layout h.frames hj
    ((Kernel.Layout.isFrame_of_addPages hfirst).behind hframe)

theorem draws_stopped {k : Kernel} (h : b.kernel.Grows 0 (fun _ _ _ => False) k) :
    b.Draws { b with kernel := k } :=
  .of_fills rfl rfl (.of_grows (h.mono fun _ _ _ _ => trivial) fun _ => h)

end Broker

theorem reserveFrames_claims (count : Nat) :
    (reserveFrames count).Leads b (fun first b' => b.Claims first count b') (fun _ => b.Draws) := by
  refine Part.run_leads (Step.leads_explain.2 ((Kernel.reserveFrames_grows count).mono ?_ ?_))
  · rintro first k ⟨hroom, hfirst, hgrows⟩
    exact Broker.claims_drawn hroom hfirst hgrows
  · exact fun _ k hgrows => Broker.draws_stopped hgrows

/-- The region gives the frames behind those that it gave. -/
theorem advanceContig_claims (hc : count ≠ 0) :
    (advanceContig count).Leads b (fun carved b' => b.Claims carved.1 count b')
      (fun _ => b.Draws) := by
  have hfills : ∀ {region b'}, b.GivesUp region count b' → b.Fills (fun _ _ _ => False) b' := by
    rintro region _ ⟨hregion, hroom, rfl⟩
    exact ⟨fun hb => hb.carve hregion hroom, id, fun _ _ _ _ _ => .inl⟩
  refine (advanceContig_gives hc).mono ?_ ?_
  · rintro carved b' ⟨region, hgives, hfirst, _⟩
    have hfilled := hfills hgives
    obtain ⟨hregion, hroom, rfl⟩ := hgives
    exact ⟨rfl, rfl, hfilled, fun hb j hj frame hframe =>
      hb.takes_carved hregion hroom hj hfirst hframe⟩
  · rintro why b' (⟨_, _, rfl⟩ | ⟨_, region, hgives, _⟩)
    · exact .refl _
    · have hfilled := hfills hgives
      obtain ⟨_, _, rfl⟩ := hgives
      exact .of_fills rfl rfl hfilled

/-! ### Mapping -/

namespace Broker

/-- A run is mapped at an address, and every page of it is found there. -/
structure Maps (into : ComponentId) (first : Paddr) (count : Nat) (align : UInt64)
    (vaddr : Vaddr) (b b' : Broker) : Prop where
  rest : b' = { b with kernel := b'.kernel }
  frames : b'.kernel.nextFrame = b.kernel.nextFrame
  fills : b.Fills (RunAt into vaddr first count) b'
  pages : ∀ j < count, b'.kernel.FindsPage into vaddr first j
  placed : b.Quiet → ∃ s, b.kernel.space? into = some s ∧ s.heapFrontier.alignUp align = some vaddr
  grows : b.kernel.GrowsBy ⟨into, .frames count align, vaddr⟩ b'.kernel

/-- A run was not mapped, for a reason; some of its frames may have strayed into
the page table. -/
structure Strays (into : ComponentId) (first : Paddr) (count : Nat) (align : UInt64)
    (why : Stop Defect) (b b' : Broker) : Prop where
  rest : b' = { b with kernel := b'.kernel }
  fills : b.Fills (RunIn into first count) b'
  overflows : b.Quiet → why = .abort → b.kernel.HandedOut first count →
    b.kernel.Overflows into align count
  refused : b.Quiet → ∀ reason, why = .refused reason →
    b' = b ∧ (b.kernel.HandedOut first count → b.kernel.space? into = none)
  heaps : b.Quiet → b.kernel.SameHeaps b'.kernel

end Broker

/-- Where no fault is planned, what was mapped passes its check. -/
theorem mapVerified_maps (ha : pageSize ∣ align.toNat) :
    (mapVerified first count align into).Leads b
      (fun vaddr b' => b.Maps into first count align vaddr b')
      (fun why b' => b.Strays into first count align why b') := by
  have halias := ((Kernel.aliasFrames_grows first count align into b.kernel).and
    (Step.Leads.given (P := b.Quiet) fun hq => Kernel.aliasFrames_quiet hq)).and
      (Kernel.Call.frames first count align into).run_awards
  refine Step.leads_bind.2 (Part.run_leads (Step.leads_explain.2 (halias.mono ?_ ?_)))
  · rintro vaddr k ⟨⟨hgrows, hquiet⟩, hheap⟩
    have hverify := Kernel.verifyFrom_leads.and
      (Step.Leads.given (P := b.Quiet) fun hq => ((hquiet hq).2.2 ha).verifies)
    refine Step.leads_bind.2 (Part.run_leads (hverify.mono ?_ ?_))
    · rintro _ _ ⟨⟨rfl, hfound⟩, _⟩
      have hfills := Broker.Fills.of_grows (b := b) hgrows fun hq => (hquiet hq).1
      refine Step.leads_pure.2 ⟨rfl, hgrows.frames, hfills, fun j hj => ?_, ?_, hheap⟩
      · exact hfound j (Nat.zero_le j) (by omega)
      · intro hq
        obtain ⟨s, hs, hv, _⟩ := (hquiet hq).2.1
        exact ⟨s, hs, hv⟩
    · rintro why _ ⟨rfl, hnever⟩
      refine ⟨rfl, .of_grows hgrows fun hq => (hquiet hq).1.mono fun _ _ _ => RunAt.runIn,
        fun hq => ?_, fun hq => ?_, fun hq => ?_⟩
      · exact (hnever hq).elim
      · exact (hnever hq).elim
      · exact (hnever hq).elim
  · rintro why k ⟨⟨hgrows, hquiet⟩, hheaps⟩
    refine ⟨rfl, .of_grows hgrows fun hq => (hquiet hq).1, fun hq habort => ?_,
      fun hq reason => ?_, fun _ => hheaps⟩
    · cases why with
      | refused reason => cases habort
      | abort => exact (hquiet hq).2.1 rfl
    · cases why with
      | abort => exact nofun
      | refused cause =>
        intro _
        obtain ⟨rfl, hmissing⟩ := (hquiet hq).2.2 cause rfl
        exact ⟨rfl, hmissing⟩

end CapabilityBroker
