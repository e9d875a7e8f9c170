/-
CapabilityBroker/Proofs/Memory/Noted.lean

Page tables that say no more than the records.

An entry with the frame of a page is noted if the record of the page has the
place of the entry.  In a noted state every entry of a component other than the
broker is, and no page table has a frame that is still to be handed out: the
second half is what makes the first one last, for a page that comes on record
finds no entry with its frame but its own.  Both are kept by every step that
leaves no frame of the machine in a page table without a note.
-/
import Mathlib.Data.List.Perm.Subperm
import CapabilityBroker.Proofs.Memory.Whole

namespace CapabilityBroker

open Kernel (RunAt)

variable {b b' : Broker} {own c into : ComponentId} {n k : Nat} {page page' : Page}
  {frame : Paddr} {r : PageRun} {span : Span} {head : Page} {align : UInt64} {vaddr : Vaddr}
  {new : ComponentId → Nat → Paddr → Prop}

/-- The record of the page has the place of the entry. -/
def Page.Notes (page : Page) (c : ComponentId) (n : Nat) : Prop :=
  ∃ place, ⟨c, place⟩ ∈ page.mappings ∧ place.toNat = n * pageSize

/-- A note stays when the page is mapped once more. -/
theorem Page.Notes.addMapping {m : Mapping} (h : page.Notes c n) :
    (page.addMapping m).Notes c n := by
  obtain ⟨place, hmem, hplace⟩ := h
  exact ⟨place, List.mem_append_left _ hmem, hplace⟩

/-- A page has no more notes than mappings. -/
theorem Page.length_le_of_notes {places : List (ComponentId × Nat)} (page : Page)
    (hnodup : places.Nodup) (hnotes : ∀ p ∈ places, page.Notes p.1 p.2) :
    places.length ≤ page.mappings.length := by
  have hsub : places ⊆ page.mappings.map fun m => (m.component, m.vaddr.pageNumber) := by
    intro p hp
    obtain ⟨place, hmem, hplace⟩ := hnotes p hp
    have hnumber : place.pageNumber = p.2 := by
      show place.toNat / pageSize = p.2
      rw [hplace]
      exact Nat.mul_div_cancel _ (by decide)
    exact List.mem_map.2 ⟨_, hmem, Prod.ext rfl hnumber⟩
  have hle := (List.subperm_of_subset hnodup hsub).length_le
  rw [List.length_map] at hle
  exact hle

/-- The machine hands the frame out, sooner or later. -/
def Kernel.Layout.HandsOut (l : Kernel.Layout) (frame : Paddr) : Prop :=
  ∃ m < l.physFrames, l.IsFrame m frame

namespace Broker

/-- No page table but the broker's has a frame that is not spent yet, and every
entry with the frame of a page is noted. -/
structure Noted (own : ComponentId) (b : Broker) : Prop where
  spent : ∀ c n frame m, c ≠ own → b.kernel.frameAt? c n = some frame →
    b.kernel.layout.IsFrame m frame → m < b.kernel.layout.physFrames → b.Spent m
  noted : ∀ k page c n, b.pages.at? k = some page → c ≠ own →
    b.kernel.frameAt? c n = some page.frame → page.Notes c n

/-! ### Frames of pages -/

/-- The number of a page's frame. -/
theorem Orderly.number (h : b.Orderly) (hpage : b.pages.at? k = some page) :
    ∃ m < b.kernel.layout.physFrames, b.kernel.layout.IsFrame m page.frame ∧ b.Spent m := by
  obtain ⟨m, hm, hspent⟩ := h.accounted.spent k page hpage
  exact ⟨m, Nat.lt_of_lt_of_le hspent.1 h.accounted.bounded.frames, hm, hspent⟩

theorem Orderly.handsOut (h : b.Orderly) (hpage : b.pages.at? k = some page) :
    b.kernel.layout.HandsOut page.frame := by
  obtain ⟨m, hlt, hm, _⟩ := h.number hpage
  exact ⟨m, hlt, hm⟩

/-- No page has a frame that was not spent before. -/
theorem Orderly.ne_of_takes (h : b.Orderly) (hpage : b.pages.at? k = some page)
    (ht : b.Takes b' frame) : page.frame ≠ frame := by
  rintro rfl
  obtain ⟨m, _, hm, hspent⟩ := h.number hpage
  obtain ⟨m', hm', hunspent, _⟩ := ht
  exact hunspent (hm.inj hm' ▸ hspent)

/-- The frames of a run that is published were not spent before. -/
theorem Publishes.takes {j : Nat} (h : b.Publishes r b') (hb : b.Bounded) (hj : j < r.count)
    (hpage : r.page? j = some page) : b.Takes b' page.frame :=
  h.taken hb j hj _ (PageRun.page?_eq_some_iff.1 hpage).2

/-! ### New entries -/

/-- A step spends frames; its new entries have frames that are spent now. -/
theorem Noted.spent_of_fills (h : b.Noted own) (hb : b.Bounded) (hq : b.Quiet)
    (hf : b.Fills new b') (hnew : ∀ c n frame m, c ≠ own → new c n frame →
      b.kernel.layout.IsFrame m frame → m < b.kernel.layout.physFrames → b'.Spent m) :
    ∀ c n frame m, c ≠ own → b'.kernel.frameAt? c n = some frame →
      b'.kernel.layout.IsFrame m frame → m < b'.kernel.layout.physFrames → b'.Spent m := by
  intro c n frame m hc hframe hm hlt
  have hspends := hf.spends hb
  rw [hspends.layout] at hm hlt
  rcases hf.entries hb hq c n frame hframe with hold | hnew'
  · exact hspends.spent m (h.spent c n frame m hc hold hm hlt)
  · exact hnew c n frame m hc hnew' hm hlt

/-- Where the new frames were not spent before, they are now. -/
theorem Takes.spent {m : Nat} (h : b.Takes b' frame) (hm : b.kernel.layout.IsFrame m frame) :
    b'.Spent m := by
  obtain ⟨m', hm', _, hspent⟩ := h
  exact hm.inj hm' ▸ hspent

/-! ### One step -/

theorem Noted.draws (h : b.Noted own) (ho : b.Orderly) (hq : b.Quiet) (hd : b.Draws b') :
    b'.Noted own where
  spent := h.spent_of_fills ho.accounted.bounded hq hd.fills fun _ _ _ _ _ ht hm _ => ht.spent hm
  noted k page c n hpage hc hframe := by
    rw [hd.pages.at?_eq] at hpage
    rcases hd.fills.entries ho.accounted.bounded hq c n _ hframe with hold | ht
    · exact h.noted k page c n hpage hc hold
    · exact absurd rfl (ho.ne_of_takes hpage ht)

/-- A page that comes on record finds no entry with its frame but its own. -/
theorem Noted.publishes (h : b.Noted own) (ho : b.Orderly) (hq : b.Quiet)
    (hp : b.Publishes r b') : b'.Noted own := by
  have hb := ho.accounted.bounded
  have ho' := ho.accounted.publishes hp
  constructor
  · refine h.spent_of_fills hb hq hp.fills fun c n frame m _ hmapped hm _ => ?_
    obtain ⟨j, hj, page, hpage, rfl, _⟩ := hmapped
    exact (hp.takes hb hj hpage).spent hm
  · intro k page c n hpage hc hframe
    rcases hp.fills.entries hb hq c n _ hframe with hold | hmapped
    · rcases hp.pages.cases hpage with hpage | ⟨j, hj, _, hrun⟩
      · exact h.noted k page c n hpage hc hold
      -- Its frame was not spent, so it was in no page table.
      · obtain ⟨m, hm, hunspent, hspent⟩ := hp.takes hb hj hrun
        have hlayout := (hp.fills.spends hb).layout
        have hlt : m < b'.kernel.layout.physFrames :=
          Nat.lt_of_lt_of_le hspent.1 ho'.bounded.frames
        exact absurd (h.spent c n _ m hc hold hm (hlayout ▸ hlt)) hunspent
    · obtain ⟨j, hj, page', hrun, hsame, place, hmem, hplace⟩ := hmapped
      obtain ⟨found, hfound, hthere⟩ := hp.pages.there j hj
      obtain rfl := Option.some.inj (hrun.symm.trans hfound)
      have hk := ho'.apart _ _ _ _ hthere hpage hsame
      rw [hk, hpage] at hthere
      obtain rfl := Option.some.inj hthere
      exact ⟨place, hmem, hplace⟩

/-- The frame of a new entry of a shared span is that of one of its pages. -/
theorem Shares.page_of_runAt (h : b.Shares span head into align vaddr b') {id : ComponentId}
    (hrun : RunAt into vaddr head.frame span.nPages.toNat id n frame) :
    id = into ∧ ∃ j < span.nPages.toNat, n = vaddr.pageNumber + j ∧ ∃ page place,
      b.pages.at? (span.pageOff + j) = some page ∧ page.frame = frame ∧
      vaddr.addPages j = some place ∧
      b'.pages.at? (span.pageOff + j) = some (page.addMapping ⟨into, place⟩) := by
  obtain ⟨hid, j, hj, hn, hframe⟩ := hrun
  obtain ⟨page, place, hpage, _, hframe', hplace, hthere⟩ := h.pages j hj
  have hsame : page.frame = frame := Option.some.inj (hframe'.symm.trans hframe)
  exact ⟨hid, j, hj, hn, page, place, hpage, hsame, hplace, hthere⟩

/-- Where a span is shared its pages are noted. -/
theorem Noted.shares (h : b.Noted own) (ho : b.Orderly) (hq : b.Quiet)
    (hs : b.Shares span head into align vaddr b') : b'.Noted own := by
  have hb := ho.accounted.bounded
  have hspends := hs.fills.spends hb
  constructor
  · refine h.spent_of_fills hb hq hs.fills fun c n frame m _ hrun hm _ => ?_
    obtain ⟨_, j, _, _, page, _, hpage, rfl, _⟩ := hs.page_of_runAt hrun
    obtain ⟨m', _, hm', hspent⟩ := ho.number hpage
    exact hspends.spent m (hm'.inj hm ▸ hspent)
  · intro k page' c n hpage' hc hframe
    rcases hs.fills.entries hb hq c n _ hframe with hold | hrun
    · rcases hs.cases hpage' with hpage | ⟨j, _, page, place, _, hpage, _, _, rfl⟩
      · exact h.noted k page' c n hpage hc hold
      · exact (h.noted k page c n hpage hc hold).addMapping
    · obtain ⟨rfl, j, _, rfl, page, place, _, hsame, hplace, hthere⟩ := hs.page_of_runAt hrun
      have ho' := ho.accounted.shares hs
      have hk := ho'.apart _ _ _ _ hthere hpage' hsame
      rw [hk, hpage'] at hthere
      obtain rfl := Option.some.inj hthere
      obtain ⟨space, _, hv⟩ := hs.placed hq
      have haligned := Vaddr.dvd_of_alignUp hv hs.alignment
      exact ⟨place, List.mem_append_right _ (List.mem_singleton_self _),
        toNat_place haligned hplace⟩

/-- Entries without a note are of frames that the machine does not hand out. -/
theorem Noted.spares (h : b.Noted own) (ho : b.Orderly) (hq : b.Quiet) (hs : b.Spares new b')
    (hnew : ∀ c n frame, new c n frame → c ≠ own → ¬ b.kernel.layout.HandsOut frame) :
    b'.Noted own where
  spent := by
    refine h.spent_of_fills ho.accounted.bounded hq hs.fills fun c n frame m hc hstray hm hlt => ?_
    exact absurd ⟨m, hlt, hm⟩ (hnew c n frame hstray hc)
  noted k page c n hpage hc hframe := by
    rw [hs.pages] at hpage
    rcases hs.fills.entries ho.accounted.bounded hq c n _ hframe with hold | hstray
    · exact h.noted k page c n hpage hc hold
    · exact absurd (ho.handsOut hpage) (hnew c n _ hstray hc)

/-- A step that leaves no frame of the machine without note keeps a noted state
noted. -/
theorem Noted.step (h : b.Noted own) (ho : b.Orderly) (hq : b.Quiet) (hs : b.MemoryStep new b')
    (hnew : ∀ c n frame, new c n frame → c ≠ own → ¬ b.kernel.layout.HandsOut frame) :
    b'.Noted own := by
  cases hs with
  | expands hexpands =>
    cases hexpands with
    | draws hd => exact h.draws ho hq hd
    | publishes r hp _ => exact h.publishes ho hq hp
    | registers r hp _ => exact h.publishes ho hq hp
  | shares _ hs => exact h.shares ho hq hs
  | spares hs => exact h.spares ho hq hs hnew

/-! ### Pages that come to be seen -/

/-- Pages that come on record bring no entry with the frame of a page that is
there. -/
theorem Orderly.seen_before_expands (ho : b.Orderly) (hq : b.Quiet)
    (hpage : b.pages.at? k = some page) (h : b.Expands b')
    (hseen : b'.kernel.frameAt? c n = some page.frame) :
    b.kernel.frameAt? c n = some page.frame := by
  have hb := ho.accounted.bounded
  have hpublishes : ∀ r, b.Publishes r b' → b.kernel.frameAt? c n = some page.frame := by
    intro r hp
    rcases hp.fills.entries hb hq c n _ hseen with hold | hmapped
    · exact hold
    · obtain ⟨j, hj, page', hrun, hsame, _⟩ := hmapped
      exact absurd hsame.symm (ho.ne_of_takes hpage (hp.takes hb hj hrun))
  cases h with
  | draws hd =>
    rcases hd.fills.entries hb hq c n _ hseen with hold | ht
    · exact hold
    · exact absurd rfl (ho.ne_of_takes hpage ht)
  | publishes r hp _ => exact hpublishes r hp
  | registers r hp _ => exact hpublishes r hp

/-- Where a span is shared, only the component that it is mapped into comes to
see a page, which is a page of the span. -/
theorem Orderly.seen_of_shares (ho : b.Orderly) (hq : b.Quiet) (hpage : b.pages.at? k = some page)
    (hs : b.Shares span head into align vaddr b')
    (hseen : b'.kernel.frameAt? c n = some page.frame) :
    b.kernel.frameAt? c n = some page.frame ∨
      (c = into ∧ span.pageOff ≤ k ∧ k < span.pageOff + span.nPages.toNat) := by
  rcases hs.fills.entries ho.accounted.bounded hq c n _ hseen with hold | hrun
  · exact .inl hold
  · obtain ⟨hid, j, hj, _, page', _, hpage', hsame, _⟩ := hs.page_of_runAt hrun
    have hk := ho.accounted.apart _ _ _ _ hpage' hpage hsame
    exact .inr ⟨hid, by omega, by omega⟩

/-- Where no mapping aborted, a page is seen through the span that was asked for. -/
theorem Orderly.seen_of_sharesSpan {aborts : Prop} {id : Nat} (ho : b.Orderly) (hq : b.Quiet)
    (hpage : b.pages.at? k = some page) (h : b.SharesSpan aborts id into b') (hends : ¬ aborts)
    (hunseen : b.kernel.frameAt? c n ≠ some page.frame)
    (hseen : b'.kernel.frameAt? c n = some page.frame) :
    into = c ∧ ∃ span, b.spans.at? id = some span ∧ span.pageOff ≤ k ∧
      k < span.pageOff + span.nPages.toNat := by
  cases h with
  | shares hspan hs =>
    rcases ho.seen_of_shares hq hpage hs hseen with hold | ⟨hc, hin⟩
    · exact absurd hold hunseen
    · exact ⟨hc.symm, _, hspan, hin⟩
  | spares hs =>
    rcases hs.fills.entries ho.accounted.bounded hq c n _ hseen with hold | habort
    · exact absurd hold hunseen
    · exact absurd habort hends

end Broker

end CapabilityBroker
