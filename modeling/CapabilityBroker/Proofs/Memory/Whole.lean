/-
CapabilityBroker/Proofs/Memory/Whole.lean

Spans stay whole.

A page is behind the head of its span if its frame and each of its places are so
many pages further on (`Page.Behind`).  A span is whole if all its pages are on
record, each behind the head.  Publishing a run makes a whole span of it, a
mapping notes every page of a span or none, and nothing else changes a page, so
a step keeps every span whole; the same cases keep the account of frames
(`Broker.Orderly.step`).
-/
import CapabilityBroker.Proofs.Memory.Service

namespace CapabilityBroker

variable {b b' : Broker} {into : ComponentId} {align : UInt64} {vaddr : Vaddr} {j k : Nat}
  {span span' : Span} {head page page' : Page} {r : PageRun}
  {new : ComponentId → Nat → Paddr → Prop}

/-! ### Pages behind a head -/

/-- The same component, so many pages further on. -/
structure Mapping.Behind (j : Nat) (m m' : Mapping) : Prop where
  component : m'.component = m.component
  place : m.vaddr.addPages j = some m'.vaddr

/-- The frame of the page is so many pages behind that of the head, and so is each
of its mappings: a slot is taken in one of them if it is in the other. -/
structure Page.Behind (j : Nat) (head page : Page) : Prop where
  frame : head.frame.addPages j = some page.frame
  mappings : ∀ k : Nat, Option.Rel (Mapping.Behind j) head.mappings[k]? page.mappings[k]?

theorem eq_none_iff_of_rel {α β : Type} {R : α → β → Prop} {o : Option α} {o' : Option β}
    (h : Option.Rel R o o') : o = none ↔ o' = none := by
  cases h with
  | none => simp
  | some _ => exact ⟨nofun, nofun⟩

namespace Page

/-- As many slots are taken in the one as in the other. -/
theorem Behind.length (h : head.Behind j page) :
    page.mappings.length = head.mappings.length := by
  have hnone : ∀ k, head.mappings.length ≤ k ↔ page.mappings.length ≤ k := by
    intro k
    rw [← List.getElem?_eq_none_iff, ← List.getElem?_eq_none_iff]
    exact eq_none_iff_of_rel (h.mappings k)
  exact Nat.le_antisymm ((hnone _).1 (Nat.le_refl _)) ((hnone _).2 (Nat.le_refl _))

theorem Behind.hasRoom (h : head.Behind j page) : page.hasRoom = head.hasRoom := by
  unfold Page.hasRoom
  rw [h.length]

/-- Both can be mapped once more, the page behind the head. -/
theorem Behind.addMapping {m m' : Mapping} (h : head.Behind j page) (hm : m.Behind j m') :
    (head.addMapping m).Behind j (page.addMapping m') := by
  refine ⟨h.frame, fun k => ?_⟩
  show Option.Rel _ (head.mappings ++ [m])[k]? (page.mappings ++ [m'])[k]?
  rw [List.getElem?_append, List.getElem?_append, h.length]
  split
  · exact h.mappings k
  · cases k - head.mappings.length with
    | zero => exact .some hm
    | succ i => exact .none

end Page

/-- The first page of a run is its head. -/
theorem PageRun.behind (hhead : r.page? 0 = some head) (hpage : r.page? j = some page) :
    head.Behind j page := by
  obtain ⟨hplaces₀, hframe₀⟩ := PageRun.page?_eq_some_iff.1 hhead
  obtain ⟨hplaces, hframe⟩ := PageRun.page?_eq_some_iff.1 hpage
  rw [Paddr.addPages_zero] at hframe₀
  constructor
  · rw [← Option.some.inj hframe₀]
    exact hframe
  · unfold placeOf? at hplaces₀ hplaces
    cases hmapped : r.mapped with
    | none =>
      rw [hmapped] at hplaces₀ hplaces
      rw [← Option.some.inj hplaces₀, ← Option.some.inj hplaces]
      exact fun _ => .none
    | some place =>
      obtain ⟨component, vaddr⟩ := place
      rw [hmapped] at hplaces₀ hplaces
      simp only [Vaddr.addPages_zero, Option.map_some, Option.some.injEq] at hplaces₀
      obtain ⟨place, hplace, heq⟩ := Option.map_eq_some_iff.1 hplaces
      rw [← hplaces₀, ← heq]
      intro k
      cases k with
      | zero => exact .some ⟨rfl, hplace⟩
      | succ k => exact .none

/-- A page of a run is mapped in one place at most. -/
theorem PageRun.length_mappings (h : r.page? j = some page) : page.mappings.length ≤ 1 := by
  obtain ⟨hplaces, _⟩ := PageRun.page?_eq_some_iff.1 h
  unfold placeOf? at hplaces
  split at hplaces
  · rw [← Option.some.inj hplaces]
    exact Nat.zero_le _
  · obtain ⟨place, _, heq⟩ := Option.map_eq_some_iff.1 hplaces
    rw [← heq]
    exact Nat.le_refl _

/-- Different pages of a run have different frames. -/
theorem PageRun.eq_of_frame (hpage : r.page? j = some page) (hpage' : r.page? k = some page')
    (heq : page.frame = page'.frame) : j = k := by
  have hframe := Paddr.addPages_eq_some_iff.1 (PageRun.page?_eq_some_iff.1 hpage).2
  have hframe' := Paddr.addPages_eq_some_iff.1 (PageRun.page?_eq_some_iff.1 hpage').2
  rw [heq, hframe'] at hframe
  have hsame : k * pageSize = j * pageSize := Nat.add_left_cancel hframe
  exact (Nat.mul_right_cancel (by decide) hsame).symm

/-! ### Whole spans -/

/-- The two spans have no page in common. -/
def Span.Apart (s s' : Span) : Prop :=
  s.pageOff + s.nPages.toNat ≤ s'.pageOff ∨ s'.pageOff + s'.nPages.toNat ≤ s.pageOff

namespace Broker

/-- All pages of the span are on record, each behind the head. -/
structure IsWhole (b : Broker) (span : Span) (head : Page) : Prop where
  nonempty : span.nPages.toNat ≠ 0
  within : span.pageOff + span.nPages.toNat ≤ b.pages.capacity + 1
  heads : b.pages.at? span.pageOff = some head
  pages : ∀ j < span.nPages.toNat, ∃ page, b.pages.at? (span.pageOff + j) = some page ∧
    head.Behind j page

/-- A span is whole where its pages are as they were. -/
theorem IsWhole.of_same (h : b.IsWhole span head) (hcap : b'.pages.capacity = b.pages.capacity)
    (hpages : ∀ j < span.nPages.toNat,
      b'.pages.at? (span.pageOff + j) = b.pages.at? (span.pageOff + j)) :
    b'.IsWhole span head where
  nonempty := h.nonempty
  within := hcap ▸ h.within
  heads := by
    have hhead := hpages 0 (Nat.pos_of_ne_zero h.nonempty)
    rw [Nat.add_zero] at hhead
    rw [hhead]
    exact h.heads
  pages j hj := by
    rw [hpages j hj]
    exact h.pages j hj

/-- A run that joins the pages is a whole span. -/
theorem isWhole_of_joins (h : r.Joins b.pages b'.pages)
    (hcap : b'.pages.capacity = b.pages.capacity) (hoff : span.pageOff = r.start)
    (hn : span.nPages.toNat = r.count) : ∃ head, b'.IsWhole span head := by
  obtain ⟨head, hhead, hthere⟩ := h.there 0 (Nat.pos_of_ne_zero h.nonempty)
  refine ⟨head, hn ▸ h.nonempty, ?_, ?_, fun j hj => ?_⟩
  · rw [hcap, hoff, hn]
    exact h.within
  · rw [hoff]
    exact hthere
  · obtain ⟨page, hpage, hthere⟩ := h.there j (hn ▸ hj)
    rw [hoff]
    exact ⟨page, hthere, PageRun.behind hhead hpage⟩

/-- The pages of a shared span got one more mapping each, behind the head's. -/
theorem IsWhole.shares (h : b.IsWhole span head) (hcap : b'.pages.capacity = b.pages.capacity)
    (hs : b.Shares span page into align vaddr b') :
    b'.IsWhole span (head.addMapping ⟨into, vaddr⟩) := by
  have hplaced : ∀ j < span.nPages.toNat, ∃ page place,
      b'.pages.at? (span.pageOff + j) = some (page.addMapping ⟨into, place⟩) ∧
        vaddr.addPages j = some place ∧ head.Behind j page := by
    intro j hj
    obtain ⟨page, place, hpage, _, _, hplace, hthere⟩ := hs.pages j hj
    obtain ⟨page', hpage', hbehind⟩ := h.pages j hj
    obtain rfl := Option.some.inj (hpage.symm.trans hpage')
    exact ⟨page, place, hthere, hplace, hbehind⟩
  refine ⟨h.nonempty, hcap ▸ h.within, ?_, fun j hj => ?_⟩
  · obtain ⟨page', place, hpage', _, _, hplace, hthere⟩ :=
      hs.pages 0 (Nat.pos_of_ne_zero h.nonempty)
    rw [Nat.add_zero] at hpage' hthere
    rw [Vaddr.addPages_zero] at hplace
    obtain rfl := Option.some.inj (h.heads.symm.trans hpage')
    rw [hthere, Option.some.inj hplace]
  · obtain ⟨page', place, hthere, hplace, hbehind⟩ := hplaced j hj
    exact ⟨_, hthere, hbehind.addMapping ⟨rfl, hplace⟩⟩

/-- A page is as it was when a span was shared, or is one of its pages, which had
room and was mapped once more. -/
theorem Shares.cases (h : b.Shares span head into align vaddr b')
    (hpage : b'.pages.at? k = some page') : b.pages.at? k = some page' ∨
      ∃ j < span.nPages.toNat, ∃ page place, k = span.pageOff + j ∧ b.pages.at? k = some page ∧
        page.hasRoom = true ∧ vaddr.addPages j = some place ∧
        page' = page.addMapping ⟨into, place⟩ := by
  by_cases hin : span.pageOff ≤ k ∧ k < span.pageOff + span.nPages.toNat
  · right
    obtain ⟨page, place, hold, hroom, _, hplace, hthere⟩ := h.pages (k - span.pageOff) (by omega)
    have hk : span.pageOff + (k - span.pageOff) = k := by omega
    rw [hk] at hold hthere
    obtain rfl := Option.some.inj (hpage.symm.trans hthere)
    exact ⟨k - span.pageOff, by omega, page, place, hk.symm, hold, hroom, hplace, rfl⟩
  · left
    rw [← h.rest k (by omega)]
    exact hpage

/-! ### Order in memory -/

/-- Every page has a spent frame of its own and no more mappings than it can have,
and spans are whole and apart from one another. -/
structure Orderly (b : Broker) : Prop where
  accounted : b.Accounted
  bounded : ∀ k page, b.pages.at? k = some page → page.mappings.length ≤ Page.mappingsMax
  whole : ∀ id span, b.spans.at? id = some span → ∃ head, b.IsWhole span head
  apart : ∀ id id' span span', b.spans.at? id = some span → b.spans.at? id' = some span' →
    id ≠ id' → span.Apart span'

/-- Frames are spent, and pages that are there have the frames they had. -/
theorem Accounted.of_frames (h : b.Accounted) (hs : b.Spends b')
    (hpages : ∀ k page', b'.pages.at? k = some page' →
      ∃ page, b.pages.at? k = some page ∧ page.frame = page'.frame) : b'.Accounted where
  bounded := hs.bounded
  spent k page' hpage' := by
    obtain ⟨page, hpage, hframe⟩ := hpages k page' hpage'
    obtain ⟨n, hn, hspent⟩ := h.spent k page hpage
    refine ⟨n, ?_, hs.spent n hspent⟩
    rw [hs.layout, ← hframe]
    exact hn
  apart k k' page page' hpage hpage' heq := by
    obtain ⟨old, hold, hframe⟩ := hpages k page hpage
    obtain ⟨old', hold', hframe'⟩ := hpages k' page' hpage'
    exact h.apart k k' old old' hold hold' (hframe.trans (heq.trans hframe'.symm))

/-- A run that is published brings frames that no page had. -/
theorem Accounted.publishes (h : b.Accounted) (hp : b.Publishes r b') : b'.Accounted := by
  have hspends := hp.fills.spends h.bounded
  -- The number of a frame that was not spent before is not the number of any page's.
  have hnew : ∀ k page j page', b.pages.at? k = some page → j < r.count →
      r.page? j = some page' → page.frame ≠ page'.frame := by
    intro k page j page' hpage hj hpage' heq
    obtain ⟨n, hn, hspent⟩ := h.spent k page hpage
    obtain ⟨m, hm, hunspent, _⟩ :=
      hp.taken h.bounded j hj _ (PageRun.page?_eq_some_iff.1 hpage').2
    rw [heq] at hn
    exact hunspent (hn.inj hm ▸ hspent)
  refine ⟨hspends.bounded, fun k page hpage => ?_, fun k k' page page' hpage hpage' heq => ?_⟩
  · rw [hspends.layout]
    rcases hp.pages.cases hpage with hold | ⟨j, hj, _, hrun⟩
    · obtain ⟨n, hn, hspent⟩ := h.spent k page hold
      exact ⟨n, hn, hspends.spent n hspent⟩
    · obtain ⟨n, hn, _, hspent⟩ :=
        hp.taken h.bounded j hj _ (PageRun.page?_eq_some_iff.1 hrun).2
      exact ⟨n, hn, hspent⟩
  · rcases hp.pages.cases hpage with hold | ⟨j, hj, hk, hrun⟩
    · rcases hp.pages.cases hpage' with hold' | ⟨j', hj', _, hrun'⟩
      · exact h.apart k k' page page' hold hold' heq
      · exact absurd heq (hnew k page j' page' hold hj' hrun')
    · rcases hp.pages.cases hpage' with hold' | ⟨j', hj', hk', hrun'⟩
      · exact absurd heq.symm (hnew k' page' j page hold' hj hrun)
      · have hsame := PageRun.eq_of_frame hrun hrun' heq
        rw [hk, hk', hsame]

theorem Accounted.shares (h : b.Accounted) (hs : b.Shares span head into align vaddr b') :
    b'.Accounted := by
  refine h.of_frames (hs.fills.spends h.bounded) fun k page' hpage' => ?_
  rcases hs.cases hpage' with hold | ⟨j, _, page, place, _, hold, _, _, rfl⟩
  · exact ⟨page', hold, rfl⟩
  · exact ⟨page, hold, rfl⟩

/-! ### One step -/

/-- Where pages and spans are as they were, order is kept with the account. -/
theorem Orderly.of_same (h : b.Orderly) (ha : b'.Accounted)
    (hcap : b'.pages.capacity = b.pages.capacity)
    (hpages : ∀ k, b'.pages.at? k = b.pages.at? k)
    (hspans : ∀ id, b'.spans.at? id = b.spans.at? id) : b'.Orderly where
  accounted := ha
  bounded k page hpage := h.bounded k page (hpages k ▸ hpage)
  whole id span hspan := by
    obtain ⟨head, hwhole⟩ := h.whole id span (hspans id ▸ hspan)
    exact ⟨head, hwhole.of_same hcap fun j _ => hpages _⟩
  apart id id' span span' hspan hspan' hne :=
    h.apart id id' span span' (hspans id ▸ hspan) (hspans id' ▸ hspan') hne

theorem Orderly.spends (h : b.Orderly) (hs : b.Spends b')
    (hcap : b'.pages.capacity = b.pages.capacity)
    (hpages : ∀ k, b'.pages.at? k = b.pages.at? k)
    (hspans : ∀ id, b'.spans.at? id = b.spans.at? id) : b'.Orderly := by
  refine h.of_same (h.accounted.of_frames hs fun k page hpage => ?_) hcap hpages hspans
  exact ⟨page, hpages k ▸ hpage, rfl⟩

/-- A whole span stays whole when other pages come on record. -/
theorem IsWhole.joins (h : b.IsWhole span head) (hj : r.Joins b.pages b'.pages)
    (hcap : b'.pages.capacity = b.pages.capacity) : b'.IsWhole span head := by
  refine h.of_same hcap fun j hlt => ?_
  obtain ⟨page, hpage, _⟩ := h.pages j hlt
  rw [hpage]
  exact hj.kept hpage

/-- The pages of a whole span are not among those that come on record. -/
theorem IsWhole.apart_of_joins (h : b.IsWhole span head) (hj : r.Joins b.pages b'.pages)
    (hoff : span'.pageOff = r.start) (hn : span'.nPages.toNat = r.count) :
    span.Apart span' ∧ span'.Apart span := by
  have hfresh : ∀ j < span.nPages.toNat, ∀ i < r.count, span.pageOff + j ≠ r.start + i := by
    intro j hj₁ i hi heq
    obtain ⟨page, hpage, _⟩ := h.pages j hj₁
    have hnone := hj.fresh i hi
    rw [← heq, hpage] at hnone
    cases hnone
  have hne := h.nonempty
  have hne' := hj.nonempty
  unfold Span.Apart
  rw [hoff, hn]
  -- Were they not apart, the later head would be a page of the other.
  suffices hapart : span.pageOff + span.nPages.toNat ≤ r.start ∨
      r.start + r.count ≤ span.pageOff from ⟨hapart, hapart.symm⟩
  refine Decidable.byContradiction fun hno => ?_
  rcases Nat.le_total span.pageOff r.start with hle | hle
  · exact hfresh (r.start - span.pageOff) (by omega) 0 (by omega) (by omega)
  · exact hfresh 0 (by omega) (span.pageOff - r.start) (by omega) (by omega)

theorem Orderly.bounded_of_joins (h : b.Orderly) (hj : r.Joins b.pages b'.pages) :
    ∀ k page, b'.pages.at? k = some page → page.mappings.length ≤ Page.mappingsMax := by
  intro k page hpage
  rcases hj.cases hpage with hold | ⟨j, _, _, hrun⟩
  · exact h.bounded k page hold
  · exact Nat.le_trans (PageRun.length_mappings hrun) (by decide)

/-- A run is published; the spans are as they were. -/
theorem Orderly.publishes (h : b.Orderly) (hp : b.Publishes r b')
    (hcap : b'.pages.capacity = b.pages.capacity)
    (hspans : ∀ id, b'.spans.at? id = b.spans.at? id) : b'.Orderly where
  accounted := h.accounted.publishes hp
  bounded := h.bounded_of_joins hp.pages
  whole id span hspan := by
    obtain ⟨head, hwhole⟩ := h.whole id span (hspans id ▸ hspan)
    exact ⟨head, hwhole.joins hp.pages hcap⟩
  apart id id' span span' hspan hspan' hne :=
    h.apart id id' span span' (hspans id ▸ hspan) (hspans id' ▸ hspan') hne

/-- A run is published and registered as a span. -/
theorem Orderly.registers (h : b.Orderly) (hp : b.Publishes r b')
    (hcap : b'.pages.capacity = b.pages.capacity) (hr : r.Registers b.spans b'.spans) :
    b'.Orderly := by
  obtain ⟨new, nPages, hn, hcases⟩ := hr.cases
  have hold : ∀ id span, b.spans.at? id = some span →
      span.Apart ⟨r.start, nPages⟩ ∧ Span.Apart ⟨r.start, nPages⟩ span := by
    intro id span hspan
    obtain ⟨head, hwhole⟩ := h.whole id span hspan
    exact hwhole.apart_of_joins hp.pages rfl hn
  refine ⟨h.accounted.publishes hp, h.bounded_of_joins hp.pages, fun id span hspan => ?_, ?_⟩
  · rcases hcases id span hspan with ⟨_, rfl⟩ | ⟨_, hspan⟩
    · exact isWhole_of_joins hp.pages hcap rfl hn
    · obtain ⟨head, hwhole⟩ := h.whole id span hspan
      exact ⟨head, hwhole.joins hp.pages hcap⟩
  · intro id id' span span' hspan hspan' hne
    rcases hcases id span hspan with ⟨hid, rfl⟩ | ⟨_, hspan⟩
    · rcases hcases id' span' hspan' with ⟨hid', rfl⟩ | ⟨_, hspan'⟩
      · exact absurd (hid.trans hid'.symm) hne
      · exact (hold id' span' hspan').2
    · rcases hcases id' span' hspan' with ⟨_, rfl⟩ | ⟨_, hspan'⟩
      · exact (hold id span hspan).1
      · exact h.apart id id' span span' hspan hspan' hne

/-- One span is shared; the others are apart from it. -/
theorem Orderly.shares {id : Nat} (h : b.Orderly) (hspan : b.spans.at? id = some span)
    (hcap : b'.pages.capacity = b.pages.capacity) (hs : b.Shares span head into align vaddr b') :
    b'.Orderly where
  accounted := h.accounted.shares hs
  bounded k page' hpage' := by
    rcases hs.cases hpage' with hold | ⟨j, _, page, place, _, _, hroom, _, rfl⟩
    · exact h.bounded k page' hold
    · have hlt : page.mappings.length < Page.mappingsMax := of_decide_eq_true hroom
      show (page.mappings ++ [_]).length ≤ _
      rw [List.length_append]
      exact hlt
  whole id' span' hspan' := by
    rw [hs.spans] at hspan'
    by_cases hid : id = id'
    · subst hid
      obtain rfl := Option.some.inj (hspan.symm.trans hspan')
      obtain ⟨head, hwhole⟩ := h.whole id span hspan
      exact ⟨_, hwhole.shares hcap hs⟩
    · obtain ⟨head, hwhole⟩ := h.whole id' span' hspan'
      refine ⟨head, hwhole.of_same hcap fun j hj => hs.rest _ ?_⟩
      rcases h.apart id id' span span' hspan hspan' hid with hapart | hapart
      · exact .inr (by omega)
      · exact .inl (by omega)
  apart := by
    rw [hs.spans]
    exact h.apart

/-- Whatever is done to memory, order is kept. -/
theorem Orderly.step (h : b.Orderly) (hs : b.RunStep new b') : b'.Orderly := by
  have hbounded := h.accounted.bounded
  have hcap := hs.capacity
  cases hs.memory with
  | expands hexpands =>
    cases hexpands with
    | draws hd =>
      exact h.spends (hd.fills.spends hbounded) hcap (fun _ => hd.pages.at?_eq)
        fun _ => hd.spans.at?_eq
    | publishes r hp hspans => exact h.publishes hp hcap fun _ => hspans.at?_eq
    | registers r hp hr => exact h.registers hp hcap hr
  | shares hspan hs => exact h.shares hspan hcap hs
  | spares hs =>
    exact h.spends (hs.fills.spends hbounded) hcap (fun _ => hs.pages ▸ rfl) fun _ => hs.spans ▸ rfl

end Broker

end CapabilityBroker
