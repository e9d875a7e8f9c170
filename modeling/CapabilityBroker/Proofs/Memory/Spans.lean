/-
CapabilityBroker/Proofs/Memory/Spans.lean

Making spans and mapping them.

A span is made over a run that was just published, and mapped page by page
behind its head.  `Broker.Expands` is what an allocation comes to, with a span
or without, and `Broker.Shares` what the mapping of a span comes to.  A mapping
that stops leaves the records alone, and `Broker.Withholds` lists every reason
for which it stops, in the order in which they are looked for.
-/
import CapabilityBroker.Proofs.Advance.Memory
import CapabilityBroker.Proofs.Memory.Runs

namespace CapabilityBroker

open Kernel (RunAt RunIn)
open Step (Stays StaysFrom)

variable {b b' : Broker} {into : ComponentId} {vaddr : Vaddr} {count : Nat} {align : UInt64}
  {r : PageRun}

/-! ### Making spans -/

/-- The run is registered as a span, under an id that was free. -/
def PageRun.Registers (r : PageRun) (p p' : Pool Span) : Prop :=
  ∃ id nPages, nPages.toNat = r.count ∧ p.at? id = none ∧
    ∀ k, p'.at? k = if id = k then some ⟨r.start, nPages⟩ else p.at? k

/-- There is no object in a slot that is kept. -/
theorem Pool.Holds.at?_eq_none {α : Type} {p : Pool α} {slot : Reservation α}
    (h : p.Holds slot) : p.at? slot.index = none := by
  unfold Pool.at?
  rw [h]

theorem activateSpan_registers {slot : Reservation Span} {head : Handle Page}
    (hstart : r.start = head.index) :
    (activateSpan slot head r.count).Leads b
      (fun id b' => ∃ spans trail, b' = { b with spans, trail } ∧ r.Registers b.spans spans ∧
        ∃ nPages, nPages.toNat = r.count ∧ spans.at? id = some ⟨r.start, nPages⟩)
      (fun _ b' => b' = b) := by
  refine activateSpan_leads.mono ?_ fun _ _ hstop => hstop.2
  rintro _ _ ⟨⟨rfl, hslot⟩, nPages, trail, ⟨_, hcount⟩, rfl⟩
  have hat : ∀ k, (b.spans.publish slot ⟨head.index, nPages⟩).at? k =
      if slot.index = k then some ⟨r.start, nPages⟩ else b.spans.at? k := fun k => by
    rw [hstart]
    exact Pool.at?_publish
  exact ⟨_, _, rfl, ⟨slot.index, nPages, hcount, hslot.at?_eq_none, hat⟩, nPages, hcount,
    (hat _).trans (if_pos rfl)⟩

/-- What an allocation comes to: its run came on record, as a span if one was
asked for, or it drew frames at most. -/
inductive Broker.Expands (b b' : Broker) : Prop
  | draws (h : b.Draws b')
  | publishes (r : PageRun) (h : b.Publishes r b') (spans : b.spans.Reserves b'.spans)
  | registers (r : PageRun) (h : b.Publishes r b') (spans : r.Registers b.spans b'.spans)

theorem PageRun.Registers.of_reserves {p p' q q' : Pool Span} (h : r.Registers q q')
    (hp : p.Reserves q) (hp' : q'.Reserves p') : r.Registers p p' := by
  obtain ⟨id, nPages, hn, hnone, hat⟩ := h
  refine ⟨id, nPages, hn, hp.at?_eq ▸ hnone, fun k => ?_⟩
  rw [hp'.at?_eq, hat, hp.at?_eq]

/-- A span is the one of the run, or was there before under its id. -/
theorem PageRun.Registers.cases {p p' : Pool Span} (h : r.Registers p p') :
    ∃ new nPages, nPages.toNat = r.count ∧ ∀ id span, p'.at? id = some span →
      (id = new ∧ span = ⟨r.start, nPages⟩) ∨ (id ≠ new ∧ p.at? id = some span) := by
  obtain ⟨new, nPages, hn, _, hat⟩ := h
  refine ⟨new, nPages, hn, fun id span hspan => ?_⟩
  rw [hat] at hspan
  split at hspan
  · next hid => exact .inl ⟨hid.symm, (Option.some.inj hspan).symm⟩
  · next hid => exact .inr ⟨fun heq => hid heq.symm, hspan⟩

namespace Broker

/-- Spans are no part of what is published. -/
theorem Publishes.of_spans {spans : Pool Span} (h : Publishes r { b with spans } b') :
    b.Publishes r b' := by
  have hsame : b.Fills r.Mapped { b with spans } := .of_same rfl rfl
  exact ⟨h.pages, hsame.trans h.fills, fun hb => h.taken (hsame.spends hb).bounded⟩

/-- Slots for spans may be kept before an allocation. -/
theorem Expands.of_reserves {spans : Pool Span} (h : Expands { b with spans } b')
    (hs : b.spans.Reserves spans) : b.Expands b' := by
  cases h with
  | draws h => exact .draws (.trans (spanPool_draws b spans hs) h)
  | publishes r h hspans =>
    exact .publishes r h.of_spans (hs.trans (fun _ _ _ => False.elim) hspans)
  | registers r h hspans => exact .registers r h.of_spans (hspans.of_reserves hs (.refl _))

/-- And they may be given up after it. -/
theorem Expands.reserves {spans : Pool Span} (h : b.Expands b') (hs : b'.spans.Reserves spans) :
    b.Expands { b' with spans } := by
  cases h with
  | draws h => exact .draws (h.trans (spanPool_draws b' spans hs))
  | publishes r h hspans =>
    exact .publishes r h.of_notes (hspans.trans (fun _ _ _ => False.elim) hs)
  | registers r h hspans => exact .registers r h.of_notes (hspans.of_reserves (.refl _) hs)

/-- What was published is registered, or is not. -/
theorem Publishes.activateSpan {slot : Reservation Span} {head : Handle Page}
    (h : b.Publishes r b') (hstart : r.start = head.index) (hs : b'.spans = b.spans) :
    (activateSpan slot head r.count).Leads b' (fun _ => b.Expands) (fun _ => b.Expands) := by
  refine (activateSpan_registers hstart).mono ?_ ?_
  · rintro _ _ ⟨spans, trail, rfl, hregisters, -⟩
    exact .registers r h.of_notes (hs ▸ hregisters)
  · rintro why _ rfl
    refine .publishes r h ?_
    rw [hs]
    exact .refl _

end Broker

/-- A run of pages is registered under an id that is kept for it, if there is
one. -/
theorem spanOf_expands {carve : Operation (Handle Page × Vaddr)}
    (hcarve : ∀ b, carve.Leads b
      (fun answer b' => ∃ r : PageRun, r.start = answer.1.index ∧ r.count = count ∧
        b.Publishes r b' ∧ b'.spans = b.spans)
      (fun _ => b.Draws)) :
    (spanPool.ask Pool.allocate >>= fun slot => spanPool.holding slot
      (carve >>= fun answer => activateSpan slot answer.1 count >>= fun span =>
        pure (span, answer.2))).Leads b (fun _ => b.Expands) (fun _ => b.Expands) := by
  have hkeep : Stays Pool.Reserves
      (Pool.allocate : Step (Pool Span) Pool.Refusal (Reservation Span)) := Pool.allocate_stays
  refine Step.leads_bind.2 (Part.ask_leads ((hkeep b.spans).mono ?_ ?_))
  · intro slot spans hkept
    have hexpands : Step.Leads (carve >>= fun answer => activateSpan slot answer.1 count >>=
        fun span => pure (span, answer.2)) { b with spans }
        (fun _ => b.Expands) (fun _ => b.Expands) := by
      refine Step.leads_bind.2 ((hcarve _).mono ?_ ?_)
      · rintro answer b₁ ⟨r, hstart, rfl, hpublishes, hspans⟩
        refine Step.leads_bind.2 ((hpublishes.activateSpan hstart hspans).mono ?_ ?_)
        · exact fun _ b₂ h => Step.leads_pure.2 (h.of_reserves hkept)
        · exact fun _ b₂ h => h.of_reserves hkept
      · exact fun _ b₁ hdraws => (Broker.Expands.draws hdraws).of_reserves hkept
    exact Step.leads_cleanly.2 (hexpands.mono (fun _ _ h => h)
      fun _ b₁ h => h.reserves (.unreserve slot))
  · exact fun _ spans hkept => .draws (Broker.spanPool_draws b spans hkept)

theorem allocatePages_expands (into : ComponentId) (ha : pageSize ∣ align.toNat) :
    (allocatePages (some into) count align).Leads b
      (fun answer b' => ∃ r : PageRun, r.start = answer.1.index ∧ r.count = count ∧
        b.Publishes r b' ∧ b'.spans = b.spans)
      (fun _ => b.Draws) :=
  (allocatePages_publishes ha).mono (fun _ _ => id) fun _ _ hdraws => hdraws nofun

theorem allocateShared_expands (into : ComponentId) (ha : pageSize ∣ align.toNat) :
    (allocateShared into count align).Leads b (fun _ => b.Expands) (fun _ => b.Expands) :=
  spanOf_expands fun _ => allocatePages_expands into ha

theorem allocateContiguousShared_expands (into : ComponentId) (ha : pageSize ∣ align.toNat) :
    (allocateContiguousShared into count align).Leads b (fun _ => b.Expands)
      (fun _ => b.Expands) :=
  spanOf_expands fun _ => carveContig_publishes ha

/-- A span with a given id is made over pages that are mapped nowhere. -/
theorem allocateSharedAt_expands {id : Nat} (ha : pageSize ∣ align.toNat) :
    (allocateSharedAt id count align).Leads b (fun _ => b.Expands) (fun _ _ => True) := by
  have hkeep : Stays Pool.Reserves
      (Pool.allocateAt id : Step (Pool Span) Pool.Refusal (Reservation Span)) :=
    Pool.allocateAt_stays id
  refine Step.leads_bind.2 (Part.ask_leads ((hkeep b.spans).mono ?_ fun _ _ _ => trivial))
  intro slot spans hkept
  refine Step.leads_cleanly.2 (Step.leads_bind.2 ((allocatePages_publishes ha).mono ?_
    fun _ _ _ => trivial))
  rintro ⟨head, vaddr⟩ b₁ ⟨r, hstart, rfl, hpublishes, hspans⟩
  exact (hpublishes.activateSpan hstart hspans).mono (fun _ _ h => h.of_reserves hkept)
    fun _ _ _ => trivial

/-! ### Mapping spans -/

/-- Between the two pools, pages from an index on were noted to be mapped once
more, from the `i`-th place of a mapping on. -/
structure Placed (into : ComponentId) (vaddr : Vaddr) (start count i : Nat)
    (p pages : Pool Page) : Prop where
  outside : ∀ k, k < start ∨ start + count ≤ k → pages.entry k = p.entry k
  inside : ∀ j < count, ∃ page place, p.at? (start + j) = some page ∧
    vaddr.addPages (i + j) = some place ∧
    pages.at? (start + j) = some (page.addMapping ⟨into, place⟩)

/-- The entries are those of a pool from an index on. -/
def Entered (p : Pool Page) (start : Nat) (entries : List (Handle Page × Page)) : Prop :=
  ∀ j e, entries[j]? = some e →
    p.entry (start + j) = ⟨e.1.generation, .active e.2⟩ ∧ e.1.index = start + j

variable {p pages : Pool Page} {start i : Nat} {entries : List (Handle Page × Page)}

/-- The pool after one page was noted. -/
theorem entry_addMapping {e : Handle Page × Page} {m : Mapping}
    (h : Entered p start (e :: entries)) (k : Nat) :
    (p.modify e.1 (·.addMapping m)).entry k =
      if start = k then ⟨e.1.generation, .active (e.2.addMapping m)⟩ else p.entry k := by
  obtain ⟨hentry, hindex⟩ := h 0 e rfl
  have hget : p.get? e.1 = some e.2 := Pool.get?_eq_some_iff.2 (hindex ▸ hentry)
  rw [Pool.entry_modify, hget, hindex]
  rfl

/-- The pages behind it are as they were. -/
theorem Entered.tail {e : Handle Page × Page} {m : Mapping} (h : Entered p start (e :: entries)) :
    Entered (p.modify e.1 (·.addMapping m)) (start + 1) entries := by
  intro j e' he'
  obtain ⟨hentry, hindex⟩ := h (j + 1) e' he'
  have hnext : start + 1 + j = start + (j + 1) := by omega
  rw [hnext, entry_addMapping h, if_neg (by omega)]
  exact ⟨hentry, hindex⟩

/-- One page, and then the others behind it. -/
theorem Placed.cons {e : Handle Page × Page} {place : Vaddr}
    (he : Entered p start (e :: entries)) (hplace : vaddr.addPages i = some place)
    (h : Placed into vaddr (start + 1) count (i + 1)
      (p.modify e.1 (·.addMapping ⟨into, place⟩)) pages) :
    Placed into vaddr start (count + 1) i p pages := by
  refine ⟨fun k hk => ?_, fun j hj => ?_⟩
  · rw [h.outside k (by omega), entry_addMapping he, if_neg (by omega)]
  · cases j with
    | zero =>
      have hthere := (h.outside start (by omega)).trans (entry_addMapping he start)
      rw [if_pos rfl] at hthere
      exact ⟨e.2, place, Pool.at?_eq_some (he 0 e rfl).1, hplace, Pool.at?_eq_some hthere⟩
    | succ j =>
      obtain ⟨page, place', hpage, hplace', hthere⟩ := h.inside j (by omega)
      have hnext : start + 1 + j = start + (j + 1) := by omega
      have hnext' : i + 1 + j = i + (j + 1) := by omega
      rw [hnext] at hpage hthere
      rw [hnext'] at hplace'
      refine ⟨page, place', ?_, hplace', hthere⟩
      rw [← hpage]
      refine (Pool.at?_congr ?_).symm
      rw [entry_addMapping he, if_neg (by omega)]

/-- Every page of the run is noted if it has a place. -/
theorem placePages_places (h : Entered b.pages start entries)
    (hplaces : ∀ j < entries.length, ∃ place, vaddr.addPages (i + j) = some place) :
    (placePages into vaddr entries i).Leads b
      (fun _ b' => ∃ pages, b' = { b with pages } ∧
        Placed into vaddr start entries.length i b.pages pages)
      (fun _ _ => False) := by
  induction entries generalizing b start i with
  | nil => exact Step.leads_pure.2 ⟨b.pages, rfl, fun _ _ => rfl, nofun⟩
  | cons e entries ih =>
    obtain ⟨place, hplace⟩ := hplaces 0 (Nat.succ_pos _)
    have hrest : ∀ j < entries.length, ∃ place, vaddr.addPages (i + 1 + j) = some place := by
      intro j hj
      have hnext : i + 1 + j = i + (j + 1) := by omega
      rw [hnext]
      exact hplaces (j + 1) (Nat.succ_lt_succ hj)
    apply Step.leads_bind.2
    unfold placePage
    rw [show vaddr.addPages i = some place from hplace]
    refine Step.Leads.exact_bind ?_ nofun
    rintro _ ⟨⟩
    refine Step.leads_modify.2 ((ih (b := { b with pages := _ }) h.tail hrest).mono ?_
      fun _ _ => False.elim)
    rintro _ _ ⟨pages, rfl, hplaced⟩
    exact ⟨pages, rfl, hplaced.cons h hplace⟩

/-- The pages of a span that are to be mapped: all of them are there, have room,
and stand behind the head. -/
def Broker.Mappable (b : Broker) (span : Span) (head : Page) : Prop :=
  ∀ j < span.nPages.toNat, ∃ page, b.pages.at? (span.pageOff + j) = some page ∧
    page.hasRoom = true ∧ head.frame.addPages j = some page.frame

/-- Every page of the span was noted to be mapped once more, behind its head,
and the page table gained nothing else. -/
structure Broker.Shares (span : Span) (head : Page) (into : ComponentId) (align : UInt64)
    (vaddr : Vaddr) (b b' : Broker) : Prop where
  nonempty : span.nPages.toNat ≠ 0
  alignment : pageSize ∣ align.toNat
  heads : b.pages.at? span.pageOff = some head
  spans : b'.spans = b.spans
  pages : ∀ j < span.nPages.toNat, ∃ page place, b.pages.at? (span.pageOff + j) = some page ∧
    page.hasRoom = true ∧ head.frame.addPages j = some page.frame ∧
    vaddr.addPages j = some place ∧
    b'.pages.at? (span.pageOff + j) = some (page.addMapping ⟨into, place⟩)
  rest : ∀ k, k < span.pageOff ∨ span.pageOff + span.nPages.toNat ≤ k →
    b'.pages.at? k = b.pages.at? k
  fills : b.Fills (RunAt into vaddr head.frame span.nPages.toNat) b'
  placed : b.Quiet → ∃ s, b.kernel.space? into = some s ∧
    s.heapFrontier.alignUp align = some vaddr
  grows : b.kernel.GrowsBy ⟨into, .frames span.nPages.toNat align, vaddr⟩ b'.kernel

/-- Every reason for which a span is not mapped, with what is left behind. -/
inductive Broker.Withholds (b : Broker) (id : Nat) (into : ComponentId) (align : UInt64) :
    Stop Failure → Broker → Prop
  | unknown (h : b.spans.at? id = none) : Withholds b id into align (.refused (.unknownSpan id)) b
  /-- The end of the span is not a word. -/
  | beyond {span : Span} (h : b.spans.at? id = some span)
      (hend : UInt32.size ≤ span.pageOff + span.nPages.toNat) : Withholds b id into align .abort b
  | missing {span : Span} (h : b.spans.at? id = some span) {j : Nat} (hj : j < span.nPages.toNat)
      (hnone : b.pages.at? (span.pageOff + j) = none) :
      Withholds b id into align (.refused (.unknownSpan id)) b
  | empty {span : Span} (h : b.spans.at? id = some span) (h0 : span.nPages.toNat = 0) :
      Withholds b id into align .abort b
  /-- The first page that is mapped as often as it can be. -/
  | full {span : Span} (h : b.spans.at? id = some span) {j : Nat} {page : Page}
      (hj : j < span.nPages.toNat) (hpage : b.pages.at? (span.pageOff + j) = some page)
      (hfull : page.hasRoom = false)
      (hroom : ∀ k < j, ∃ page, b.pages.at? (span.pageOff + k) = some page ∧ page.hasRoom = true) :
      Withholds b id into align (.refused (.mappingsExhausted (span.pageOff + j))) b
  | scattered {span : Span} {head : Page} (h : b.spans.at? id = some span)
      (hhead : b.pages.at? span.pageOff = some head) {j : Nat} {page : Page}
      (hj : j < span.nPages.toNat) (hpage : b.pages.at? (span.pageOff + j) = some page)
      (hframe : head.frame.addPages j ≠ some page.frame) (why : Stop Failure) :
      Withholds b id into align why b
  | strays {span : Span} {head : Page} (h : b.spans.at? id = some span)
      (hhead : b.pages.at? span.pageOff = some head)
      (hpages : b.Mappable span head) {why : Stop Defect} {b' : Broker}
      (hs : b.Strays into head.frame span.nPages.toNat align why b') :
      Withholds b id into align (why.map .fatal) b'

/-- A span whose pages were mapped, and noted, is shared. -/
theorem Broker.Maps.shares {span : Span} {head : Page} {trail : Trail Event}
    (h : b.Maps into head.frame span.nPages.toNat align vaddr b') (hne : span.nPages.toNat ≠ 0)
    (ha : pageSize ∣ align.toNat) (hhead : b.pages.at? span.pageOff = some head)
    (hpages : b.Mappable span head)
    (hplaced : Placed into vaddr span.pageOff span.nPages.toNat 0 b.pages pages) :
    b.Shares span head into align vaddr { b' with pages, trail } where
  nonempty := hne
  alignment := ha
  heads := hhead
  spans := h.rest ▸ rfl
  pages j hj := by
    obtain ⟨page, hpage, hroom, hframe⟩ := hpages j hj
    obtain ⟨page', place, hpage', hplace, hthere⟩ := hplaced.inside j hj
    obtain rfl := Option.some.inj (hpage.symm.trans hpage')
    rw [Nat.zero_add] at hplace
    exact ⟨page, place, hpage, hroom, hframe, hplace, hthere⟩
  rest k hk := Pool.at?_congr (hplaced.outside k hk)
  fills := h.fills.trans (.of_same rfl rfl)
  placed := h.placed
  grows := h.grows

/-- The first page that is full, if one is. -/
theorem exists_full {full : Handle Page} {page : Page}
    (h : entries.find? (fun e => !e.2.hasRoom) = some (full, page)) :
    ∃ j : Nat, entries[j]? = some (full, page) ∧ page.hasRoom = false ∧
      ∀ k < j, ∃ e : Handle Page × Page, entries[k]? = some e ∧ e.2.hasRoom = true := by
  obtain ⟨hfull, before, behind, rfl, hroom⟩ := List.find?_eq_some_iff_append.1 h
  refine ⟨before.length, ?_, ?_, fun k hk => ?_⟩
  · rw [List.getElem?_append_right (Nat.le_refl _), Nat.sub_self]
    rfl
  · simpa using hfull
  · refine ⟨before[k], ?_, ?_⟩
    · rw [List.getElem?_append_left hk, List.getElem?_eq_getElem hk]
    · simpa using hroom _ (List.getElem_mem hk)

/-- A page that is missing, if the pages are not all there. -/
theorem exists_missing (h : pagesFrom? p count start = none) :
    ∃ j < count, p.at? (start + j) = none := by
  by_cases hall : ∀ j < count, ∃ page, p.at? (start + j) = some page
  · obtain ⟨entries, hentries⟩ := exists_pagesFrom? hall
    cases h.symm.trans hentries
  · simp only [Classical.not_forall, not_exists] at hall
    obtain ⟨j, hj, hmissing⟩ := hall
    exact ⟨j, hj, Option.eq_none_iff_forall_ne_some.2 hmissing⟩

theorem Entered.at? {e : Handle Page × Page} {j : Nat} (h : Entered p start entries)
    (he : entries[j]? = some e) : p.at? (start + j) = some e.2 :=
  Pool.at?_eq_some (h j e he).1

/-- A page with another frame, if the frames are not the right ones. -/
theorem exists_scattered {first : Paddr} (h : ¬ FramesFrom first entries 0) :
    ∃ j e, entries[j]? = some e ∧ first.addPages j ≠ some e.2.frame := by
  rw [framesFrom_iff] at h
  simp only [Classical.not_forall] at h
  obtain ⟨j, e, he, hframe⟩ := h
  rw [Nat.zero_add] at hframe
  exact ⟨j, e, he, hframe⟩

variable {span : Span} {head : Page}

/-- Pages with room whose frames are the right ones can be mapped. -/
theorem Broker.Mappable.of_entries (h : Entered b.pages span.pageOff entries)
    (hlen : entries.length = span.nPages.toNat) (hroom : ∀ e ∈ entries, e.2.hasRoom = true)
    (hframes : FramesFrom head.frame entries 0) : b.Mappable span head := by
  intro j hj
  have he := List.getElem?_eq_getElem (hlen.symm ▸ hj)
  have hframe := framesFrom_iff.1 hframes j _ he
  rw [Nat.zero_add] at hframe
  exact ⟨_, h.at? he, hroom _ (List.getElem_mem _), hframe⟩

/-- Pages that can be mapped are mapped and noted, if the mapping does not
stop. -/
theorem mapEntries_shares (id : Nat) (ha : pageSize ∣ align.toNat)
    (h : Entered b.pages span.pageOff entries) (hlen : entries.length = span.nPages.toNat)
    (hne : entries ≠ []) (hhead : b.pages.at? span.pageOff = some head)
    (hpages : b.Mappable span head) :
    Step.Leads (do
        let vaddr ← (mapVerified head.frame entries.length align into).explain .fatal
        placePages into vaddr entries 0
        note (.spanMapped id into vaddr)
        pure (entries.length, vaddr)) b
      (fun answer b' => answer.1 = span.nPages.toNat ∧
        b.Shares span head into align answer.2 b')
      (fun why b' => ∃ why' : Stop Defect, why = why'.map .fatal ∧
        b.Strays into head.frame span.nPages.toNat align why' b') := by
  rw [hlen]
  refine Step.leads_bind.2 (Step.leads_explain.2 ((mapVerified_maps ha).mono ?_ ?_))
  · intro vaddr b₁ hmaps
    have hpool : b₁.pages = b.pages := hmaps.rest ▸ rfl
    have hplaces : ∀ j < entries.length, ∃ place, vaddr.addPages (0 + j) = some place := by
      intro j hj
      obtain ⟨place, _, hplace, _⟩ := hmaps.pages j (hlen ▸ hj)
      rw [Nat.zero_add]
      exact ⟨place, hplace⟩
    have hentered : Entered b₁.pages span.pageOff entries := hpool ▸ h
    refine Step.leads_bind.2 ((placePages_places hentered hplaces).mono ?_
      fun _ _ => False.elim)
    rintro _ _ ⟨pages, rfl, hplaced⟩
    apply Step.Leads.modify_bind
    apply Step.leads_pure.2
    have hcount : span.nPages.toNat ≠ 0 := hlen ▸ mt List.eq_nil_of_length_eq_zero hne
    rw [hlen, hpool] at hplaced
    exact ⟨rfl, hmaps.shares hcount ha hhead hpages hplaced⟩
  · exact fun why b₁ hstrays => ⟨why, rfl, hstrays⟩

/-- A span is mapped as a whole, or withheld. -/
theorem mapSpan_shares {id : Nat} (ha : pageSize ∣ align.toNat) :
    (mapSpan id into align).Leads b
      (fun answer b' => ∃ span head, b.spans.at? id = some span ∧
        answer.1 = span.nPages.toNat ∧ b.Shares span head into align answer.2 b')
      (fun why b' => b.Withholds id into align why b') := by
  refine Step.leads_bind.2 (Step.Leads.get_bind (Step.leads_require.2 ⟨fun span hspan => ?_, ?_⟩))
  · refine Step.Leads.exact_bind (fun _ _ => Step.Leads.get_bind ?_) fun hnone =>
      .beyond hspan (word32?_eq_none_iff.1 hnone)
    refine Step.Leads.require_bind (fun entries hentries => ?_) fun hnone => ?_
    · obtain ⟨hlen, hentered⟩ : _ ∧ Entered _ _ _ := pagesFrom?_eq_some hentries
      have hlt : ∀ {j e}, entries[j]? = some e → j < span.nPages.toNat := fun he =>
        hlen ▸ (List.getElem?_eq_some_iff.1 he).1
      split
      · exact Step.leads_abort.2 (.empty hspan hlen.symm)
      · next handle head rest =>
        have hhead : b.pages.at? span.pageOff = some head :=
          hentered.at? (j := 0) rfl
        split
        · next full page hfind =>
          obtain ⟨j, hj, hfull, hroom⟩ := exists_full hfind
          rw [show full.index = span.pageOff + j from (hentered j _ hj).2]
          refine Step.leads_refuse.2 (.full hspan (hlt hj) (hentered.at? hj) hfull fun k hk => ?_)
          obtain ⟨e, he, hroom⟩ := hroom k hk
          exact ⟨e.2, hentered.at? he, hroom⟩
        · next hfind =>
          have hroom : ∀ e ∈ (handle, head) :: rest, e.2.hasRoom = true := by
            simpa using List.find?_eq_none.1 hfind
          refine Step.leads_bind.2 (checkFrames_leads.mono ?_ ?_)
          · rintro _ b₁ ⟨hb₁, hframes⟩
            rw [hb₁]
            have hpages : b.Mappable span head := .of_entries hentered hlen hroom hframes
            have hne : (handle, head) :: rest ≠ [] := List.cons_ne_nil _ _
            refine (mapEntries_shares id ha hentered hlen hne hhead hpages).mono
              (fun answer _ hshares => ⟨span, head, hspan, hshares⟩) ?_
            rintro _ _ ⟨why, rfl, hstrays⟩
            exact .strays hspan hhead hpages hstrays
          · rintro why _ ⟨rfl, hframes⟩
            obtain ⟨j, e, he, hframe⟩ := exists_scattered hframes
            exact .scattered hspan hhead (hlt he) (hentered.at? he) hframe why
    · obtain ⟨j, hj, hmissing⟩ := exists_missing hnone
      exact .missing hspan hj hmissing
  · exact .unknown

end CapabilityBroker
