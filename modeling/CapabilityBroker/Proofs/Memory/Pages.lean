/-
CapabilityBroker/Proofs/Memory/Pages.lean

Runs of pages that come on record.

A run is described by its first frame, the place where it is mapped if it is
mapped anywhere, and the records that it takes: that says what each of its pages
is (`PageRun.page?`).  Publishing a run whose records are kept puts exactly
these pages on record, or aborts, which it does only if one of the pages has no
address (`publishFrom_publishes`).  Seen from the state before, the run joins
the pages that are there, and nothing else changes (`PageRun.Joins`).  A run that
is to be shared is registered as a span afterwards (`activateSpan_leads`).
-/
import CapabilityBroker.Memory.Span
import CapabilityBroker.Proofs.Parts
import CapabilityBroker.Proofs.Pool.Dense

namespace CapabilityBroker

variable {b : Broker} {p p' pages : Pool Page} {first : Paddr}
  {mapped : Option (ComponentId × Vaddr)} {start count i j k : Nat} {page : Page}

/-! ### Runs -/

/-- A run of pages: frames from `first` on, mapped from a place on if it is mapped
anywhere, with records from `start` on. -/
structure PageRun where
  first : Paddr
  mapped : Option (ComponentId × Vaddr)
  start : Nat
  count : Nat

namespace PageRun

/-- The `j`-th page of the run. -/
def page? (r : PageRun) (j : Nat) : Option Page := do
  let mappings ← placeOf? r.mapped j
  let frame ← r.first.addPages j
  pure ⟨frame, mappings⟩

variable {r : PageRun}

theorem page?_eq_some_iff : r.page? j = some page ↔
    placeOf? r.mapped j = some page.mappings ∧ r.first.addPages j = some page.frame := by
  obtain ⟨frame, mappings⟩ := page
  unfold page?
  cases placeOf? r.mapped j with
  | none => simp
  | some mappings' =>
    cases r.first.addPages j with
    | none => simp
    | some frame' => simp [and_comm]

/-- The run joins a pool that had nothing in its place. -/
structure Joins (r : PageRun) (p p' : Pool Page) : Prop where
  nonempty : r.count ≠ 0
  within : r.start + r.count ≤ p.capacity + 1
  fresh : ∀ j < r.count, p.at? (r.start + j) = none
  there : ∀ j < r.count, ∃ page, r.page? j = some page ∧ p'.at? (r.start + j) = some page
  rest : ∀ k, k < r.start ∨ r.start + r.count ≤ k → p'.at? k = p.at? k

namespace Joins

/-- A page that was there is still there. -/
theorem kept (h : r.Joins p p') (hpage : p.at? k = some page) : p'.at? k = some page := by
  by_cases hin : r.start ≤ k ∧ k < r.start + r.count
  · have hfresh := h.fresh (k - r.start) (by omega)
    rw [Nat.add_sub_of_le hin.1, hpage] at hfresh
    cases hfresh
  · rw [h.rest k (by omega)]
    exact hpage

/-- A page that is there was there before, or is one of the run. -/
theorem cases (h : r.Joins p p') (hpage : p'.at? k = some page) :
    p.at? k = some page ∨ ∃ j < r.count, k = r.start + j ∧ r.page? j = some page := by
  by_cases hin : r.start ≤ k ∧ k < r.start + r.count
  · right
    obtain ⟨found, hfound, hthere⟩ := h.there (k - r.start) (by omega)
    rw [Nat.add_sub_of_le hin.1, hpage] at hthere
    obtain rfl := Option.some.inj hthere
    exact ⟨k - r.start, by omega, by omega, hfound⟩
  · left
    rw [← h.rest k (by omega)]
    exact hpage

end Joins

end PageRun

/-! ### Publishing -/

/-- Between the two pools, slots from an index on got the pages of a run from its
`i`-th on. -/
structure Published (r : PageRun) (start count i : Nat) (p pages : Pool Page) : Prop where
  capacity : pages.capacity = p.capacity
  mark : pages.lowWater = p.lowWater
  outside : ∀ k, k < start ∨ start + count ≤ k → pages.entry k = p.entry k
  inside : ∀ j < count, ∃ page, r.page? (i + j) = some page ∧ pages.at? (start + j) = some page

/-- One page, and then the others behind it. -/
theorem Published.cons {r : PageRun} {slot : Reservation Page} (hslot : slot.index = start)
    (hpage : r.page? i = some page)
    (h : Published r (start + 1) count (i + 1) (p.publish slot page) pages) :
    Published r start (count + 1) i p pages := by
  subst hslot
  have hother : ∀ k, slot.index ≠ k → (p.publish slot page).entry k = p.entry k := by
    intro k hk
    rw [Pool.entry_publish, if_neg hk]
  refine ⟨h.capacity, h.mark, fun k hk => ?_, fun j hj => ?_⟩
  · rw [h.outside k (by omega), hother k (by omega)]
  · cases j with
    | zero =>
      refine ⟨page, hpage, ?_⟩
      rw [Nat.add_zero, Pool.at?_congr (h.outside slot.index (by omega)), Pool.at?_publish]
      exact if_pos rfl
    | succ j =>
      obtain ⟨next, hnext, hthere⟩ := h.inside j (by omega)
      refine ⟨next, ?_, ?_⟩
      · rw [← hnext]
        congr 1
        omega
      · rw [← hthere]
        congr 1
        omega

/-- The slots are kept, and every page of the run has its addresses. -/
def Publishable (r : PageRun) (start count i : Nat) (q p : Pool Page) : Prop :=
  (∀ j < count, p.Holds (q.reservation (start + j))) ∧
    ∀ j < count, ∃ page, r.page? (i + j) = some page

/-- When the first page is published, the others are still publishable. -/
theorem Publishable.tail {r : PageRun} {q : Pool Page} (h : Publishable r start (count + 1) i q p) :
    Publishable r (start + 1) count (i + 1) q (p.publish (q.reservation start) page) := by
  refine ⟨fun j hj => ?_, fun j hj => ?_⟩
  · have hslot := h.1 (j + 1) (by omega)
    rw [← Nat.add_assoc, Nat.add_right_comm] at hslot
    have hne : (q.reservation start).index ≠ start + 1 + j := by
      show start ≠ start + 1 + j
      omega
    show (p.publish (q.reservation start) page).entry (start + 1 + j) = _
    rw [Pool.entry_publish, if_neg hne]
    exact hslot
  · obtain ⟨page, hpage⟩ := h.2 (j + 1) (by omega)
    refine ⟨page, ?_⟩
    rw [← hpage]
    congr 1
    omega

/-- A run is published slot by slot, if that can be done. -/
theorem publishFrom_publishes {q : Pool Page} (r : PageRun) :
    (publishFrom r.first r.mapped (q.runOf start count) i).Leads b
      (fun _ b' => ∃ pages, b' = { b with pages } ∧ Published r start count i b.pages pages)
      (fun _ _ => ¬ Publishable r start count i q b.pages) := by
  induction count generalizing b start i with
  | zero => exact Step.leads_pure.2 ⟨b.pages, rfl, rfl, rfl, fun _ _ => rfl, nofun⟩
  | succ count ih =>
    show (publishFrom r.first r.mapped (q.reservation start :: q.runOf (start + 1) count) i).Leads
      _ _ _
    unfold publishFrom
    refine Step.Leads.exact_bind (fun mappings hmappings => ?_) fun hnone h => ?_
    · refine Step.Leads.exact_bind (fun frame hframe => ?_) fun hnone h => ?_
      · have hpage : r.page? i = some ⟨frame, mappings⟩ :=
          PageRun.page?_eq_some_iff.2 ⟨hmappings, hframe⟩
        refine Step.leads_bind.2 (Part.ask_leads (Pool.activate_leads.mono ?_ ?_))
        · rintro _ pages ⟨_, _, rfl⟩
          refine ih.mono ?_ ?_
          · rintro _ b' ⟨pages, rfl, hpublished⟩
            exact ⟨pages, rfl, hpublished.cons rfl hpage⟩
          · exact fun _ _ hstop h => hstop h.tail
        · exact fun _ _ hstop h => hstop.1 (h.1 0 (by omega))
      · obtain ⟨page, hpage⟩ := h.2 0 (by omega)
        cases hnone.symm.trans (PageRun.page?_eq_some_iff.1 hpage).2
    · obtain ⟨page, hpage⟩ := h.2 0 (by omega)
      cases hnone.symm.trans (PageRun.page?_eq_some_iff.1 hpage).1

/-- A pool that fills up from below still does when a run behind its mark is
published. -/
theorem Published.dense {r : PageRun}
    (h : Published r p.lowWater count 0 (p.reserveRun p.lowWater count) pages)
    (hp : p.Dense) (hc : count ≠ 0) : pages.Dense ∧ pages.lowWater = p.lowWater + count := by
  -- The mark moved when the run was reserved, and stayed since.
  have hmark : pages.lowWater = p.lowWater + count := by
    rw [h.mark]
    obtain ⟨rest, rfl⟩ := Nat.exists_eq_succ_of_ne_zero hc
    exact if_pos rfl
  refine ⟨⟨?_, fun k hk => ?_⟩, hmark⟩
  · have hpos := hp.pos
    omega
  · rw [h.outside k (by omega), Pool.entry_reserveRun, if_neg (by omega)]
    exact hp.free k (by omega)

/-- A run whose slots were found free joins the pages as it is published. -/
theorem Published.joins {r : PageRun} (hc : r.count ≠ 0)
    (hwithin : r.start + r.count ≤ p.capacity + 1)
    (hfree : ∀ k, r.start ≤ k → k < r.start + r.count → (p.entry k).slot = .free)
    (h : Published r r.start r.count 0 (p.reserveRun r.start r.count) pages) :
    r.Joins p pages := by
  refine ⟨hc, hwithin, fun j hj => ?_, fun j hj => ?_, fun k hk => ?_⟩
  · have hslot := hfree (r.start + j) (by omega) (by omega)
    unfold Pool.at?
    rw [hslot]
  · obtain ⟨page, hpage, hthere⟩ := h.inside j hj
    rw [Nat.zero_add] at hpage
    exact ⟨page, hpage, hthere⟩
  · refine Pool.at?_congr ?_
    rw [h.outside k hk, Pool.entry_reserveRun, if_neg (by omega)]

/-- The slots of a run that was reserved are kept. -/
theorem holds_reserveRun (hj : j < count) :
    (p.reserveRun start count).Holds (p.reservation (start + j)) := by
  show (p.reserveRun start count).entry (start + j) = _
  rw [Pool.entry_reserveRun, if_pos (by omega)]
  rfl

/-- A run is published as a whole, or the publication aborts because one of its
pages has no address. -/
theorem publishRun_publishes {r : PageRun} (hc : r.count ≠ 0)
    (hpages : b.pages = p.reserveRun r.start r.count) :
    (publishRun (p.runOf r.start r.count) r.first r.mapped).Leads b
      (fun head b' => head.index = r.start ∧ ∃ pages trail, b' = { b with pages, trail } ∧
        Published r r.start r.count 0 b.pages pages)
      (fun _ _ => ¬ ∀ j < r.count, ∃ page, r.page? j = some page) := by
  obtain ⟨rest, hrest⟩ := Nat.exists_eq_succ_of_ne_zero hc
  have hrun : p.runOf r.start r.count = p.reservation r.start :: p.runOf (r.start + 1) rest := by
    rw [hrest]
    rfl
  rw [hrun]
  unfold publishRun
  dsimp only
  rw [← hrun]
  refine Step.leads_bind.2 ((publishFrom_publishes r).mono ?_ fun _ _ hstop h => ?_)
  · rintro _ _ ⟨pages, rfl, hpublished⟩
    exact Step.Leads.modify_bind (Step.leads_pure.2 ⟨rfl, pages, _, rfl, hpublished⟩)
  · refine hstop ⟨fun j hj => ?_, fun j hj => ?_⟩
    · rw [hpages]
      exact holds_reserveRun hj
    · rw [Nat.zero_add]
      exact h j hj

/-! ### Spans -/

/-- The number of pages that a span can have. -/
def SpanLength (count : Nat) : Prop := count ≠ 0 ∧ count < UInt32.size

/-- A span is published in the slot that was kept for it, if it can have so many
pages. -/
theorem activateSpan_leads {slot : Reservation Span} {head : Handle Page} :
    (activateSpan slot head count).Leads b
      (fun id b' => (id = slot.index ∧ b.spans.Holds slot) ∧ ∃ nPages trail,
        (SpanLength count ∧ nPages.toNat = count) ∧
        b' = { b with spans := b.spans.publish slot ⟨head.index, nPages⟩, trail })
      (fun why b' => (why = .abort ∧ ¬ b.spans.Holds slot ∨
        why = .refused (.invalidArgument "bad span length") ∧ ¬ SpanLength count) ∧ b' = b) := by
  unfold activateSpan
  cases hcount : word32? count with
  | none =>
    rw [word32?_eq_none_iff] at hcount
    exact Step.leads_refuse.2 ⟨.inr ⟨rfl, fun h => absurd h.2 (Nat.not_lt.2 hcount)⟩, rfl⟩
  | some nPages =>
    rw [word32?_eq_some_iff] at hcount
    refine Step.Leads.ite (fun hzero => Step.Leads.refuse_bind ?_) fun hne => ?_
    · subst hzero
      exact ⟨.inr ⟨rfl, fun h => h.1 hcount.symm⟩, rfl⟩
    have hlength : SpanLength count := by
      rw [← hcount]
      exact ⟨fun hzero => hne (UInt32.toNat_inj.1 hzero), nPages.toNat_lt⟩
    refine Step.leads_bind.2 (Part.ask_leads (Pool.activate_leads.mono ?_ ?_))
    · rintro _ _ ⟨hslot, rfl, rfl⟩
      exact Step.Leads.modify_bind
        (Step.leads_pure.2 ⟨⟨rfl, hslot⟩, nPages, _, ⟨hlength, hcount⟩, rfl⟩)
    · rintro _ _ ⟨hlost, rfl, rfl⟩
      exact ⟨.inl ⟨rfl, hlost⟩, rfl⟩

end CapabilityBroker
