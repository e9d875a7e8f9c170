/-
CapabilityBroker/Proofs/Accounts.lean

The trail accounts for everything that is on record.

As long as no request shows a defect, the books of the broker are kept, so each
pool holds as many objects as the events of the trail come to.  The contiguous
region is the exception: a request that carves pages off it and aborts afterwards
has advanced the region for pages that no event speaks of.
-/
import CapabilityBroker.Proofs.Ledger.Boot

namespace CapabilityBroker

open Step (Stays)

variable {b b' : Broker}

/-! ### Counting events -/

namespace Trail

variable {α : Type} {t : Trail α}

theorem sum_add (amount amount' : α → Nat) :
    t.sum (fun event => amount event + amount' event) = t.sum amount + t.sum amount' := by
  unfold sum
  induction t.toList using List.reverseRecOn with
  | nil => rfl
  | append_singleton events event ih =>
    rw [List.foldl_concat, List.foldl_concat, List.foldl_concat, ih]
    exact Nat.add_add_add_comm _ _ _ _

theorem count_eq_sum (p : α → Bool) : t.count p = t.sum fun event => (p event).toNat := by
  unfold count sum
  induction t.toList using List.reverseRecOn with
  | nil => rfl
  | append_singleton events event ih =>
    rw [List.foldl_concat, ← ih, List.filter_append, List.length_append]
    cases h : p event <;> simp [h]

theorem sum_eq_zero {amount : α → Nat} (h : ∀ event, amount event = 0) : t.sum amount = 0 := by
  unfold sum
  induction t.toList using List.reverseRecOn with
  | nil => rfl
  | append_singleton events event ih => rw [List.foldl_concat, ih, h]

/-- The events of a trail are numbered from 0 on, in order. -/
theorem sequencesOf_all (t : Trail α) : t.sequencesOf (fun _ => true) = List.range t.size := by
  unfold sequencesOf
  rw [List.filter_true, List.zipIdx_map_snd, List.range_eq_range']
  rfl

end Trail

/-- The number of events of a kind. -/
def Broker.tally (b : Broker) (kind : String) : Nat := b.trail.count fun event => event.name == kind

namespace Event

/-- The pages that an event brings. -/
def pages : Event → Nat
  | pagesAllocated _ _ count => count
  | _ => 0

/-- The pages that an event brings in a component. -/
def mappedPages : Event → Nat
  | pagesAllocated (some _) _ count => count
  | _ => 0

/-- The pages of the span that an event maps. -/
def sharedPages (length : Nat → Nat) : Event → Nat
  | spanMapped span _ _ => length span
  | _ => 0

end Event

/-! ### Accounts read off the trail -/

/-- What is on record, as the trail has it. -/
structure Broker.Accounts (b : Broker) : Prop where
  components : b.components.active = b.tally "ComponentCreated" + b.tally "VmCreated"
  threads : b.threads.active + b.tally "RcvRevoked" =
    b.tally "ThreadCreated" + b.tally "ThreadAliasLeaked" + b.tally "InitThreadCreated" +
      b.tally "RcvCreated"
  rcvs : b.rcvs.active + b.tally "RcvRevoked" =
    b.tally "SchedExecutionCreated" + b.tally "RcvCreated"
  asnds : b.asnds.active = b.tally "AsndCreated"
  spans : b.spans.active = b.tally "SpanCreated"
  pages : b.pages.active = b.trail.sum Event.pages
  places : b.pages.total Page.placeCount = b.trail.sum Event.mappedPages +
    b.trail.sum (Event.sharedPages b.spanLength) + b.tally "PageAliased"
  /-- Every span that was mapped is on record, with its length. -/
  shared : ∀ id into vaddr, .spanMapped id into vaddr ∈ b.trail.toList →
    ∃ span, b.spans.at? id = some span

namespace Broker

theorem tally_eq_sum (kind : String) :
    b.tally kind = b.trail.sum fun event => (event.name == kind).toNat := Trail.count_eq_sum _

/-- An account from which nothing is taken. -/
theorem Booked.held_eq {amount : Event → Nat} (h : b.Booked) (account : Account)
    (hdebit : ∀ event : Event, event.debit account = 0)
    (hcredit : ∀ event : Event, event.credit b.spanLength account = amount event) :
    b.held account = b.trail.sum amount := by
  have hbooks := h.accounts account
  rw [Trail.sum_eq_zero hdebit, funext hcredit] at hbooks
  exact hbooks

/-- An account from which endpoints that are torn down are taken. -/
theorem Booked.held_add_revoked {amount : Event → Nat} (h : b.Booked) (account : Account)
    (hdebit : ∀ event : Event, event.debit account = (event.name == "RcvRevoked").toNat)
    (hcredit : ∀ event : Event, event.credit b.spanLength account = amount event) :
    b.held account + b.tally "RcvRevoked" = b.trail.sum amount := by
  have hbooks := h.accounts account
  rw [funext hdebit, funext hcredit, ← tally_eq_sum] at hbooks
  exact hbooks

/-- Books that are kept say what each kind of event comes to. -/
theorem Booked.accountsOf (h : b.Booked) : b.Accounts where
  components := by
    rw [tally_eq_sum, tally_eq_sum, ← Trail.sum_add]
    exact h.held_eq .components (by rintro ⟨⟩ <;> rfl) (by rintro ⟨⟩ <;> rfl)
  threads := by
    rw [tally_eq_sum "ThreadCreated", tally_eq_sum "ThreadAliasLeaked",
      tally_eq_sum "InitThreadCreated", tally_eq_sum "RcvCreated", ← Trail.sum_add,
      ← Trail.sum_add, ← Trail.sum_add]
    exact h.held_add_revoked .threads (by rintro ⟨⟩ <;> rfl) (by rintro ⟨⟩ <;> rfl)
  rcvs := by
    rw [tally_eq_sum "SchedExecutionCreated", tally_eq_sum "RcvCreated", ← Trail.sum_add]
    exact h.held_add_revoked .rcvs (by rintro ⟨⟩ <;> rfl) (by rintro ⟨⟩ <;> rfl)
  asnds := by
    rw [tally_eq_sum]
    exact h.held_eq .asnds (by rintro ⟨⟩ <;> rfl) (by rintro ⟨⟩ <;> rfl)
  spans := by
    rw [tally_eq_sum]
    exact h.held_eq .spans (by rintro ⟨⟩ <;> rfl) (by rintro ⟨⟩ <;> rfl)
  pages := h.held_eq .pages (by rintro ⟨⟩ <;> rfl) (by rintro ⟨⟩ <;> rfl)
  places := by
    rw [tally_eq_sum, ← Trail.sum_add, ← Trail.sum_add]
    refine h.held_eq .places (by rintro ⟨⟩ <;> rfl) fun event => ?_
    cases event with
    | pagesAllocated component first count => cases component <;> rfl
    | spanMapped id into vaddr => exact (Nat.zero_add _).symm
    | _ => rfl
  shared := h.spans

end Broker

/-! ### Along a run -/

namespace Service

/-- How an action leaves the books: right, if it came to its end; kept, if it
aborted. -/
def Keeps (b : Broker) : Option (Stop Defect) → Broker → Prop
  | none, b' => b.Balances b'
  | some why, b' => b.Closes (fun _ => False) why b'

theorem Action.keeps (image : Image) (action : Action) (b : Broker) :
    Keeps b (action.stop? image b) (action.after image b) := by
  cases action with
  | request i r =>
    exact Step.Leads.final_of_stop? (E := Keeps b) (dispatch_keepsBooks image i r)
  | parallelInit core isInitCore =>
    exact Step.Leads.final_of_stop? (E := Keeps b) (parallelInit_keepsBooks image core isInitCore)
  | parallelMain core =>
    exact Step.Leads.final_of_stop? (E := Keeps b) (parallelMain_balances image core b).keepsBooks

variable {s : Setting} {image : Image}

theorem books_of_boot {kernel : Kernel}
    (created : Kernel.create? s.selfId s.layout s.faults = some kernel)
    (booted : boot s.settings s.manifest (.create kernel) = .ok image b) : b.Booked ∧ b.Even := by
  have hframes : kernel.nextFrame = 0 := by
    obtain ⟨space, _, rfl⟩ := Option.map_eq_some_iff.1 created
    rfl
  exact (boot_books s.settings s.manifest (b := .create kernel) rfl rfl hframes).of_ok booted

/-- Before the first defect the books are kept. -/
theorem ReachedBy.books (h : ReachedBy noDefect s image b) : b.Booked ∧ b.Covered := by
  induction h with
  | boot created booted => exact (books_of_boot created booted).imp id Broker.Even.covered
  | @act b action _ ended ih =>
    have hkeeps := action.keeps image b
    cases hstop : action.stop? image b with
    | none =>
      rw [hstop] at hkeeps
      exact ⟨hkeeps.booked ih.1, hkeeps.covered ih.2⟩
    | some why =>
      rw [hstop] at hkeeps ended
      cases why with
      | refused defect => cases ended
      | abort =>
        have hposts : b.Posts (action.after image b) := hkeeps
        exact ⟨hposts.booked ih.1, hposts.covered ih.2⟩

/-- While every action comes to its end no frame is lost. -/
theorem ReachedBy.even (h : ReachedBy answered s image b) : b.Even := by
  induction h with
  | boot created booted => exact (books_of_boot created booted).2
  | @act b action _ ended ih =>
    have hkeeps := action.keeps image b
    rw [Option.isNone_iff_eq_none.1 ended] at hkeeps
    exact hkeeps.even ih

/-- Before the first defect the trail accounts for every object that is on
record, and its events are numbered in order.  While every action comes to its
end it accounts for the contiguous region too; after an abort the region may have
given up more pages than the trail knows of. -/
theorem trail_accounts_for_every_object (h : ReachedBy noDefect s image b) :
    b.Accounts ∧ b.trail.sequencesOf (fun _ => true) = List.range b.trail.size ∧
      b.trail.sum Event.carved ≤ b.contigUsed ∧
      (ReachedBy answered s image b → b.contigUsed = b.trail.sum Event.carved) :=
  ⟨h.books.1.accountsOf, Trail.sequencesOf_all _, h.books.2.carved, fun h => h.even.carved.symm⟩

/-- The client allocates pages, shares some and carves one off the region; the
scheduler maps the shared ones and makes an endpoint. -/
def Setting.busyDay : List Action :=
  [.parallelInit ⟨0⟩ true,
    .request ⟨⟨5⟩, ⟨0⟩⟩ (.allocateHeapPages 2 none),
    .request ⟨⟨5⟩, ⟨0⟩⟩ (.allocateSharedPages 3 none),
    .request ⟨⟨6⟩, ⟨0⟩⟩ (.mapSharedSpan 1 none),
    .request ⟨⟨6⟩, ⟨0⟩⟩ (.createReceiveEndpoint ⟨1⟩ ⟨0⟩),
    .request ⟨⟨5⟩, ⟨0⟩⟩ (.allocateContiguousPages 1)]

/-- Six pages are mapped at nine places, and one of them was carved off the
region. -/
theorem busy_day_is_accounted_for :
    ∃ image b, ReachedBy answered .ordinary image b ∧
      (b.Accounts ∧ b.pages.active = 6 ∧ b.pages.total Page.placeCount = 9) ∧
      (b.contigUsed = b.trail.sum Event.carved ∧ b.contigUsed = 1) := by
  have hrun : (Setting.ordinary.runWhile answered Setting.busyDay).any (fun p =>
      p.2.pages.active = 6 ∧ p.2.pages.total Page.placeCount = 9 ∧ p.2.contigUsed = 1) = true := by
    decide +kernel
  obtain ⟨image, b, hanswered, hshows⟩ := exists_reachedBy hrun
  obtain ⟨hpages, hplaces, hused⟩ := of_decide_eq_true hshows
  have hreached : ReachedBy noDefect .ordinary image b := hanswered.mono fun stop hstop => by
    rw [Option.isNone_iff_eq_none.1 hstop]
    rfl
  obtain ⟨haccounts, _, _, hregion⟩ := trail_accounts_for_every_object hreached
  exact ⟨image, b, hanswered, ⟨haccounts, hpages, hplaces⟩, hregion hanswered, hused⟩

/-- A client carves a page off the region, to be mapped at half the address
space. -/
def carvingAtHalf : Action :=
  .request ⟨⟨5⟩, ⟨0⟩⟩ (.allocateContiguousShared 1 (some 0x8000000000000000))

/-- The second carving aborts: there is no room behind the first page.  The region
has given its page up all the same, and no event speaks of it. -/
theorem aborted_carving_is_not_accounted_for :
    ∃ image b, ReachedBy noDefect .ordinary image b ∧
      b.contigUsed = 2 ∧ b.trail.sum Event.carved = 1 := by
  have hrun : (Setting.ordinary.runWhile noDefect [carvingAtHalf, carvingAtHalf]).any (fun p =>
      p.2.contigUsed = 2 ∧ p.2.trail.sum Event.carved = 1) = true := by decide +kernel
  obtain ⟨image, b, hreached, hshows⟩ := exists_reachedBy hrun
  exact ⟨image, b, hreached, of_decide_eq_true hshows⟩

end Service

end CapabilityBroker
