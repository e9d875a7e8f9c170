/-
CapabilityBroker/Proofs/Ledger/Basic.lean

The trail as a ledger of what the broker keeps.

Every event debits or credits accounts: so many components, threads, endpoints,
spans and pages came on record, and so many places of pages.  In a state whose
books are kept (`Broker.Booked`), what is on record is what the events of the
trail come to.  Frames are another matter: those that were drawn, from the
kernel or from the contiguous region, cover the pages on record
(`Broker.Covered`), and where none was lost on the way they are as many
(`Broker.Even`).

An operation that answers keeps all of this (`Broker.Balances`), and so does one
that is refused for a reason its caller can see.  One that aborts keeps the books
too, but it may have drawn frames that no page will have (`Broker.Posts`).
-/
import CapabilityBroker.Memory.Contiguous
import CapabilityBroker.Object.Endpoint
import CapabilityBroker.Proofs.Kernel.Move
import CapabilityBroker.Proofs.Parts
import CapabilityBroker.Proofs.Pool.Totals

namespace CapabilityBroker

open Step (Stays StaysFrom)

/-! ### Sums over a trail -/

namespace Trail

variable {α : Type}

/-- What the events of a trail come to, each with its amount. -/
def sum (amount : α → Nat) (t : Trail α) : Nat :=
  t.toList.foldl (fun n event => n + amount event) 0

@[simp] theorem sum_empty (amount : α → Nat) : (empty : Trail α).sum amount = 0 := rfl

@[simp] theorem sum_record (t : Trail α) (event : α) (amount : α → Nat) :
    (t.record event).sum amount = t.sum amount + amount event := by
  rw [sum, toList_record, List.foldl_append]
  rfl

theorem sum_congr {t : Trail α} {amount amount' : α → Nat}
    (h : ∀ event ∈ t.toList, amount' event = amount event) : t.sum amount' = t.sum amount :=
  List.foldl_ext _ _ _ fun n event hmem => congrArg (n + ·) (h event hmem)

end Trail

/-! ### Accounts -/

/-- What is kept account of. -/
inductive Account where
  | components
  | threads
  | rcvs
  | asnds
  | spans
  | pages
  /-- The places where pages are mapped. -/
  | places

namespace Event

/-- What an event adds to an account, where spans have so many pages. -/
def credit (length : Nat → Nat) : Event → Account → Nat
  | componentCreated .., .components => 1
  | vmCreated .., .components => 1
  | threadCreated .., .threads => 1
  | threadAliasLeaked .., .threads => 1
  | initThreadCreated .., .threads => 1
  | schedExecutionCreated .., .rcvs => 1
  | rcvCreated .., .threads => 1
  | rcvCreated .., .rcvs => 1
  | asndCreated _, .asnds => 1
  | spanCreated .., .spans => 1
  | pagesAllocated _ _ count, .pages => count
  | pagesAllocated component _ count, .places => if component.isSome then count else 0
  | spanMapped span _ _, .places => length span
  | pageAliased .., .places => 1
  | _, _ => 0

/-- What an event takes from an account. -/
def debit : Event → Account → Nat
  | rcvRevoked .., .threads => 1
  | rcvRevoked .., .rcvs => 1
  | _, _ => 0

/-- The pages that an event carves off the contiguous region. -/
def carved : Event → Nat
  | contigAllocated _ _ count => count
  | _ => 0

end Event

/-- The number of places where a page is mapped. -/
def Page.placeCount (page : Page) : Nat := page.mappings.length

namespace Broker

/-- The number of pages of a span. -/
def spanLength (b : Broker) (id : Nat) : Nat :=
  ((b.spans.at? id).map fun span => span.nPages.toNat).getD 0

/-- What is on record. -/
def held (b : Broker) : Account → Nat
  | .components => b.components.active
  | .threads => b.threads.active
  | .rcvs => b.rcvs.active
  | .asnds => b.asnds.active
  | .spans => b.spans.active
  | .pages => b.pages.active
  | .places => b.pages.total Page.placeCount

/-- What is on record is what the trail comes to. -/
structure Booked (b : Broker) : Prop where
  accounts : ∀ account, b.held account + b.trail.sum (·.debit account) =
    b.trail.sum (·.credit b.spanLength account)
  spans : ∀ id into vaddr, .spanMapped id into vaddr ∈ b.trail.toList →
    ∃ span, b.spans.at? id = some span

/-- No page has a frame that was not drawn. -/
structure Covered (b : Broker) : Prop where
  carved : b.trail.sum Event.carved ≤ b.contigUsed
  drawn : b.contigCapacity + b.pages.active ≤ b.kernel.nextFrame + b.contigUsed

/-- Every frame that was drawn for a page has one. -/
structure Even (b : Broker) : Prop where
  carved : b.trail.sum Event.carved = b.contigUsed
  drawn : b.contigCapacity + b.pages.active = b.kernel.nextFrame + b.contigUsed

/-- The books are kept. -/
structure Posts (b b' : Broker) : Prop where
  booked : b.Booked → b'.Booked
  covered : b.Covered → b'.Covered

/-- The books are kept, and no frame is lost. -/
structure Balances (b b' : Broker) : Prop extends Posts b b' where
  even : b.Even → b'.Even
  region : b.contig = none → b'.contig = none

variable {b b' b'' : Broker}

instance : IsPreorder Broker Posts where
  refl _ := ⟨id, id⟩
  trans _ _ _ h h' := ⟨h'.booked ∘ h.booked, h'.covered ∘ h.covered⟩

instance : IsPreorder Broker Balances where
  refl b := ⟨refl_of Posts b, id, id⟩
  trans _ _ _ h h' :=
    ⟨trans_of Posts h.toPosts h'.toPosts, h'.even ∘ h.even, h'.region ∘ h.region⟩

/-! ### Changes that no account sees -/

theorem spanLength_congr {id : Nat} (h : b'.spans.at? id = b.spans.at? id) :
    b'.spanLength id = b.spanLength id := by
  unfold spanLength
  rw [h]

/-- The events of the trail come to the same where the spans they name are those
that they were. -/
theorem Booked.sum_credit (h : b.Booked)
    (hspans : ∀ id span, b.spans.at? id = some span → b'.spans.at? id = some span)
    (account : Account) : b.trail.sum (·.credit b'.spanLength account) =
      b.trail.sum (·.credit b.spanLength account) := by
  refine Trail.sum_congr fun event hevent => ?_
  cases event with
  | spanMapped id into vaddr =>
    obtain ⟨span, hspan⟩ := h.spans id into vaddr hevent
    have hlength := spanLength_congr ((hspans id span hspan).trans hspan.symm)
    cases account <;> first | rfl | exact hlength
  | _ => cases account <;> rfl

/-- One more event is entered. -/
theorem Booked.post {event : Event} (h : b.Booked) (htrail : b'.trail = b.trail.record event)
    (hspans : ∀ id span, b.spans.at? id = some span → b'.spans.at? id = some span)
    (hheld : ∀ account, b'.held account + event.debit account =
      b.held account + event.credit b'.spanLength account)
    (hevent : ∀ id into vaddr, event = .spanMapped id into vaddr →
      ∃ span, b'.spans.at? id = some span) : b'.Booked where
  accounts account := by
    have hbefore := h.accounts account
    have hnow := hheld account
    rw [htrail, Trail.sum_record, Trail.sum_record, h.sum_credit hspans]
    omega
  spans id into vaddr hmem := by
    rw [htrail, Trail.toList_record, List.mem_append, List.mem_singleton] at hmem
    rcases hmem with hold | hnew
    · obtain ⟨span, hspan⟩ := h.spans id into vaddr hold
      exact ⟨span, hspans id span hspan⟩
    · exact hevent id into vaddr hnew.symm

theorem Booked.of_same (h : b.Booked) (htrail : b'.trail = b.trail)
    (hspans : ∀ id span, b.spans.at? id = some span → b'.spans.at? id = some span)
    (hheld : ∀ account, b'.held account = b.held account) : b'.Booked where
  accounts account := by
    rw [htrail, hheld, h.accounts, h.sum_credit hspans]
  spans id into vaddr hmem := by
    rw [htrail] at hmem
    obtain ⟨span, hspan⟩ := h.spans id into vaddr hmem
    exact ⟨span, hspans id span hspan⟩

/-- No frame is drawn and none gets a page. -/
structure SameFrames (b b' : Broker) : Prop where
  carved : b'.trail.sum Event.carved = b.trail.sum Event.carved
  contig : b'.contig = b.contig
  pages : b'.pages.active = b.pages.active
  frames : b'.kernel.nextFrame = b.kernel.nextFrame

theorem SameFrames.covered (hsame : b.SameFrames b') (h : b.Covered) : b'.Covered := by
  refine ⟨?_, ?_⟩
  · rw [hsame.carved, contigUsed, hsame.contig]
    exact h.carved
  · rw [contigUsed, contigCapacity, hsame.contig, hsame.pages, hsame.frames]
    exact h.drawn

theorem SameFrames.even (hsame : b.SameFrames b') (h : b.Even) : b'.Even := by
  refine ⟨?_, ?_⟩
  · rw [hsame.carved, contigUsed, hsame.contig]
    exact h.carved
  · rw [contigUsed, contigCapacity, hsame.contig, hsame.pages, hsame.frames]
    exact h.drawn

theorem SameFrames.balances (h : b.SameFrames b') (hbooked : b.Booked → b'.Booked) :
    b.Balances b' := ⟨⟨hbooked, h.covered⟩, h.even, fun hnone => h.contig.trans hnone⟩

/-- An event is written down with what it stands for. -/
theorem Balances.post {event : Event} (htrail : b'.trail = b.trail.record event)
    (hcarved : event.carved = 0) (hcontig : b'.contig = b.contig)
    (hpages : b'.pages.active = b.pages.active)
    (hframes : b'.kernel.nextFrame = b.kernel.nextFrame)
    (hspans : ∀ id span, b.spans.at? id = some span → b'.spans.at? id = some span)
    (hheld : ∀ account, b'.held account + event.debit account =
      b.held account + event.credit b'.spanLength account)
    (hevent : ∀ id into vaddr, event = .spanMapped id into vaddr →
      ∃ span, b'.spans.at? id = some span) : b.Balances b' := by
  have hsame : b.SameFrames b' := by
    refine ⟨?_, hcontig, hpages, hframes⟩
    rw [htrail, Trail.sum_record, hcarved, Nat.add_zero]
  exact hsame.balances fun h => h.post htrail hspans hheld hevent

/-- Reservations come and go, and the kernel does what draws no frame. -/
theorem Balances.of_quiet {kernel : Kernel} {scheduler : Scheduler}
    {components : Pool ComponentRecord} {threads : Pool ThreadRecord} {rcvs : Pool RcvRecord}
    {asnds : Pool AsndRecord} {pages : Pool Page} {spans : Pool Span} {barriers : Barriers}
    {journal : Trail JournalLine} (hk : kernel.nextFrame = b.kernel.nextFrame)
    (hc : components.active = b.components.active) (ht : threads.active = b.threads.active)
    (hr : rcvs.active = b.rcvs.active) (ha : asnds.active = b.asnds.active)
    (hp : b.pages.Shuffles pages) (hs : b.spans.Shuffles spans) : b.Balances
      { b with kernel, scheduler, components, threads, rcvs, asnds, pages, spans, barriers,
               journal } := by
  have hsame : b.SameFrames
      { b with kernel, scheduler, components, threads, rcvs, asnds, pages, spans, barriers,
               journal } := ⟨rfl, rfl, hp.active, hk⟩
  refine hsame.balances fun h => h.of_same rfl (fun id span hspan => ?_) fun account => ?_
  · exact hs.objects.at?_eq.trans hspan
  · cases account with
    | components => exact hc
    | threads => exact ht
    | rcvs => exact hr
    | asnds => exact ha
    | spans => exact hs.active
    | pages => exact hp.active
    | places => exact hp.total

end Broker

/-! ### Parts of the state -/

variable {b b' : Broker} {σ ε α β : Type}

theorem kernelPart_balances :
    kernelPart.Allows Broker.Balances fun k k' => k'.nextFrame = k.nextFrame :=
  fun _ _ h => .of_quiet h rfl rfl rfl rfl (refl_of Pool.Shuffles _) (refl_of Pool.Shuffles _)

theorem componentPool_balances : componentPool.Allows Broker.Balances Pool.Shuffles :=
  fun _ _ h => .of_quiet rfl h.active rfl rfl rfl (refl_of Pool.Shuffles _)
    (refl_of Pool.Shuffles _)

theorem threadPool_balances : threadPool.Allows Broker.Balances Pool.Shuffles :=
  fun _ _ h => .of_quiet rfl rfl h.active rfl rfl (refl_of Pool.Shuffles _)
    (refl_of Pool.Shuffles _)

theorem rcvPool_balances : rcvPool.Allows Broker.Balances Pool.Shuffles :=
  fun _ _ h => .of_quiet rfl rfl rfl h.active rfl (refl_of Pool.Shuffles _)
    (refl_of Pool.Shuffles _)

theorem asndPool_balances : asndPool.Allows Broker.Balances Pool.Shuffles :=
  fun _ _ h => .of_quiet rfl rfl rfl rfl h.active (refl_of Pool.Shuffles _)
    (refl_of Pool.Shuffles _)

theorem pagePool_balances : pagePool.Allows Broker.Balances Pool.Shuffles :=
  fun _ _ h => .of_quiet rfl rfl rfl rfl rfl h (refl_of Pool.Shuffles _)

theorem spanPool_balances : spanPool.Allows Broker.Balances Pool.Shuffles :=
  fun _ _ h => .of_quiet rfl rfl rfl rfl rfl (refl_of Pool.Shuffles _) h

/-- The kernel's objects have no frames. -/
theorem nextFrame_stays {adds : ComponentId → Prop} {s : Step Kernel ε α}
    (hs : Stays (Kernel.ObjectMove adds) s) :
    Stays (fun k k' : Kernel => k'.nextFrame = k.nextFrame) s := fun k =>
  (hs k).mono (fun _ _ => Kernel.ObjectMove.nextFrame) fun _ _ => Kernel.ObjectMove.nextFrame

/-- So they are no part of the books. -/
theorem askKernel_balances {adds : ComponentId → Prop} {s : Step Kernel Kernel.Refusal α}
    (hs : Stays (Kernel.ObjectMove adds) s) : Stays Broker.Balances (askKernel s) :=
  kernelPart_balances.run (nextFrame_stays hs).explain

theorem log_balances (level : Level) (message : String) :
    Stays Broker.Balances (log level message : Step Broker ε Unit) := .modify fun _ =>
  .of_quiet rfl rfl rfl rfl rfl (refl_of Pool.Shuffles _) (refl_of Pool.Shuffles _)

/-! ### How operations end -/

/-- A failure that is no defect. -/
def Failure.Ordinary (failure : Failure) : Prop := failure.defect? = none

/-- After a refusal for a reason in `plain` the books are kept and no frame is
lost; after an abort the books are kept. -/
def Broker.Closes (plain : ε → Prop) (b : Broker) : Stop ε → Broker → Prop
  | .refused reason, b' => plain reason → b.Balances b'
  | .abort, b' => b.Posts b'

namespace Broker.Closes

variable {plain : ε → Prop} {why : Stop ε}

theorem of_balances (h : b.Balances b') : b.Closes plain why b' := by
  cases why with
  | refused reason => exact fun _ => h
  | abort => exact h.toPosts

theorem after {first : Broker} (h : b.Closes plain why b') (hr : first.Balances b) :
    first.Closes plain why b' := by
  cases why with
  | refused reason => exact fun hplain => trans_of Balances hr (h hplain)
  | abort => exact trans_of Posts hr.toPosts h

/-- What is tidied up is no part of the books. -/
theorem tidy {b'' : Broker} (h : b.Closes plain why b') (hr : b'.Balances b'') :
    b.Closes plain why b'' := by
  cases why with
  | refused reason => exact fun hplain => trans_of Balances (h hplain) hr
  | abort => exact trans_of Posts h hr.toPosts

end Broker.Closes

namespace Step

/-- However the step ends, the books are kept; unless it aborts, no frame is
lost.  Of a refusal for a reason that is not in `plain`, nothing is said. -/
def KeepsBooks (plain : ε → Prop) (s : Step Broker ε α) (b : Broker) : Prop :=
  s.Leads b (fun _ => b.Balances) (b.Closes plain)

variable {plain : ε → Prop} {s : Step Broker ε α} {f : α → Step Broker ε β}

theorem StaysFrom.keepsBooks (h : s.StaysFrom Broker.Balances b) : s.KeepsBooks plain b :=
  h.mono (fun _ _ => id) fun _ _ => .of_balances

namespace KeepsBooks

theorem after {first : Broker} (h : s.KeepsBooks plain b) (hr : first.Balances b) :
    s.Leads b (fun _ => first.Balances) (first.Closes plain) :=
  h.mono (fun _ _ => trans_of Broker.Balances hr) fun _ _ hclose => hclose.after hr

theorem bind (hs : s.KeepsBooks plain b)
    (hf : ∀ a b', b.Balances b' → (f a).KeepsBooks plain b') : (s >>= f).KeepsBooks plain b :=
  Leads.bind hs fun a b' hr => (hf a b' hr).after hr

/-- A step that stays in the books comes first. -/
theorem stays_bind (hs : Stays Broker.Balances s)
    (hf : ∀ a b', b.Balances b' → (f a).KeepsBooks plain b') : (s >>= f).KeepsBooks plain b :=
  bind (hs b).keepsBooks hf

theorem map {g : α → β} (hs : s.KeepsBooks plain b) : (g <$> s).KeepsBooks plain b :=
  leads_map.2 hs

theorem refuse {reason : ε} : (refuse reason : Step Broker ε α).KeepsBooks plain b :=
  (Stays.refuse b).keepsBooks

theorem pure {a : α} : (pure a : Step Broker ε α).KeepsBooks plain b := (Stays.pure b).keepsBooks

theorem refuse_bind {reason : ε} : (Step.refuse reason >>= f).KeepsBooks plain b :=
  StaysFrom.refuse_bind.keepsBooks

/-- Slots that were kept are given up. -/
theorem holding_leads {part : Part (Pool σ)} {slot : Reservation σ} {s : Operation β}
    {plain : Failure → Prop} {first : Broker} {post : β → Broker → Prop}
    (h : part.Allows Broker.Balances Pool.Shuffles)
    (hs : s.Leads b post (first.Closes plain)) :
    (part.holding slot s).Leads b post (first.Closes plain) :=
  leads_cleanly.2 (hs.mono (fun _ _ => id) fun _ b' hclose =>
    hclose.tidy (h b' _ (.unreserve slot)))

theorem holdingAll_leads {part : Part (Pool σ)} {slots : List (Reservation σ)} {s : Operation β}
    {post : β → Broker → Prop} {stop : Stop Failure → Broker → Prop}
    (h : part.Allows Broker.Balances Pool.Shuffles)
    (htidy : ∀ why b' b'', stop why b' → b'.Balances b'' → stop why b'')
    (hs : s.Leads b post stop) : (part.holdingAll slots s).Leads b post stop :=
  leads_cleanly.2 (hs.mono (fun _ _ => id) fun why b' hstop =>
    htidy why b' _ hstop (h b' _ (.unreserveAll slots)))

theorem holding {part : Part (Pool σ)} {slot : Reservation σ} {s : Operation β}
    {plain : Failure → Prop} (h : part.Allows Broker.Balances Pool.Shuffles)
    (hs : s.KeepsBooks plain b) : (part.holding slot s).KeepsBooks plain b := holding_leads h hs

end KeepsBooks

end Step

end CapabilityBroker
