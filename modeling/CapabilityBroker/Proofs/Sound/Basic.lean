/-
CapabilityBroker/Proofs/Sound/Basic.lean

States of the broker in which nothing is amiss.

`b.Sound` collects what the operations rely on: a sound kernel that knows every
component on record, page records that fill their pool from below and never
outnumber the frames, a contiguous region inside the frames handed out, and
spans whose pages are all there with consecutive frames.

In a sound state an operation ends in one of three ways: it answers, it is
refused for a reason that a client can live with (`Stop.Ordinary`), or it
aborts.  `Ends off` says that of an operation that stops: the state it leaves
is sound, and it aborts if and only if `off`.
-/
import CapabilityBroker.Memory.Contiguous
import CapabilityBroker.Object.Component
import CapabilityBroker.Proofs.Advance.Basic
import CapabilityBroker.Proofs.Kernel.Room
import CapabilityBroker.Proofs.Pool.Dense

namespace CapabilityBroker

open Kernel (IsFrame SoundSince)

/-! ### States -/

namespace Broker

/-- Page records from an index on, for consecutive frames that were handed
out. -/
def HasRun (b : Broker) (index count : Nat) : Prop :=
  ∃ n, n + count ≤ b.kernel.nextFrame ∧
    ∀ j < count, ∃ page, b.pages.at? (index + j) = some page ∧ IsFrame (n + j) page.frame

/-- The pages of the contiguous region that are not carved off yet. -/
def contigLeft (b : Broker) : Nat := b.contigCapacity - b.contigUsed

/-- The region lies within the frames handed out. -/
def Holds (b : Broker) (region : ContigRegion) : Prop :=
  region.used ≤ region.capacity ∧ (region.capacity ≠ 0 →
    ∃ n, n + region.capacity ≤ b.kernel.nextFrame ∧ IsFrame n region.base)

/-- Nothing is amiss. -/
structure Sound (b : Broker) : Prop where
  kernel : b.kernel.Sound
  known : ∀ id, b.hasComponent id = true → b.kernel.hasComponent id = true
  componentsFit : b.components.capacity < Pool.capacityLimit
  pagesFit : b.pages.capacity < Pool.capacityLimit
  spansFit : b.spans.capacity < Pool.capacityLimit
  pages : b.pages.Dense
  contig : ∀ region, b.contig = some region → b.Holds region
  /-- Every page on record, and every page still to be carved off, has a frame
  of its own. -/
  accounted : b.pages.lowWater + b.contigLeft ≤ b.kernel.nextFrame + 1
  spans : ∀ id span, b.spans.at? id = some span →
    span.nPages.toNat ≠ 0 ∧ b.HasRun span.pageOff span.nPages.toNat

variable {b : Broker}

/-! ### Changes that keep a state sound -/

/-- What the broker writes down, whom it drives, and the records of threads and
endpoints are no part of this. -/
theorem Sound.of_notes {scheduler : Scheduler} {threads : Pool ThreadRecord} {rcvs : Pool RcvRecord}
    {asnds : Pool AsndRecord} {barriers : Barriers} {trail : Trail Event}
    {journal : Trail JournalLine} (h : b.Sound) :
    ({ b with scheduler, threads, rcvs, asnds, barriers, trail, journal } : Broker).Sound :=
  ⟨h.kernel, h.known, h.componentsFit, h.pagesFit, h.spansFit, h.pages, h.contig, h.accounted,
    h.spans⟩

/-- The kernel goes on, and stays sound. -/
theorem Sound.withKernel {k : Kernel} (h : b.Sound) (hk : SoundSince b.kernel k) :
    ({ b with kernel := k } : Broker).Sound where
  kernel := hk.sound
  known id hid := hk.spaces id (h.known id hid)
  componentsFit := h.componentsFit
  pagesFit := h.pagesFit
  spansFit := h.spansFit
  pages := h.pages
  contig := by
    intro region hregion
    obtain ⟨hused, hbase⟩ := h.contig region hregion
    refine ⟨hused, fun hc => ?_⟩
    obtain ⟨n, hn, hframe⟩ := hbase hc
    exact ⟨n, Nat.le_trans hn hk.frames, hframe⟩
  accounted := Nat.le_trans h.accounted (Nat.succ_le_succ hk.frames)
  spans := by
    intro id span hspan
    obtain ⟨hne, n, hn, hpages⟩ := h.spans id span hspan
    exact ⟨hne, n, Nat.le_trans hn hk.frames, hpages⟩

/-- Page records come, and those that were there keep their frames. -/
theorem Sound.withPages {pages : Pool Page} (h : b.Sound)
    (hcapacity : pages.capacity = b.pages.capacity)
    (hdense : pages.Dense) (haccounted : pages.lowWater + b.contigLeft ≤ b.kernel.nextFrame + 1)
    (hkept : ∀ i page, b.pages.at? i = some page →
      ∃ page', pages.at? i = some page' ∧ page'.frame = page.frame) :
    ({ b with pages } : Broker).Sound where
  kernel := h.kernel
  known := h.known
  componentsFit := h.componentsFit
  pagesFit := hcapacity ▸ h.pagesFit
  spansFit := h.spansFit
  pages := hdense
  contig := h.contig
  accounted := haccounted
  spans := by
    intro id span hspan
    obtain ⟨hne, n, hn, hpages⟩ := h.spans id span hspan
    refine ⟨hne, n, hn, fun j hj => ?_⟩
    obtain ⟨page, hpage, hframe⟩ := hpages j hj
    obtain ⟨page', hpage', hsame⟩ := hkept _ page hpage
    exact ⟨page', hpage', hsame ▸ hframe⟩

/-- A new component is one that the kernel knows. -/
theorem Sound.withComponents {components : Pool ComponentRecord} (h : b.Sound)
    (hcapacity : components.capacity = b.components.capacity)
    (hknown : ∀ id : ComponentId, ∀ record, components.at? id.number.toNat = some record →
      b.hasComponent id = true ∨ b.kernel.hasComponent id = true) :
    ({ b with components } : Broker).Sound where
  kernel := h.kernel
  known := by
    intro id hid
    obtain ⟨record, hrecord⟩ := Option.isSome_iff_exists.1 hid
    rcases hknown id record hrecord with hold | hnew
    · exact h.known id hold
    · exact hnew
  componentsFit := hcapacity ▸ h.componentsFit
  pagesFit := h.pagesFit
  spansFit := h.spansFit
  pages := h.pages
  contig := h.contig
  accounted := h.accounted
  spans := h.spans

/-- A new span is a run of pages on record. -/
theorem Sound.withSpans {spans : Pool Span} (h : b.Sound)
    (hcapacity : spans.capacity = b.spans.capacity)
    (hspans : ∀ id span, spans.at? id = some span → b.spans.at? id = some span ∨
      span.nPages.toNat ≠ 0 ∧ b.HasRun span.pageOff span.nPages.toNat) :
    ({ b with spans } : Broker).Sound where
  kernel := h.kernel
  known := h.known
  componentsFit := h.componentsFit
  pagesFit := h.pagesFit
  spansFit := hcapacity ▸ h.spansFit
  pages := h.pages
  contig := h.contig
  accounted := h.accounted
  spans := by
    intro id span hspan
    rcases hspans id span hspan with hold | hnew
    · exact h.spans id span hold
    · exact hnew

end Broker

/-! ### Ends -/

/-- A refusal that a client can live with. -/
def Stop.Ordinary (why : Stop Failure) : Prop :=
  ∃ failure, why = .refused failure ∧ failure.defect? = none

/-- Why an operation stops: it aborts if `off`, and is refused otherwise. -/
def Stop.Settles (off : Prop) (why : Stop Failure) : Prop :=
  why = .abort ∧ off ∨ why.Ordinary ∧ ¬ off

/-- How an operation that does not answer leaves a sound state. -/
def Ends (off : Prop) (why : Stop Failure) (b : Broker) : Prop := b.Sound ∧ why.Settles off

theorem Stop.Ordinary.refused {failure : Failure} (h : failure.defect? = none) :
    Stop.Ordinary (.refused failure) := ⟨failure, rfl, h⟩

theorem Ends.refused {b : Broker} {failure : Failure} {off : Prop} (h : b.Sound)
    (hf : failure.defect? = none) (hoff : ¬ off) : Ends off (.refused failure) b :=
  ⟨h, .inr ⟨.refused hf, hoff⟩⟩

/-- From a sound state, the operation leads to a sound state, and is at worst
refused. -/
def Calm {α : Type} (s : Operation α) : Prop :=
  ∀ b : Broker, b.Sound → s.Leads b (fun _ b' => b'.Sound) (Ends False)

/-! ### Steps on parts -/

variable {b : Broker} {σ α β : Type} {off : Prop}

/-- In a sound state, slots of the pool may be kept and given up. -/
structure Part.Bears (part : Part (Pool σ)) : Prop where
  get_put : ∀ b p, part.get (part.put p b) = p
  sound : ∀ b p, b.Sound → (part.get b).Reserves p → p.capacity = (part.get b).capacity →
    (part.put p b).Sound

theorem threadPool_bears : threadPool.Bears := ⟨fun _ _ => rfl, fun _ _ h _ _ => h.of_notes⟩

theorem rcvPool_bears : rcvPool.Bears := ⟨fun _ _ => rfl, fun _ _ h _ _ => h.of_notes⟩

theorem asndPool_bears : asndPool.Bears := ⟨fun _ _ => rfl, fun _ _ h _ _ => h.of_notes⟩

theorem componentPool_bears : componentPool.Bears where
  get_put _ _ := rfl
  sound _ _ h hp hc := by
    refine h.withComponents hc fun id record hrecord => .inl ?_
    rw [hp.at?_eq] at hrecord
    exact Option.isSome_iff_exists.2 ⟨record, hrecord⟩

theorem spanPool_bears : spanPool.Bears where
  get_put _ _ := rfl
  sound _ _ h hp hc := h.withSpans hc fun _ _ hspan => .inl (hp.at?_eq ▸ hspan)

/-- One slot is kept, if one is free. -/
theorem Part.Bears.allocate {part : Part (Pool σ)} (hp : part.Bears) (h : b.Sound) :
    (part.ask Pool.allocate).Leads b
      (fun slot b' => (part.get b).hasFree = true ∧ ∃ p, b' = part.put p b ∧ b'.Sound ∧
        p.Holds slot ∧ slot.index ≤ p.capacity)
      (fun why b' => ¬ (part.get b).hasFree = true ∧ b'.Sound ∧ why.Ordinary) := by
  refine Part.ask_leads (Pool.allocate_holds.mono ?_ ?_)
  · rintro slot p ⟨hfree, hmoves, hcapacity, hholds, hle⟩
    exact ⟨hfree, p, rfl, hp.sound b p h hmoves hcapacity, hholds, hcapacity ▸ hle⟩
  · rintro why p ⟨hfull, ⟨name, rfl⟩, rfl⟩
    refine ⟨hfull, ?_, .refused rfl⟩
    exact hp.sound b _ h (Pool.Moves.refl _) rfl

theorem Part.Bears.keep {part : Part (Pool σ)} (hp : part.Bears) (h : b.Sound) :
    (part.ask Pool.allocate).Leads b (fun slot b' => b'.Sound ∧ (part.get b').Holds slot)
      (Ends False) := by
  refine (hp.allocate h).mono ?_ ?_
  · rintro slot _ ⟨_, p, rfl, hsound, hholds, _⟩
    exact ⟨hsound, (hp.get_put b p).symm ▸ hholds⟩
  · rintro why b' ⟨_, hsound, hwhy⟩
    exact ⟨hsound, .inr ⟨hwhy, not_false⟩⟩

/-- A slot that is given up leaves the state sound. -/
theorem Part.Bears.holding_leads {part : Part (Pool σ)} {slot : Reservation σ} {s : Operation β}
    {post : β → Broker → Prop} {Q : Stop Failure → Prop} (hp : part.Bears)
    (hs : s.Leads b post fun why b' => b'.Sound ∧ Q why) :
    (part.holding slot s).Leads b post fun why b' => b'.Sound ∧ Q why := by
  refine Step.leads_cleanly.2 (hs.mono (fun _ _ hpost => hpost) ?_)
  rintro why b' ⟨hsound, hwhy⟩
  exact ⟨hp.sound b' _ hsound (.unreserve slot) (Pool.capacity_unreserve slot), hwhy⟩

theorem Part.Bears.holding {part : Part (Pool σ)} {slot : Reservation σ} {s : Operation β}
    {post : β → Broker → Prop} (hp : part.Bears) (hs : s.Leads b post (Ends off)) :
    (part.holding slot s).Leads b post (Ends off) := hp.holding_leads hs

/-- A slot that is kept can be published in. -/
theorem Part.activate_leads {part : Part (Pool σ)} {slot : Reservation σ} {o : σ}
    (h : (part.get b).Holds slot) :
    (part.ask (Pool.activate slot o)).Leads b
      (fun a b' => a = slot.handle ∧ b' = part.put ((part.get b).publish slot o) b)
      (fun _ _ => False) := by
  refine Part.ask_leads (Pool.activate_leads.mono ?_ ?_)
  · rintro a p ⟨_, rfl, rfl⟩
    exact ⟨rfl, rfl⟩
  · rintro why p ⟨hlost, _⟩
    exact hlost h

/-- What the kernel keeps sound, the broker may ask of it; what is said of the
rest of the state stays true. -/
theorem askKernel_keeping {s : Step Kernel Kernel.Refusal α} {Q : Broker → Prop}
    (hs : Kernel.Keeps s) (h : b.Sound) (hq : Q b) (hQ : ∀ b k, Q b → Q { b with kernel := k }) :
    (askKernel s).Leads b (fun _ b' => b'.Sound ∧ Q b') (Ends False) := by
  refine Part.run_leads (Step.leads_explain.2 ((hs _ _ (.refl h.kernel)).mono ?_ ?_))
  · exact fun _ k hk => ⟨h.withKernel hk, hQ b k hq⟩
  · rintro why k ⟨hk, hwhy⟩
    refine ⟨h.withKernel hk, .inr ⟨?_, not_false⟩⟩
    cases why with
    | refused reason => exact .refused rfl
    | abort => exact absurd rfl hwhy

/-! ### Calm operations -/

namespace Calm

variable {s : Operation α} {f : α → Operation β}

theorem bind (hs : Calm s) (hf : ∀ a, Calm (f a)) : Calm (s >>= f) :=
  fun b h => Step.Leads.bind (hs b h) fun a b' h' => hf a b' h'

/-- An attempt catches nothing but what a client can live with. -/
theorem attempt {ε : Type} {stop : Stop ε → Broker → Prop} (hs : Calm s) (h : b.Sound) :
    (Step.attempt s : Step Broker ε (Except Failure α)).Leads b
      (fun result b' => b'.Sound ∧ ∀ failure, result = .error failure → failure.defect? = none)
      stop := by
  refine Step.leads_attempt.2 ((hs b h).mono (fun _ _ hsound => ⟨hsound, nofun⟩) ?_)
  rintro why b' ⟨hsound, ⟨_, hfalse⟩ | ⟨⟨failure, rfl, hf⟩, _⟩⟩
  · exact hfalse.elim
  · refine ⟨?_, nofun⟩
    rintro _ ⟨⟩
    refine ⟨hsound, ?_⟩
    rintro _ ⟨⟩
    exact hf

theorem pure {a : α} : Calm (Pure.pure a : Operation α) := fun _ h => Step.leads_pure.2 h

theorem refuse {failure : Failure} (hf : failure.defect? = none) :
    Calm (Step.refuse failure : Operation α) :=
  fun _ h => Step.leads_refuse.2 (.refused h hf not_false)

theorem require {failure : Failure} {o : Option α} (hf : failure.defect? = none) :
    Calm (Step.require failure o) :=
  fun _ h => Step.leads_require.2 ⟨fun _ _ => h, fun _ => .refused h hf not_false⟩

end Calm

theorem note_calm (event : Event) : Calm (note event) := fun _ h => Step.leads_modify.2 h.of_notes

theorem log_calm (level : Level) (message : String) : Calm (log level message) :=
  fun _ h => Step.leads_modify.2 h.of_notes

theorem drive_calm (f : Scheduler → Scheduler) : Calm (drive f) :=
  fun _ h => Step.leads_modify.2 h.of_notes

theorem askKernel_calm {s : Step Kernel Kernel.Refusal α} (hs : Kernel.Keeps s) :
    Calm (askKernel s) := fun _ h =>
  (askKernel_keeping (Q := fun _ => True) hs h trivial fun _ _ hq => hq).mono
    (fun _ _ hpost => hpost.1) fun _ _ hends => hends

end CapabilityBroker
