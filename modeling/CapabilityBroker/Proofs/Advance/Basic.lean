/-
CapabilityBroker/Proofs/Advance/Basic.lean

What a step of the broker may do to the state.

A warrant says which components may gain capabilities and mappings, which
thread records may appear, and whether the system is still starting.
`b.Advance w b'` collects what holds of any two states with steps under the
warrant in between: the kernel moved as far as `Kernel.Advance` allows, no
record went away, and no record changed but for a page that was mapped once
more and a component that became a scheduler during the start.  It also says
that mappings on record stay true if they were.

It is a preorder, so it passes through every operation (`Step.StaysFrom`), and
it is built up part by part: `Part.Admits` names how a part may move.
-/
import CapabilityBroker.Proofs.Kernel.Shows
import CapabilityBroker.Proofs.Parts

namespace CapabilityBroker

open Step (Stays StaysFrom)

/-- What a step may do. -/
structure Warrant extends Kernel.Warrant where
  /-- These thread records may appear. -/
  threads : ThreadRecord → Prop

/-- Anything may be done. -/
def Warrant.any : Warrant where
  toWarrant := .any
  threads _ := True

/-! ### Records -/

/-- A component's record changes only while the system starts, and then only
by its scheduling endpoints. -/
def ComponentRecord.Follows (starting : Prop) (c c' : ComponentRecord) : Prop :=
  (∃ endpoints, c' = { c with schedRcvs := endpoints }) ∧ (¬ starting → c' = c)

instance {starting : Prop} : IsPreorder ComponentRecord (ComponentRecord.Follows starting) where
  refl c := ⟨⟨c.schedRcvs, rfl⟩, fun _ => rfl⟩
  trans := by
    rintro c _ _ ⟨⟨_, rfl⟩, h⟩ ⟨⟨endpoints, rfl⟩, h'⟩
    exact ⟨⟨endpoints, rfl⟩, fun hn => (h' hn).trans (h hn)⟩

/-- A page keeps its frame and its mappings, and gains some. -/
def Page.Gains (maps : ComponentId → Prop) (p p' : Page) : Prop :=
  ∃ more, p' = { p with mappings := p.mappings ++ more } ∧ ∀ m ∈ more, maps m.component

instance {maps : ComponentId → Prop} : IsPreorder Page (Page.Gains maps) where
  refl p := ⟨[], by rw [List.append_nil], fun m hm => by cases hm⟩
  trans := by
    rintro p _ _ ⟨more, rfl, h⟩ ⟨more', rfl, h'⟩
    refine ⟨more ++ more', by rw [List.append_assoc], fun m hm => ?_⟩
    rcases List.mem_append.1 hm with hm | hm
    · exact h m hm
    · exact h' m hm

/-- Every mapping on record is one that the kernel shows. -/
def Broker.Truthful (b : Broker) : Prop :=
  ∀ i g page, b.pages.entry i = ⟨g, .active page⟩ →
    ∀ m ∈ page.mappings, b.kernel.Shows m page.frame

/-- Components and spans are numbered from one. -/
def Broker.FromOne (b : Broker) : Prop := b.components.FromOne ∧ b.spans.FromOne

/-! ### The state -/

/-- Between the two states, only steps under the warrant were taken. -/
structure Broker.Advance (w : Warrant) (b b' : Broker) : Prop where
  kernel : Kernel.Advance w.toWarrant b.kernel b'.kernel
  components : b.components.Moves (ComponentRecord.Follows w.starting) (fun _ => True) b'.components
  threads : b.threads.Moves Eq w.threads b'.threads
  rcvs : b.rcvs.Moves Eq (fun _ => True) b'.rcvs
  asnds : b.asnds.Moves Eq (fun _ => True) b'.asnds
  pages : b.pages.Moves (Page.Gains w.maps) (fun _ => True) b'.pages
  spans : b.spans.Moves Eq (fun _ => True) b'.spans
  truthful : b.Truthful → b'.Truthful

namespace Broker.Advance

variable {w : Warrant} {b b' b'' : Broker}

theorem refl (b : Broker) : b.Advance w b :=
  ⟨.refl _, .refl _, .refl _, .refl _, .refl _, .refl _, .refl _, id⟩

theorem trans (h : b.Advance w b') (h' : b'.Advance w b'') : b.Advance w b'' where
  kernel := h.kernel.trans h'.kernel
  components := h.components.trans (fun _ _ _ _ => trivial) h'.components
  threads := h.threads.trans (fun _ _ ho => ho ▸ id) h'.threads
  rcvs := h.rcvs.trans (fun _ _ _ _ => trivial) h'.rcvs
  asnds := h.asnds.trans (fun _ _ _ _ => trivial) h'.asnds
  pages := h.pages.trans (fun _ _ _ _ => trivial) h'.pages
  spans := h.spans.trans (fun _ _ _ _ => trivial) h'.spans
  truthful := h'.truthful ∘ h.truthful

instance : IsPreorder Broker (Broker.Advance w) where
  refl := refl
  trans _ _ _ := trans

/-- What a warrant allows is allowed without one. -/
theorem any (h : b.Advance w b') : b.Advance .any b' where
  kernel := h.kernel.any
  components := h.components.mono (fun _ _ h => ⟨h.1, fun hno => absurd trivial hno⟩) fun _ => id
  threads := h.threads.mono (fun _ _ => id) fun _ _ => trivial
  rcvs := h.rcvs
  asnds := h.asnds
  pages := h.pages.mono (fun _ _ ⟨more, h, _⟩ => ⟨more, h, fun _ _ => trivial⟩) fun _ => id
  spans := h.spans
  truthful := h.truthful

theorem fromOne (h : b.Advance w b') (hb : b.FromOne) : b'.FromOne :=
  ⟨h.components.based hb.1, h.spans.based hb.2⟩

/-- What the broker writes down, and whom it drives, is no part of this. -/
theorem of_notes {scheduler : Scheduler} {contig : Option ContigRegion} {barriers : Barriers}
    {trail : Trail Event} {journal : Trail JournalLine} :
    b.Advance w { b with scheduler, contig, barriers, trail, journal } :=
  ⟨.refl _, .refl _, .refl _, .refl _, .refl _, .refl _, .refl _, id⟩

/-- A page is mapped once more, where the kernel shows it. -/
theorem of_mapping {page : Handle Page} {m : Mapping} (hm : w.maps m.component)
    (hs : ∀ record, b.pages.get? page = some record → b.kernel.Shows m record.frame) :
    b.Advance w { b with pages := b.pages.modify page (·.addMapping m) } := by
  have hmoves : b.pages.Moves (Page.Gains w.maps) (fun _ => True)
      (b.pages.modify page (·.addMapping m)) := by
    refine .modify fun o => ⟨[m], rfl, fun m' hm' => ?_⟩
    rw [List.mem_singleton] at hm'
    exact hm' ▸ hm
  refine ⟨.refl _, .refl _, .refl _, .refl _, .refl _, hmoves, .refl _, fun h => ?_⟩
  intro i g record hr m' hm'
  have hr' := hr
  rw [Pool.entry_modify] at hr'
  split at hr'
  · next o ho =>
    split at hr'
    · cases hr'
      rcases List.mem_append.1 hm' with hm' | hm'
      · exact h _ _ _ (Pool.get?_eq_some_iff.1 ho) m' hm'
      · rw [List.mem_singleton] at hm'
        exact hm' ▸ hs o ho
    · exact h i g record hr' m' hm'
  · exact h i g record hr' m' hm'

end Broker.Advance

/-! ### Parts of the state -/

/-- Moves of a part that the warrant allows. -/
def Part.Admits {σ : Type} (part : Part σ) (w : Warrant) (S : σ → σ → Prop) : Prop :=
  ∀ b s, S (part.get b) s → b.Advance w (part.put s b)

section Parts

variable {w : Warrant} {b : Broker} {σ ε α β : Type}

theorem kernelPart_admits : kernelPart.Admits w (Kernel.Advance w.toWarrant) := fun _ _ h =>
  ⟨h, .refl _, .refl _, .refl _, .refl _, .refl _, .refl _,
    fun ht i g page hp m hm => (ht i g page hp m hm).advance h⟩

theorem componentPool_admits :
    componentPool.Admits w (Pool.Moves (ComponentRecord.Follows w.starting) (fun _ => True)) :=
  fun _ _ h => ⟨.refl _, h, .refl _, .refl _, .refl _, .refl _, .refl _, id⟩

theorem threadPool_admits : threadPool.Admits w (Pool.Moves Eq w.threads) :=
  fun _ _ h => ⟨.refl _, .refl _, h, .refl _, .refl _, .refl _, .refl _, id⟩

theorem rcvPool_admits : rcvPool.Admits w (Pool.Moves Eq (fun _ => True)) :=
  fun _ _ h => ⟨.refl _, .refl _, .refl _, h, .refl _, .refl _, .refl _, id⟩

theorem asndPool_admits : asndPool.Admits w (Pool.Moves Eq (fun _ => True)) :=
  fun _ _ h => ⟨.refl _, .refl _, .refl _, .refl _, h, .refl _, .refl _, id⟩

theorem spanPool_admits : spanPool.Admits w (Pool.Moves Eq (fun _ => True)) :=
  fun _ _ h => ⟨.refl _, .refl _, .refl _, .refl _, .refl _, .refl _, h, id⟩

/-- A new page must be shown where it says it is mapped. -/
theorem Broker.Advance.of_pages {pages : Pool Page}
    (h : b.pages.Moves Eq (fun page => ∀ m ∈ page.mappings, b.kernel.Shows m page.frame) pages) :
    b.Advance w { b with pages } := by
  have hmoves : b.pages.Moves (Page.Gains w.maps) (fun _ => True) pages := by
    refine h.mono ?_ fun _ _ => trivial
    rintro o _ rfl
    exact refl_of (Page.Gains w.maps) o
  refine ⟨.refl _, .refl _, .refl _, .refl _, .refl _, hmoves, .refl _, fun ht => ?_⟩
  intro i g page hp m hm
  rcases h.added i g page hp with ⟨o, heq, hold⟩ | hnew
  · subst heq
    exact ht i g o hold m hm
  · exact hnew m hm

theorem pagePool_admits : pagePool.Admits w Pool.Reserves :=
  fun _ _ h => .of_pages (h.mono (fun _ _ => id) fun _ ho => ho.elim)

/-! ### Steps on parts -/

theorem Part.Admits.reserves {part : Part (Pool σ)} {C : σ → σ → Prop} {P : σ → Prop}
    [IsPreorder σ C] (h : part.Admits w (Pool.Moves C P)) : part.Admits w Pool.Reserves :=
  Part.Allows.reserves h

theorem Part.Admits.run {part : Part σ} {S : σ → σ → Prop} {s : Step σ ε α}
    (h : part.Admits w S) (hs : Stays S s) : Stays (Broker.Advance w) (part.run s) :=
  Part.Allows.run h hs

theorem Part.Admits.ask {part : Part (Pool σ)} {S : Pool σ → Pool σ → Prop}
    {s : Step (Pool σ) Pool.Refusal α} (h : part.Admits w S) (hs : Stays S s) :
    Stays (Broker.Advance w) (part.ask s) := Part.Allows.ask h hs

theorem Part.Admits.holding_leads {part : Part (Pool σ)} {slot : Reservation σ} {s : Operation β}
    {first : Broker} {post : β → Broker → Prop} (h : part.Admits w Pool.Reserves)
    (hs : s.Leads b post (fun _ => first.Advance w)) :
    (part.holding slot s).Leads b post (fun _ => first.Advance w) := Part.Allows.holding_leads h hs

theorem Part.Admits.holding {part : Part (Pool σ)} {slot : Reservation σ} {s : Operation β}
    (h : part.Admits w Pool.Reserves) (hs : s.StaysFrom (Broker.Advance w) b) :
    (part.holding slot s).StaysFrom (Broker.Advance w) b := Part.Allows.holding h hs

theorem Part.Admits.holdingAll {part : Part (Pool σ)} {slots : List (Reservation σ)}
    {s : Operation β} (h : part.Admits w Pool.Reserves)
    (hs : s.StaysFrom (Broker.Advance w) b) :
    (part.holdingAll slots s).StaysFrom (Broker.Advance w) b := Part.Allows.holdingAll h hs

theorem askKernel_stays {s : Step Kernel Kernel.Refusal α}
    (hs : Stays (Kernel.Advance w.toWarrant) s) : Stays (Broker.Advance w) (askKernel s) :=
  kernelPart_admits.run hs.explain

theorem advance_tacit : Tacit (Broker.Advance w) := fun _ _ _ _ _ => .of_notes

end Parts

end CapabilityBroker
