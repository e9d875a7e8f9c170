/-
CapabilityBroker/Broker.lean

The broker with all it keeps and drives.

The state holds the kernel and the scheduler that the broker drives, the
pools of its records, and what it writes down.  An operation is a step on
this state that can fail.  Operations work on parts of the state; a slot
that was reserved in a pool is given back when the operation that reserved
it stops before publishing anything in it.
-/
import CapabilityBroker.Barrier.Registry
import CapabilityBroker.Defect
import CapabilityBroker.Event
import CapabilityBroker.Journal
import CapabilityBroker.Kernel.State
import CapabilityBroker.Memory.Record
import CapabilityBroker.Object.Record
import CapabilityBroker.Scheduler
import CapabilityBroker.Settings

namespace CapabilityBroker

/-- The state of the broker. -/
structure Broker where
  kernel : Kernel
  scheduler : Scheduler
  components : Pool ComponentRecord
  threads : Pool ThreadRecord
  rcvs : Pool RcvRecord
  asnds : Pool AsndRecord
  pages : Pool Page
  spans : Pool Span
  contig : Option ContigRegion
  barriers : Barriers
  trail : Trail Event
  journal : Trail JournalLine

/-- A broker with no records and no room for any. -/
def Broker.create (kernel : Kernel) : Broker where
  kernel := kernel
  scheduler := .empty
  components := .create "comp" 0
  threads := .create "thd" 0
  rcvs := .create "rcv" 0
  asnds := .create "asnd" 0
  pages := .create "page" 0
  spans := .create "span" 0
  contig := none
  barriers := ∅
  trail := .empty
  journal := .empty

/-- A computation on the broker that can fail. -/
abbrev Operation (α : Type) := Step Broker Failure α

/-! ### Parts of the state -/

/-- A part of the state that steps can run on. -/
structure Part (σ : Type) where
  get : Broker → σ
  put : σ → Broker → Broker

namespace Part

variable {σ ε α β : Type}

/-- Run a step on a part. -/
def run (part : Part σ) (s : Step σ ε α) : Step Broker ε α := s.within part.get part.put

/-- Run a step on a pool. -/
def ask (part : Part (Pool σ)) (s : Step (Pool σ) Pool.Refusal α) : Operation α :=
  part.run (s.explain .pool)

/-- Go on with a reservation; it is given up if the rest stops early. -/
def holding (part : Part (Pool σ)) (slot : Reservation σ) (s : Operation β) : Operation β :=
  s.cleanly fun b => part.put ((part.get b).unreserve slot) b

/-- Go on with several reservations; they are given up if the rest stops
early. -/
def holdingAll (part : Part (Pool σ)) (slots : List (Reservation σ)) (s : Operation β) :
    Operation β :=
  s.cleanly fun b => part.put ((part.get b).unreserveAll slots) b

end Part

/-- The part that is the kernel. -/
def kernelPart : Part Kernel := ⟨Broker.kernel, fun kernel b => { b with kernel }⟩

def componentPool : Part (Pool ComponentRecord) :=
  ⟨Broker.components, fun components b => { b with components }⟩

def threadPool : Part (Pool ThreadRecord) := ⟨Broker.threads, fun threads b => { b with threads }⟩

def rcvPool : Part (Pool RcvRecord) := ⟨Broker.rcvs, fun rcvs b => { b with rcvs }⟩

def asndPool : Part (Pool AsndRecord) := ⟨Broker.asnds, fun asnds b => { b with asnds }⟩

def pagePool : Part (Pool Page) := ⟨Broker.pages, fun pages b => { b with pages }⟩

def spanPool : Part (Pool Span) := ⟨Broker.spans, fun spans b => { b with spans }⟩

/-! ### Small steps -/

variable {ε α : Type}

/-- Ask the kernel for something. -/
def askKernel (s : Step Kernel Kernel.Refusal α) : Operation α :=
  kernelPart.run (s.explain .kernel)

/-- Add an event to the trail. -/
def note (event : Event) : Step Broker ε Unit :=
  modify fun b => { b with trail := b.trail.record event }

/-- Write a line into the journal. -/
def log (level : Level) (message : String) : Step Broker ε Unit :=
  modify fun b => { b with journal := b.journal.record ⟨level, message⟩ }

/-- Drive the scheduler. -/
def drive (f : Scheduler → Scheduler) : Step Broker ε Unit :=
  modify fun b => { b with scheduler := f b.scheduler }

/-- Make the pools as large as the settings ask. -/
def makePools (settings : Settings) : Step Broker ε Unit := do
  let components ← Step.exact (Pool.create? "comp" settings.maxComponents.toNat)
  let threads ← Step.exact (Pool.create? "thd" settings.maxThreads.toNat)
  let rcvs ← Step.exact (Pool.create? "rcv" settings.maxRcvs.toNat)
  let asnds ← Step.exact (Pool.create? "asnd" settings.maxAsnds.toNat)
  let pages ← Step.exact (Pool.create? "page" settings.maxPages.toNat)
  let spans ← Step.exact (Pool.create? "span" settings.maxSpans.toNat)
  modify fun b => { b with components, threads, rcvs, asnds, pages, spans }

end CapabilityBroker
