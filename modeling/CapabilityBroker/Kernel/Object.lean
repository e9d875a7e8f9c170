/-
CapabilityBroker/Kernel/Object.lean

Kernel objects as the kernel describes them.

Whoever asks the kernel for an object gets a description back: the slots
that now name it, the thread behind it, the component it belongs to.  The
descriptions are also what later requests about the object carry, so they
all have a JSON form.
-/
import CapabilityBroker.Json.Names

namespace CapabilityBroker

namespace Kernel

/-! ### Threads and endpoints -/

/-- A thread that the kernel created. -/
structure Thread where
  /-- The thread in the broker's own table. -/
  cap : Cap .thread
  tid : ThreadId
  /-- The component the thread executes in. -/
  owner : ComponentId
deriving DecidableEq

/-- A receive endpoint with the thread that runs on activation and the
budget bound to it. -/
structure Rcv where
  /-- The endpoint in the broker's own table. -/
  rcv : Cap .rcv
  thread : Thread
  tcap : Cap .tcap
  /-- The scheduler component that owns the endpoint. -/
  owner : ComponentId
deriving DecidableEq

/-- The capabilities that an alias of a receive endpoint installs. -/
structure RcvAliases where
  thread : Cap .thread
  rcv : Cap .rcv
  tcap : Cap .tcap
deriving DecidableEq

/-- An asynchronous send endpoint. -/
structure Asnd where
  /-- The endpoint in the broker's own table. -/
  cap : Cap .asnd
  /-- The receive endpoint that is notified. -/
  target : Cap .rcv
deriving DecidableEq

/-- Flags for the creation of a receive endpoint. -/
structure RcvFlags where
  bits : UInt32
deriving DecidableEq

/-- What the broker holds for a component that was running before it, and
where the component's own resources are still free. -/
structure Resources where
  comp : Cap .comp
  captbl : Cap .captbl
  pgtbl : Cap .pgtbl
  /-- The first unused virtual address. -/
  heapFrontier : Vaddr
  /-- The first unused slot of the capability table. -/
  captblFrontier : UInt64
deriving DecidableEq

/-! ### JSON forms -/

instance : Wire Thread where
  encode t := Json.record
    [("cap", encode t.cap), ("tid", encode t.tid), ("owner", encode t.owner)]
  decode j := do
    let fields ← Fields.ofJson? ["cap", "tid", "owner"] j
    let cap ← fields.required "cap"
    let tid ← fields.required "tid"
    let owner ← fields.required "owner"
    pure ⟨cap, tid, owner⟩

instance : Wire Rcv where
  encode r := Json.record
    [("rcv", encode r.rcv), ("thread", encode r.thread), ("tcap", encode r.tcap),
     ("owner", encode r.owner)]
  decode j := do
    let fields ← Fields.ofJson? ["rcv", "thread", "tcap", "owner"] j
    let rcv ← fields.required "rcv"
    let thread ← fields.required "thread"
    let tcap ← fields.required "tcap"
    let owner ← fields.required "owner"
    pure ⟨rcv, thread, tcap, owner⟩

instance : Wire RcvAliases where
  encode a := Json.record
    [("thread", encode a.thread), ("rcv", encode a.rcv), ("tcap", encode a.tcap)]
  decode j := do
    let fields ← Fields.ofJson? ["thread", "rcv", "tcap"] j
    let thread ← fields.required "thread"
    let rcv ← fields.required "rcv"
    let tcap ← fields.required "tcap"
    pure ⟨thread, rcv, tcap⟩

instance : Wire Asnd where
  encode a := Json.record [("cap", encode a.cap), ("target", encode a.target)]
  decode j := do
    let fields ← Fields.ofJson? ["cap", "target"] j
    let cap ← fields.required "cap"
    let target ← fields.required "target"
    pure ⟨cap, target⟩

instance : Wire RcvFlags where
  encode flags := encode flags.bits
  decode j := (decode j).map RcvFlags.mk

instance : Wire Resources where
  encode r := Json.record
    [("comp", encode r.comp), ("captbl", encode r.captbl), ("pgtbl", encode r.pgtbl),
     ("heap_frontier", encode r.heapFrontier), ("captbl_frontier", encode r.captblFrontier)]
  decode j := do
    let fields ← Fields.ofJson? ["comp", "captbl", "pgtbl", "heap_frontier", "captbl_frontier"] j
    let comp ← fields.required "comp"
    let captbl ← fields.required "captbl"
    let pgtbl ← fields.required "pgtbl"
    let heapFrontier ← fields.required "heap_frontier"
    let captblFrontier ← fields.required "captbl_frontier"
    pure ⟨comp, captbl, pgtbl, heapFrontier, captblFrontier⟩

end Kernel

end CapabilityBroker
