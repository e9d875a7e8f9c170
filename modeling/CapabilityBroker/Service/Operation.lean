/-
CapabilityBroker/Service/Operation.lean

The operations behind the requests.

Apart from the creation of threads and mappings into virtual machines, an
operation acts on its caller.  A caller without a record gets nothing.
-/
import CapabilityBroker.Barrier.Signal
import CapabilityBroker.Memory.Contiguous
import CapabilityBroker.Object.Endpoint
import CapabilityBroker.Service.Image
import CapabilityBroker.Service.Reply

namespace CapabilityBroker

namespace Service

/-! ### Permission -/

/-- Whether a word is a power of two. -/
def isPowerOfTwo (w : UInt64) : Bool := w != 0 && w &&& (w - 1) == 0

/-- The alignment that was asked for: a power of two of at least a page,
which it is when nothing is said. -/
def alignment (align : Option UInt64) : Operation UInt64 :=
  let align := align.getD 4096
  if align < 4096 || !isPowerOfTwo align then Step.refuse (.invalidArgument "alignment")
  else pure align

/-- Refuse a caller that may not act on a component. -/
def deny {α : Type} (caller target : ComponentId) : Operation α := do
  log .warn ("capmgr: " ++ caller.text ++ " asked to create execution in " ++ target.text
    ++ ": no permission")
  note (.permissionDenied caller target)
  Step.refuse (.permissionDenied caller target)

/-- The caller, if it has a record. -/
def acting (i : Invocation) : Operation ComponentId := do
  if (← get).hasComponent i.caller then pure i.caller
  else Step.refuse (.unknownComponent i.caller)

/-- Check that a component may create threads in another: it must be its
scheduler, or its manager. -/
def authorize (image : Image) (caller client : ComponentId) : Operation Unit := do
  let record ← knownComponent client
  if image.schedulers.isSchedulerOf caller client || record.manager? == some caller then pure ()
  else deny caller client

/-! ### Threads and endpoints -/

/-- What the requester learns of a new thread. -/
def threadAnswer (record : ThreadRecord) : Cap .thread × ThreadId :=
  (record.schedulerCap, record.tid)

/-- Create a thread in a client, held by the calling scheduler. -/
def createClientThread (image : Image) (i : Invocation) (client : ComponentId) :
    Operation (Cap .thread × ThreadId) := do
  authorize image i.caller client
  let (_, record) ← createThread client i.caller
  pure (threadAnswer record)

/-- Create a thread in the caller, held by the caller. -/
def createThreadThunk (i : Invocation) : Operation (Cap .thread × ThreadId) := do
  let caller ← acting i
  let (_, record) ← createThread caller caller
  pure (threadAnswer record)

/-- Create a virtual processor in a virtual machine of the caller. -/
def createVcpu (i : Invocation) (vm : ComponentId) : Operation (Cap .thread × ThreadId) := do
  let machine ← knownComponent vm
  match machine.manager? with
  | none => Step.refuse (.invalidArgument "not a virtual machine")
  | some manager =>
    if manager ≠ i.caller then deny i.caller vm
    else
      let (_, record) ← createThread vm i.caller
      pure (threadAnswer record)

/-- Create a receive endpoint in the calling scheduler and a send endpoint to
it. -/
def createEndpointPair (i : Invocation) : Operation ReceiveEndpoint := do
  let caller ← acting i
  let created ← createReceiveEndpoint caller i.core
  match ← (createSendEndpoint caller created.rcv).attempt with
  | .ok (_, asnd) => pure ⟨created.aliases.rcv, asnd, created.aliases.thread, created.tid⟩
  | .error failure =>
    revokeReceiveEndpoint created
    Step.refuse failure

/-- Create a virtual machine managed by the caller. -/
def createVmComponent (i : Invocation) : Operation ComponentId := do
  createVm (← acting i)

/-! ### Memory -/

/-- The physical address behind an address of the caller. -/
def translateAddress (i : Invocation) (vaddr : Vaddr) : Operation Paddr := do
  translate (← acting i) vaddr

/-- Allocate consecutive pages in the caller. -/
def allocateHeapPages (i : Invocation) (count : Nat) (align : Option UInt64) :
    Operation Vaddr := do
  let caller ← acting i
  let align ← alignment align
  let (_, vaddr) ← allocatePages (some caller) count align
  pure vaddr

/-- Map device memory into the caller. -/
def mapPhysicalRegion (i : Invocation) (paddr : Paddr) (size : UInt64) : Operation Vaddr := do
  mapPhysical (← acting i) paddr size

/-- Allocate pages in the caller as a span. -/
def allocateSharedPages (i : Invocation) (count : Nat) (align : Option UInt64) :
    Operation (Nat × Vaddr) := do
  let caller ← acting i
  let align ← alignment align
  allocateShared caller count align

/-- Map a span into the caller. -/
def mapSharedSpan (i : Invocation) (span : Nat) (align : Option UInt64) :
    Operation (Nat × Vaddr) := do
  let caller ← acting i
  let align ← alignment align
  mapSpan span caller align

/-- Map a span into a virtual machine of the caller. -/
def mapSharedSpanInVm (i : Invocation) (vm : ComponentId) (span : Nat) (align : Option UInt64) :
    Operation (Nat × Vaddr) := do
  let machine ← knownComponent vm
  if machine.manager? ≠ some i.caller then deny i.caller vm
  else
    let align ← alignment align
    mapSpan span vm align

/-- Carve pages off the contiguous region into the caller. -/
def allocateContiguousPages (i : Invocation) (count : Nat) : Operation Vaddr := do
  allocateContiguous (← acting i) count

/-- Carve pages off the contiguous region into the caller as a span. -/
def allocateContiguousSpan (i : Invocation) (count : Nat) (align : Option UInt64) :
    Operation (Nat × Vaddr) := do
  let caller ← acting i
  let align ← alignment align
  allocateContiguousShared caller count align

/-! ### Initialization -/

/-- The caller has done its part of the initialization on a core. -/
def initDone (i : Invocation) (parallel : Bool) (mode : MainMode) :
    Operation (Progress Outcome) := do
  signalDone (← acting i) i.core parallel mode

/-- The caller has exited. -/
def initExit (i : Invocation) (retval : Int32) : Operation Unit := do
  signalExit (← acting i) retval

end Service

end CapabilityBroker
