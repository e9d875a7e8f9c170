/-
CapabilityBroker/Kernel/Execution.lean

Kernel primitives for components, threads and endpoints.

New objects land in the broker's own capability table and are then aliased
elsewhere.  A primitive that needs several slots takes them one by one; if
the table fills up half way, the slots taken so far stay taken.
-/
import CapabilityBroker.Kernel.State

namespace CapabilityBroker.Kernel

/-! ### Components -/

/-- What a component's resources say, unless they say zero. -/
def frontiersFrom (layout : Layout) (resources : Option Resources) : Vaddr × UInt64 :=
  match resources with
  | none => (layout.heapBase, layout.captblBase)
  | some r =>
    (if r.heapFrontier.isNull then layout.heapBase else r.heapFrontier,
     if r.captblFrontier = 0 then layout.captblBase else r.captblFrontier)

/-- The refusal of an id that is taken. -/
def alreadyExists (id : ComponentId) : Refusal := .rejected (id.text ++ " already exists")

/-- Register a component.  The kernel has a component for the broker from the
start; registering that without resources only names it. -/
def createComponent (id : ComponentId) (name : String) (resources : Option Resources) :
    Step Kernel Refusal Unit := do
  let k ← get
  match k.space? id, resources with
  | some space, none => setSpace id { space with name := name }
  | some _, some _ => Step.refuse (alreadyExists id)
  | none, resources =>
    let (heap, captbl) := frontiersFrom k.layout resources
    let space ← Step.exact (Space.create? k.layout name heap captbl)
    setSpace id space
  record (.componentCreated id name)

/-- Create an empty component for a virtual machine. -/
def createVmComponent (id : ComponentId) (name : String) : Step Kernel Refusal Unit := do
  let k ← get
  if k.hasComponent id then Step.refuse (alreadyExists id)
  let space ← Step.exact (Space.create? k.layout name k.layout.heapBase k.layout.captblBase)
  setSpace id { space with isVm := true }
  record (.componentCreated id name)

/-! ### Threads -/

/-- A thread in a component, known to the broker only. -/
def newThread (owner : ComponentId) : Step Kernel Refusal Thread := do
  let _ ← knownSpace owner
  let slot ← allocateSlot (← get).selfId
  let k ← get
  let tid : ThreadId := ⟨k.nextTid⟩
  let nextTid ← Step.exact (word64? (k.nextTid.toNat + 1))
  set { k with nextTid := nextTid, threads := k.threads.insert tid owner }
  record (.threadCreated tid owner)
  pure ⟨⟨slot⟩, tid, owner⟩

/-- Create a thread that will execute in `owner`. -/
def createThread (owner : ComponentId) : Step Kernel Refusal Thread := do
  failOn .failThreadCreate "thread creation failed"
  newThread owner

/-- Install a capability to a thread in a component's table. -/
def aliasThread (thread : Thread) (into : ComponentId) : Step Kernel Refusal (Cap .thread) := do
  failOn .failThreadAlias "thread alias failed"
  if ((← get).threadOwner? thread.tid).isNone then
    Step.refuse (.invalidCapability thread.cap.slot)
  let slot ← allocateSlot into
  record (.threadAliased thread.tid into slot)
  pure ⟨slot⟩

/-- Create the initial thread of a plain component. -/
def createInitThread (component : ComponentId) : Step Kernel Refusal Thread :=
  newThread component

/-! ### Receive endpoints -/

/-- A receive endpoint with its thread and its budget. -/
def newRcv (owner : ComponentId) : Step Kernel Refusal Rcv := do
  let thread ← newThread owner
  let selfId := (← get).selfId
  let rcv ← allocateSlot selfId
  let tcap ← allocateSlot selfId
  record (.rcvCreated owner thread.tid)
  pure ⟨⟨rcv⟩, thread, ⟨tcap⟩, owner⟩

/-- Create a receive endpoint in `owner`. -/
def createRcv (owner : ComponentId) : Step Kernel Refusal Rcv := do
  failOn .failRcvCreate "rcv creation failed"
  newRcv owner

/-- Create the scheduling context of a scheduler component. -/
def createSchedExecution (component : ComponentId) : Step Kernel Refusal Rcv :=
  newRcv component

/-- Install the capabilities of an endpoint in a component's table. -/
def aliasRcv (rcv : Rcv) (into : ComponentId) : Step Kernel Refusal RcvAliases := do
  failOn .failRcvAlias "rcv alias failed"
  if ((← get).threadOwner? rcv.thread.tid).isNone then
    Step.refuse (.invalidCapability rcv.rcv.slot)
  let thread ← allocateSlot into
  let endpoint ← allocateSlot into
  let tcap ← allocateSlot into
  record (.rcvAliased into)
  pure ⟨⟨thread⟩, ⟨endpoint⟩, ⟨tcap⟩⟩

/-- Remove the capabilities that an alias installed. -/
def revokeRcvAlias (aliases : RcvAliases) (owner : ComponentId) : Step Kernel Refusal Unit := do
  revokeSlots owner [aliases.thread.slot, aliases.rcv.slot, aliases.tcap.slot]
  record (.rcvAliasRevoked owner)

/-- Destroy an endpoint with its thread and its budget. -/
def revokeRcv (rcv : Rcv) : Step Kernel Refusal Unit := do
  let k ← get
  if (k.threadOwner? rcv.thread.tid).isNone then
    Step.refuse (.invalidCapability rcv.rcv.slot)
  revokeSlots k.selfId [rcv.thread.cap.slot, rcv.rcv.slot, rcv.tcap.slot]
  modify fun k => { k with threads := k.threads.erase rcv.thread.tid }
  record (.rcvRevoked rcv.owner rcv.thread.tid)

/-! ### Send endpoints -/

/-- Create a send endpoint to a receive endpoint. -/
def createAsnd (rcv : Rcv) : Step Kernel Refusal Asnd := do
  let slot ← allocateSlot (← get).selfId
  record (.asndCreated rcv.rcv.slot)
  pure ⟨⟨slot⟩, rcv.rcv⟩

/-- Install a capability to a send endpoint in a component's table. -/
def aliasAsnd (into : ComponentId) : Step Kernel Refusal (Cap .asnd) := do
  failOn .failAsndAlias "asnd alias failed"
  let slot ← allocateSlot into
  record (.asndAliased into slot)
  pure ⟨slot⟩

/-- Destroy a send endpoint. -/
def revokeAsnd (asnd : Asnd) : Step Kernel Refusal Unit := do
  revokeSlots (← get).selfId [asnd.cap.slot]
  record (.asndRevoked asnd.target.slot)

end CapabilityBroker.Kernel
