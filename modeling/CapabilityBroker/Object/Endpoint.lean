/-
CapabilityBroker/Object/Endpoint.lean

Receive and send endpoints.

An endpoint is made, then its capabilities are installed in the component
that asked for it.  If that fails, the endpoint is taken back before the
failure is reported, so a failure leaves nothing behind.
-/
import CapabilityBroker.Object.Thread

namespace CapabilityBroker

/-! ### Scheduling contexts -/

/-- Create the scheduling context of a component on a core.  Its endpoint
becomes the component's scheduling endpoint there. -/
def createSchedExecution (component : ComponentId) (core : CoreId) :
    Operation (Handle RcvRecord) := do
  let holder ← Step.require (.unknownComponent component) ((← get).componentHandle? component)
  let slot ← rcvPool.ask Pool.allocate
  rcvPool.holding slot do
    let rcv ← askKernel (Kernel.createSchedExecution component)
    let handle ← rcvPool.ask (Pool.activate slot ⟨rcv, component, .null⟩)
    modify fun b =>
      { b with components := b.components.modify holder fun c =>
          { c with schedRcvs := c.schedRcvs.insert core handle } }
    note (.schedExecutionCreated component core)
    pure handle

/-- The scheduling endpoint of a component on a core. -/
def schedulingEndpoint (component : ComponentId) (core : CoreId) : Operation RcvRecord := do
  let record ← knownComponent component
  let handle ← Step.require (.notScheduler record.id core) (record.schedRcv? core)
  Step.require (.notScheduler component core) ((← get).rcvs.get? handle)

/-! ### Receive endpoints -/

/-- Install the capabilities of an endpoint, or take the endpoint back. -/
def aliasOrRevokeRcv (rcv : Kernel.Rcv) (into : ComponentId) :
    Operation Kernel.RcvAliases := do
  match ← askKernel (Step.attempt (Kernel.aliasRcv rcv into)) with
  | .ok aliases => pure aliases
  | .error refusal =>
    askKernel (Kernel.revokeRcv rcv)
    Step.refuse (.kernel refusal)

/-- Create a receive endpoint in a component that is a scheduler on the
core. -/
def createReceiveEndpoint (component : ComponentId) (core : CoreId) : Operation RcvCreated := do
  let _ ← schedulingEndpoint component core
  let rcvSlot ← rcvPool.ask Pool.allocate
  rcvPool.holding rcvSlot do
    let threadSlot ← threadPool.ask Pool.allocate
    threadPool.holding threadSlot do
      let rcv ← askKernel (Kernel.createRcv component)
      let aliases ← aliasOrRevokeRcv rcv component
      let thread ← threadPool.ask
        (Pool.activate threadSlot ⟨rcv.thread, component, component, .aliased aliases.thread⟩)
      let handle ← rcvPool.ask (Pool.activate rcvSlot ⟨rcv, component, aliases.rcv⟩)
      note (.rcvCreated component rcv.thread.tid)
      pure ⟨handle, thread, aliases, rcv.thread.tid⟩

/-- The record of a receive endpoint that must be there. -/
def knownRcv (handle : Handle RcvRecord) : Operation RcvRecord := do
  Step.require (.invalidArgument "unknown receive endpoint") ((← get).rcvs.get? handle)

/-- Tear a receive endpoint down: first the owner's capabilities, then the
kernel's objects, then the records. -/
def revokeReceiveEndpoint (created : RcvCreated) : Operation Unit := do
  let rcv ← knownRcv created.rcv
  askKernel (Kernel.revokeRcvAlias created.aliases rcv.owner)
  askKernel (Kernel.revokeRcv rcv.kernel)
  let _ ← rcvPool.ask (Pool.free created.rcv)
  let _ ← threadPool.ask (Pool.free created.thread)
  note (.rcvRevoked rcv.owner created.tid)

/-! ### Send endpoints -/

/-- Install the capability of a send endpoint, or take the endpoint back. -/
def aliasOrRevokeAsnd (asnd : Kernel.Asnd) (into : ComponentId) :
    Operation (Cap .asnd) := do
  match ← askKernel (Step.attempt (Kernel.aliasAsnd into)) with
  | .ok cap => pure cap
  | .error refusal =>
    askKernel (Kernel.revokeAsnd asnd)
    Step.refuse (.kernel refusal)

/-- Create a send endpoint to a receive endpoint, held by a component. -/
def createSendEndpoint (component : ComponentId) (target : Handle RcvRecord) :
    Operation (Handle AsndRecord × Cap .asnd) := do
  let rcv ← knownRcv target
  let slot ← asndPool.ask Pool.allocate
  asndPool.holding slot do
    let asnd ← askKernel (Kernel.createAsnd rcv.kernel)
    let cap ← aliasOrRevokeAsnd asnd component
    let handle ← asndPool.ask (Pool.activate slot ⟨asnd, component, cap⟩)
    note (.asndCreated component)
    pure (handle, cap)

end CapabilityBroker
