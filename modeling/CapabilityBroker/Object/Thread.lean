/-
CapabilityBroker/Object/Thread.lean

Threads on request.

The kernel cannot take a thread back.  A thread that its scheduler's table
does not take is therefore kept on record as held by nobody, and the
requester learns of it by a failure of its own.
-/
import CapabilityBroker.Object.Component

namespace CapabilityBroker

/-- The record of the thread with a kernel id. -/
def Broker.threadByTid? (b : Broker) (tid : ThreadId) :
    Option (Handle ThreadRecord × ThreadRecord) := do
  let handle ← b.threads.find? fun t => t.tid == tid
  let thread ← b.threads.get? handle
  pure (handle, thread)

/-- Create a thread in `client`, held by `sched`. -/
def createThread (client sched : ComponentId) : Operation (Handle ThreadRecord × ThreadRecord) := do
  let _ ← knownComponent client
  let _ ← knownComponent sched
  let slot ← threadPool.ask Pool.allocate
  threadPool.holding slot do
    let thread ← askKernel (Kernel.createThread client)
    match ← askKernel (Step.attempt (Kernel.aliasThread thread sched)) with
    | .ok cap =>
      let record : ThreadRecord := ⟨thread, client, sched, .aliased cap⟩
      let handle ← threadPool.ask (Pool.activate slot record)
      note (.threadCreated thread.tid client sched)
      pure (handle, record)
    | .error refusal =>
      let _ ← threadPool.ask (Pool.activate slot ⟨thread, client, sched, .failed⟩)
      log .warn ("capmgr: thread " ++ thread.tid.text ++ " in " ++ client.text
        ++ " could not be aliased into " ++ sched.text ++ ": " ++ refusal.message)
      note (.threadAliasLeaked thread.tid client sched)
      Step.refuse (.threadAliasFailed thread.tid)

/-- Create the initial thread of a component on a core. -/
def createInitThread (component : ComponentId) (core : CoreId) :
    Operation (Handle ThreadRecord) := do
  let _ ← knownComponent component
  let slot ← threadPool.ask Pool.allocate
  threadPool.holding slot do
    let thread ← askKernel (Kernel.createInitThread component)
    let handle ← threadPool.ask (Pool.activate slot ⟨thread, component, .none, .unaliased⟩)
    note (.initThreadCreated component core thread.tid)
    pure handle

end CapabilityBroker
