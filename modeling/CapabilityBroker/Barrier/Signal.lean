/-
CapabilityBroker/Barrier/Signal.lean

Signals of the initialization protocol.

A barrier itself never blocks anyone: it says what the thread does, and the
scheduler parks, wakes and tears down.
-/
import CapabilityBroker.Barrier.Progress
import CapabilityBroker.Broker

namespace CapabilityBroker

/-- The barrier of a component that must have one. -/
def knownBarrier (id : ComponentId) : Operation Barrier := do
  Step.require (.initNotStarted id) (← get).barriers[id]?

/-- Replace the barrier of a component. -/
def setBarrier (id : ComponentId) (barrier : Barrier) : Operation Unit :=
  modify fun b => { b with barriers := b.barriers.insert id barrier }

/-- Begin a component's initialization, unless it was begun before.  The
answer is whether this call began it. -/
def beginInit (id : ComponentId) (core : CoreId) : Operation Bool := do
  let barrier ← knownBarrier id
  match barrier.phase with
  | .unregistered =>
    setBarrier id { barrier with phase := .initializing }
    note (.initTransition id .initializing)
    log .debug ("capmgr: scheduling initialization of " ++ id.text ++ " from " ++ core.text)
    drive (·.scheduleInit id core)
    pure true
  | _ => pure false

/-- Park a thread at the barrier of its component.  If the component was
released already, the thread goes on at once. -/
def parkAt {ε α : Type} (id : ComponentId) (core : CoreId) (answer : α) :
    Step Broker ε (Progress α) := do
  drive (·.park id core)
  if (← get).scheduler.isReleased id then pure (.finished answer)
  else pure (.parked id answer)

/-- Bring a thread to the barrier of its component. -/
def arriveAt (id : ComponentId) (core : CoreId) (barrier : Barrier) :
    Operation (Progress Outcome) := do
  let (arrival, barrier) := barrier.arrive
  setBarrier id barrier
  match arrival with
  | .leaves =>
    drive (·.exitThread id core)
    pure (.finished .exited)
  | .opens =>
    note (.initTransition id .main)
    log .info ("capmgr: " ++ id.text ++ " initialized on " ++ decimal barrier.expected
      ++ " core(s)")
    drive (·.release id)
    pure (.finished (.main barrier.mode))
  | .waits => parkAt id core (.main barrier.mode)

/-- A thread of a component has done its part of the initialization. -/
def signalDone (id : ComponentId) (core : CoreId) (parallel : Bool) (mode : MainMode) :
    Operation (Progress Outcome) := do
  let barrier ← knownBarrier id
  match barrier.phase with
  | .unregistered => Step.refuse (.initNotStarted id)
  | .initializing =>
    note (.initTransition id .parallelInit)
    arriveAt id core (barrier.latched core parallel mode)
  | .parallelInit => arriveAt id core barrier
  | .main =>
    drive (·.exitThread id core)
    pure (.finished .exited)

/-- A component has exited. -/
def signalExit (id : ComponentId) (retval : Int32) : Operation Unit := do
  let _ ← knownBarrier id
  drive (·.exitComponent id retval)
  note (.componentExited id retval)
  log .info ("capmgr: " ++ id.text ++ " exited with " ++ signedDecimal retval.toInt)

end CapabilityBroker
