/-
CapabilityBroker/Scheduler.lean

The scheduler, as far as the broker drives it.

The broker decides who waits and who goes on; the scheduler parks and wakes
threads.  It keeps the components that were released, the threads that are
parked, and a trail of all requests.  A component stays released: whoever
asks to be parked for it afterwards goes on at once.
-/
import Std.Data.ExtTreeSet
import CapabilityBroker.Json.Names
import CapabilityBroker.Trail

namespace CapabilityBroker

namespace Scheduler

/-- A request that the broker made. -/
inductive Event where
  | initScheduled (component : ComponentId) (core : CoreId)
  | blocked (component : ComponentId) (core : CoreId)
  | released (component : ComponentId)
  | threadExited (component : ComponentId) (core : CoreId)
  | componentExited (component : ComponentId) (retval : Int32)
deriving DecidableEq

namespace Event

/-- The name of the event. -/
def name : Event → String
  | initScheduled .. => "InitScheduled"
  | blocked .. => "Blocked"
  | released _ => "Released"
  | threadExited .. => "ThreadExited"
  | componentExited .. => "ComponentExited"

/-- The component that the event is about. -/
def component : Event → ComponentId
  | initScheduled component _ => component
  | blocked component _ => component
  | released component => component
  | threadExited component _ => component
  | componentExited component _ => component

/-- What the event says besides: the core, or the value returned. -/
def detail : Event → Json
  | initScheduled _ core => encode core
  | blocked _ core => encode core
  | released _ => .null
  | threadExited _ core => encode core
  | componentExited _ retval => encode retval

end Event

end Scheduler

/-- The state of the scheduler. -/
structure Scheduler where
  trail : Trail Scheduler.Event
  released : Std.ExtTreeSet ComponentId
  /-- The components of the threads that are parked. -/
  parked : List ComponentId

namespace Scheduler

/-- A scheduler that was asked for nothing yet. -/
def empty : Scheduler := ⟨.empty, ∅, []⟩

/-- Whether a component was released from its barrier. -/
def isReleased (s : Scheduler) (id : ComponentId) : Bool := s.released.contains id

/-- The number of parked threads. -/
def waiting (s : Scheduler) : Nat := s.parked.length

/-- Add an event to the trail. -/
def record (s : Scheduler) (event : Event) : Scheduler := { s with trail := s.trail.record event }

/-- Run the serial initialization of a component. -/
def scheduleInit (s : Scheduler) (id : ComponentId) (core : CoreId) : Scheduler :=
  s.record (.initScheduled id core)

/-- Park a thread of a component until the component is released. -/
def park (s : Scheduler) (id : ComponentId) (core : CoreId) : Scheduler :=
  let s := s.record (.blocked id core)
  if s.isReleased id then s else { s with parked := s.parked ++ [id] }

/-- Wake every parked thread of a component. -/
def release (s : Scheduler) (id : ComponentId) : Scheduler :=
  { s.record (.released id) with
    released := s.released.insert id
    parked := s.parked.filter (· ≠ id) }

/-- Tear down a thread of a component. -/
def exitThread (s : Scheduler) (id : ComponentId) (core : CoreId) : Scheduler :=
  s.record (.threadExited id core)

/-- Note the value a component exited with. -/
def exitComponent (s : Scheduler) (id : ComponentId) (retval : Int32) : Scheduler :=
  s.record (.componentExited id retval)

end Scheduler

end CapabilityBroker
