/-
CapabilityBroker/Manifest/Schedulers.lean

Who schedules whom, as one table.

A manifest assigns schedulers in two sections.  The direct assignment wins,
the hierarchical one fills in, and id 0 means "none" in both.  The table is
built once, from the ids of both sections, and answers every question of
authority afterwards.
-/
import CapabilityBroker.Manifest.Basic

namespace CapabilityBroker

/-- The scheduler that a manifest assigns to a component, id 0 if none. -/
def Manifest.assignedScheduler (m : Manifest) (id : ComponentId) : ComponentId :=
  let direct := m.directScheduler id
  if direct.isSome then direct else m.hierarchicalScheduler id

/-- Component to scheduler. -/
structure Schedulers where
  owners : Std.ExtTreeMap ComponentId ComponentId

namespace Schedulers

/-- Enter the scheduler of one component, if it has one. -/
def enter (m : Manifest) (table : Std.ExtTreeMap ComponentId ComponentId) (id : ComponentId) :
    Std.ExtTreeMap ComponentId ComponentId :=
  let sched := m.assignedScheduler id
  if sched.isSome then table.insert id sched else table

/-- The table of a manifest. -/
def ofManifest (m : Manifest) : Schedulers :=
  let ids := (m.initHierarchy.keys ++ m.schedulerHierarchy.keys).map ComponentId.mk
  ⟨ids.foldl (enter m) ∅⟩

/-- The scheduler responsible for a component. -/
def of? (s : Schedulers) (id : ComponentId) : Option ComponentId := s.owners[id]?

/-- Whether `sched` is the scheduler of `client`. -/
def isSchedulerOf (s : Schedulers) (sched client : ComponentId) : Bool :=
  s.of? client == some sched

/-- The number of components with a scheduler. -/
def size (s : Schedulers) : Nat := s.owners.size

def isEmpty (s : Schedulers) : Bool := s.owners.isEmpty

end Schedulers

end CapabilityBroker
