/-
CapabilityBroker/Barrier/Registry.lean

The barriers at which the threads of a component gather.

A barrier is begun once.  The first signal that a thread is done fixes the
core that initialized the component, the number of threads to wait for and
the mode of its main.  The thread that completes the number opens the
barrier for good; threads that come later are torn down.
-/
import Std.Data.ExtTreeMap
import CapabilityBroker.Barrier.Phase
import CapabilityBroker.Identity

namespace CapabilityBroker

/-- The core id that stands for no core. -/
def CoreId.unassigned : CoreId := ⟨0xFFFFFFFFFFFFFFFF⟩

/-- The barrier of one component. -/
structure Barrier where
  phase : Phase
  /-- The core that initialized the component. -/
  latch : CoreId
  /-- The number of threads to wait for. -/
  expected : Nat
  /-- The number of threads that came. -/
  arrived : Nat
  mode : MainMode
deriving DecidableEq

/-- What a thread does after it has come to a barrier. -/
inductive Barrier.Arrival where
  /-- It waits for the others. -/
  | waits
  /-- It opens the barrier. -/
  | opens
  /-- It comes too late. -/
  | leaves
deriving DecidableEq

namespace Barrier

/-- A barrier for `cores` cores that was not begun. -/
def fresh (cores : Nat) : Barrier := ⟨.unregistered, .unassigned, max cores 1, 0, .none⟩

/-- The core that initialized the component, once it is known. -/
def initCore? (b : Barrier) : Option CoreId :=
  if b.latch = .unassigned then none else some b.latch

/-- The barrier after the first thread is done: it fixes how many to wait
for, which is itself only unless the others were asked to initialize too. -/
def latched (b : Barrier) (core : CoreId) (parallel : Bool) (mode : MainMode) : Barrier :=
  { b with
    phase := .parallelInit
    latch := core
    expected := if parallel then b.expected else 1
    mode := mode }

/-- One more thread comes: what it does, and the barrier afterwards. -/
def arrive (b : Barrier) : Arrival × Barrier :=
  let b := { b with arrived := b.arrived + 1 }
  if b.arrived > b.expected then (.leaves, b)
  else if b.arrived = b.expected then (.opens, { b with phase := .main })
  else (.waits, b)

end Barrier

/-- The barrier of each component that has one. -/
abbrev Barriers := Std.ExtTreeMap ComponentId Barrier

/-- Fresh barriers for components. -/
def Barriers.over (ids : List ComponentId) (cores : Nat) : Barriers :=
  ids.foldl (fun barriers id => barriers.insert id (.fresh cores)) ∅

end CapabilityBroker
