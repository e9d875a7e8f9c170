/-
CapabilityBroker/Object/Record.lean

The broker's records of components, threads and endpoints.

A record keeps what the kernel said about the object and which component
holds it where.
-/
import Std.Data.ExtTreeMap
import CapabilityBroker.Kernel.Object
import CapabilityBroker.Pool

namespace CapabilityBroker

/-! ### Threads and endpoints -/

/-- Where the capability to a thread ended up. -/
inductive ThreadAlias where
  /-- In the scheduler's table. -/
  | aliased (cap : Cap .thread)
  /-- With the broker only, as for a component's initial thread. -/
  | unaliased
  /-- Nowhere: the scheduler's table did not take it. -/
  | failed
deriving DecidableEq

/-- The record of a thread. -/
structure ThreadRecord where
  kernel : Kernel.Thread
  /-- The component the thread begins in. -/
  client : ComponentId
  /-- The scheduler that holds the alias. -/
  sched : ComponentId
  held : ThreadAlias
deriving DecidableEq

namespace ThreadRecord

/-- The kernel's id of the thread. -/
def tid (t : ThreadRecord) : ThreadId := t.kernel.tid

/-- The capability that the scheduler holds; null if it holds none. -/
def schedulerCap (t : ThreadRecord) : Cap .thread :=
  match t.held with
  | .aliased cap => cap
  | _ => .null

end ThreadRecord

/-- The record of a receive endpoint. -/
structure RcvRecord where
  kernel : Kernel.Rcv
  /-- The scheduler component that owns the endpoint. -/
  owner : ComponentId
  /-- The endpoint in the owner's table; null for scheduling contexts. -/
  aliasedCap : Cap .rcv
deriving DecidableEq

/-- The record of a send endpoint. -/
structure AsndRecord where
  kernel : Kernel.Asnd
  owner : ComponentId
  aliasedCap : Cap .asnd
deriving DecidableEq

/-- A receive endpoint just made: its records and the owner's
capabilities. -/
structure RcvCreated where
  rcv : Handle RcvRecord
  thread : Handle ThreadRecord
  aliases : Kernel.RcvAliases
  tid : ThreadId
deriving DecidableEq

/-! ### Components -/

/-- How the broker came to know a component. -/
inductive ComponentKind where
  /-- It is the broker itself. -/
  | broker
  /-- It ran before the broker. -/
  | booted
  /-- It was created on request of its manager. -/
  | virtualMachine (manager : ComponentId)
deriving DecidableEq

/-- The record of a component. -/
structure ComponentRecord where
  id : ComponentId
  name : String
  kind : ComponentKind
  resources : Option Kernel.Resources
  /-- The scheduling endpoint on each core where the component is a
  scheduler. -/
  schedRcvs : Std.ExtTreeMap CoreId (Handle RcvRecord)

namespace ComponentRecord

/-- The scheduling endpoint on a core. -/
def schedRcv? (c : ComponentRecord) (core : CoreId) : Option (Handle RcvRecord) :=
  c.schedRcvs[core]?

/-- The manager, if the component is a virtual machine. -/
def manager? (c : ComponentRecord) : Option ComponentId :=
  match c.kind with
  | .virtualMachine manager => some manager
  | _ => none

end ComponentRecord

end CapabilityBroker
