/-
CapabilityBroker/Overview.lean

What can be seen of the broker from outside, in JSON form: its records, its
trails, and how much of everything is in use.
-/
import CapabilityBroker.Memory.Contiguous
import CapabilityBroker.Object.Endpoint

namespace CapabilityBroker

/-! ### Records -/

/-- Where a thread's capability ended up. -/
def ThreadAlias.toJson : ThreadAlias → Json
  | .aliased cap => Json.tagged "Aliased" (encode cap.slot)
  | .unaliased => Json.ofString "Unaliased"
  | .failed => Json.ofString "AliasFailed"

/-- The record of a thread. -/
def ThreadRecord.toJson (t : ThreadRecord) : Json :=
  Json.record
    [("kernel", encode t.kernel), ("tid", encode t.tid), ("client", encode t.client),
     ("sched", encode t.sched), ("alias", t.held.toJson)]

/-- The record of a receive endpoint. -/
def RcvRecord.toJson (r : RcvRecord) : Json :=
  Json.record
    [("kernel", encode r.kernel), ("owner", encode r.owner),
     ("aliased_cap", encode r.aliasedCap.slot)]

/-- The record of a send endpoint. -/
def AsndRecord.toJson (r : AsndRecord) : Json :=
  Json.record
    [("kernel", encode r.kernel), ("owner", encode r.owner),
     ("aliased_cap", encode r.aliasedCap.slot)]

/-- How the broker came to know a component. -/
def ComponentKind.toJson : ComponentKind → Json
  | .broker => Json.ofString "Capmgr"
  | .booted => Json.ofString "Booted"
  | .virtualMachine manager => Json.tagged "VirtualMachine" (encode manager)

/-- A core with the index and the generation of an endpoint there. -/
def schedRcvJson (e : CoreId × Handle RcvRecord) : Json :=
  .list [encode e.1, Json.ofNat e.2.index, encode e.2.generation]

/-- The fields of a component's record. -/
def ComponentRecord.fields (c : ComponentRecord) : List (String × Json) :=
  [("id", encode c.id), ("name", encode c.name), ("kind", c.kind.toJson),
   ("resources", encode c.resources), ("sched_rcvs", .list (c.schedRcvs.toList.map schedRcvJson)),
   ("vm_manager", encode c.manager?)]

/-- A place where a page is mapped. -/
def Mapping.toJson (m : Mapping) : Json := .list [encode m.component, encode m.vaddr]

/-- The record of a page. -/
def Page.toJson (p : Page) : Json :=
  Json.record [("frame", encode p.frame), ("mappings", .list (p.mappings.map Mapping.toJson))]

/-- The record of a span. -/
def Span.toJson (s : Span) : Json := .list [Json.ofNat s.pageOff, encode s.nPages]

/-! ### Trails -/

/-- An event of the broker. -/
def Event.toJson (e : Event) : Json := .list [encode e.name, Json.record e.fields]

/-- An event of the kernel. -/
def Kernel.Event.toJson (e : Kernel.Event) : Json := .list [encode e.name, Json.record e.fields]

/-- A request to the scheduler. -/
def Scheduler.Event.toJson (e : Scheduler.Event) : Json :=
  .list [encode e.name, encode e.component, e.detail]

/-! ### States -/

/-- How much of everything is in use. -/
def Broker.counts (b : Broker) : Json :=
  Json.record
    [("components", Json.ofNat b.components.active), ("threads", Json.ofNat b.threads.active),
     ("rcvs", Json.ofNat b.rcvs.active), ("asnds", Json.ofNat b.asnds.active),
     ("pages", Json.ofNat b.pages.active), ("spans", Json.ofNat b.spans.active),
     ("contig", .list [Json.ofNat b.contigUsed, Json.ofNat b.contigCapacity]),
     ("frames", Json.ofNat b.kernel.nextFrame), ("faults", Json.ofNat b.kernel.faults.fired),
     ("waiting", Json.ofNat b.scheduler.waiting)]

/-- What the kernel knows of a component. -/
def Kernel.describe (k : Kernel) (id : ComponentId) : Json :=
  let space := k.space? id
  Json.record
    [("has", .bool (k.hasComponent id)), ("name", encode (space.map Kernel.Space.name)),
     ("vm", .bool ((space.map Kernel.Space.isVm).getD false)),
     ("ulk", .bool ((space.map Kernel.Space.ulkMapped).getD false)),
     ("pages", Json.ofNat (k.mappedPages id)), ("self", encode k.selfId)]

end CapabilityBroker
