/-
CapabilityBroker/Event.lean

What the broker did, for its trail.
-/
import CapabilityBroker.Barrier.Phase
import CapabilityBroker.Json.Names

namespace CapabilityBroker

/-- Something the broker did or refused. -/
inductive Event where
  | componentCreated (id : ComponentId) (name : String)
  | vmCreated (id manager : ComponentId)
  | threadCreated (tid : ThreadId) (client sched : ComponentId)
  /-- The thread exists, but no scheduler holds it. -/
  | threadAliasLeaked (tid : ThreadId) (client sched : ComponentId)
  | initThreadCreated (component : ComponentId) (core : CoreId) (tid : ThreadId)
  | schedExecutionCreated (component : ComponentId) (core : CoreId)
  | rcvCreated (owner : ComponentId) (tid : ThreadId)
  /-- A published endpoint was torn down again. -/
  | rcvRevoked (owner : ComponentId) (tid : ThreadId)
  | asndCreated (owner : ComponentId)
  | pagesAllocated (component : Option ComponentId) (firstPage count : Nat)
  | pageAliased (page : Nat) (into : ComponentId) (vaddr : Vaddr)
  | spanCreated (span pages : Nat)
  | spanMapped (span : Nat) (into : ComponentId) (vaddr : Vaddr)
  | contigAllocated (component : ComponentId) (offset count : Nat)
  | permissionDenied (caller target : ComponentId)
  | initTransition (component : ComponentId) (phase : Phase)
  | componentExited (component : ComponentId) (retval : Int32)
deriving DecidableEq

namespace Event

/-- The name of the event. -/
def name : Event → String
  | componentCreated .. => "ComponentCreated"
  | vmCreated .. => "VmCreated"
  | threadCreated .. => "ThreadCreated"
  | threadAliasLeaked .. => "ThreadAliasLeaked"
  | initThreadCreated .. => "InitThreadCreated"
  | schedExecutionCreated .. => "SchedExecutionCreated"
  | rcvCreated .. => "RcvCreated"
  | rcvRevoked .. => "RcvRevoked"
  | asndCreated _ => "AsndCreated"
  | pagesAllocated .. => "PagesAllocated"
  | pageAliased .. => "PageAliased"
  | spanCreated .. => "SpanCreated"
  | spanMapped .. => "SpanMapped"
  | contigAllocated .. => "ContigAllocated"
  | permissionDenied .. => "PermissionDenied"
  | initTransition .. => "InitTransition"
  | componentExited .. => "ComponentExited"

/-- What the event says. -/
def fields : Event → List (String × Json)
  | componentCreated id name => [("id", encode id), ("name", encode name)]
  | vmCreated id manager => [("id", encode id), ("manager", encode manager)]
  | threadCreated tid client sched =>
    [("tid", encode tid), ("client", encode client), ("sched", encode sched)]
  | threadAliasLeaked tid client sched =>
    [("tid", encode tid), ("client", encode client), ("sched", encode sched)]
  | initThreadCreated component core tid =>
    [("component", encode component), ("core", encode core), ("tid", encode tid)]
  | schedExecutionCreated component core =>
    [("component", encode component), ("core", encode core)]
  | rcvCreated owner tid => [("owner", encode owner), ("tid", encode tid)]
  | rcvRevoked owner tid => [("owner", encode owner), ("tid", encode tid)]
  | asndCreated owner => [("owner", encode owner)]
  | pagesAllocated component firstPage count =>
    [("component", encode component), ("first_page", Json.ofNat firstPage),
     ("count", Json.ofNat count)]
  | pageAliased page into vaddr =>
    [("page", Json.ofNat page), ("into", encode into), ("vaddr", encode vaddr)]
  | spanCreated span pages => [("span", Json.ofNat span), ("pages", Json.ofNat pages)]
  | spanMapped span into vaddr =>
    [("span", Json.ofNat span), ("into", encode into), ("vaddr", encode vaddr)]
  | contigAllocated component offset count =>
    [("component", encode component), ("offset", Json.ofNat offset), ("count", Json.ofNat count)]
  | permissionDenied caller target => [("caller", encode caller), ("target", encode target)]
  | initTransition component phase => [("component", encode component), ("state", encode phase)]
  | componentExited component retval =>
    [("component", encode component), ("retval", encode retval)]

end Event

end CapabilityBroker
