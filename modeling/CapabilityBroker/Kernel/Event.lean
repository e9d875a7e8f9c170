/-
CapabilityBroker/Kernel/Event.lean

What the kernel did, for its trail.
-/
import CapabilityBroker.Kernel.Fault
import CapabilityBroker.Kernel.Object

namespace CapabilityBroker.Kernel

/-- Something the kernel did. -/
inductive Event where
  | componentCreated (id : ComponentId) (name : String)
  | threadCreated (tid : ThreadId) (owner : ComponentId)
  | threadAliased (tid : ThreadId) (into : ComponentId) (cap : UInt64)
  | rcvCreated (owner : ComponentId) (tid : ThreadId)
  | rcvAliased (into : ComponentId)
  | rcvAliasRevoked (source : ComponentId)
  | rcvRevoked (owner : ComponentId) (tid : ThreadId)
  | asndCreated (target : UInt64)
  | asndAliased (into : ComponentId) (cap : UInt64)
  | asndRevoked (target : UInt64)
  | framesReserved (first : Paddr) (count : Nat)
  | framesMapped (into : ComponentId) (vaddr : Vaddr) (count : Nat)
  | hwMapped (into : ComponentId) (paddr : Paddr) (size : UInt64)
  | ulkMapped (into : ComponentId)
  | faultInjected (fault : Fault)
deriving DecidableEq

namespace Event

/-- The name of the event. -/
def name : Event → String
  | componentCreated .. => "ComponentCreated"
  | threadCreated .. => "ThreadCreated"
  | threadAliased .. => "ThreadAliased"
  | rcvCreated .. => "RcvCreated"
  | rcvAliased _ => "RcvAliased"
  | rcvAliasRevoked _ => "RcvAliasRevoked"
  | rcvRevoked .. => "RcvRevoked"
  | asndCreated _ => "AsndCreated"
  | asndAliased .. => "AsndAliased"
  | asndRevoked _ => "AsndRevoked"
  | framesReserved .. => "FramesReserved"
  | framesMapped .. => "FramesMapped"
  | hwMapped .. => "HwMapped"
  | ulkMapped _ => "UlkMapped"
  | faultInjected _ => "FaultInjected"

/-- What the event says. -/
def fields : Event → List (String × Json)
  | componentCreated id name => [("id", encode id), ("name", encode name)]
  | threadCreated tid owner => [("tid", encode tid), ("owner", encode owner)]
  | threadAliased tid into cap =>
    [("tid", encode tid), ("into", encode into), ("cap", encode cap)]
  | rcvCreated owner tid => [("owner", encode owner), ("tid", encode tid)]
  | rcvAliased into => [("into", encode into)]
  | rcvAliasRevoked source => [("from", encode source)]
  | rcvRevoked owner tid => [("owner", encode owner), ("tid", encode tid)]
  | asndCreated target => [("target", encode target)]
  | asndAliased into cap => [("into", encode into), ("cap", encode cap)]
  | asndRevoked target => [("target", encode target)]
  | framesReserved first count => [("first", encode first), ("count", Json.ofNat count)]
  | framesMapped into vaddr count =>
    [("into", encode into), ("vaddr", encode vaddr), ("count", Json.ofNat count)]
  | hwMapped into paddr size =>
    [("into", encode into), ("paddr", encode paddr), ("size", encode size)]
  | ulkMapped into => [("into", encode into)]
  | faultInjected fault => [("fault", encode fault.text)]

/-- The component that the event is about, if it is about one. -/
def component? : Event → Option ComponentId
  | componentCreated id _ => some id
  | threadCreated _ owner => some owner
  | threadAliased _ into _ => some into
  | rcvCreated owner _ => some owner
  | rcvAliased into => some into
  | rcvAliasRevoked source => some source
  | rcvRevoked owner _ => some owner
  | asndAliased into _ => some into
  | framesMapped into _ _ => some into
  | hwMapped into _ _ => some into
  | ulkMapped into => some into
  | asndCreated _ => none
  | asndRevoked _ => none
  | framesReserved .. => none
  | faultInjected _ => none

end Event

end CapabilityBroker.Kernel
