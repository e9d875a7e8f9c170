/-
CapabilityBroker/Kernel/Refusal.lean

Why a kernel primitive refuses.
-/
import CapabilityBroker.Identity

namespace CapabilityBroker.Kernel

/-- Why a kernel primitive refuses. -/
inductive Refusal where
  /-- No frames are left for the request. -/
  | outOfMemory
  /-- The component's capability table has no slot left. -/
  | capabilityTableFull (component : ComponentId)
  | unknownComponent (component : ComponentId)
  /-- The shared region is in the component's page table already. -/
  | alreadyMapped (component : ComponentId)
  /-- A slot does not name a live object of the kind wanted. -/
  | invalidCapability (slot : UInt64)
  | rejected (reason : String)
deriving DecidableEq

namespace Refusal

/-- The refusal in words. -/
def message : Refusal → String
  | outOfMemory => "Out of physical memory"
  | capabilityTableFull component => "Capability table full in " ++ component.text
  | unknownComponent component => "Unknown component: " ++ component.text
  | alreadyMapped component => "Region already mapped in " ++ component.text
  | invalidCapability slot => "Invalid capability: " ++ decimal slot.toNat
  | rejected reason => "Operation rejected: " ++ reason

/-- The code of the refusal. -/
def code : Refusal → String
  | outOfMemory => "OutOfMemory"
  | capabilityTableFull _ => "CapabilityTableFull"
  | unknownComponent _ => "UnknownComponent"
  | alreadyMapped _ => "AlreadyMapped"
  | invalidCapability _ => "InvalidCapability"
  | rejected _ => "Rejected"

end Refusal

end CapabilityBroker.Kernel
