/-
CapabilityBroker/Object/Component.lean

Records of components.

A component's record stands in the slot of the component's own id.  The
kernel's side is made after the slot is reserved, and the record is
published only if that works.
-/
import CapabilityBroker.Broker
import CapabilityBroker.Kernel.Execution

namespace CapabilityBroker

/-! ### Looking components up -/

namespace Broker

/-- The handle of a component's record. -/
def componentHandle? (b : Broker) (id : ComponentId) : Option (Handle ComponentRecord) :=
  b.components.handleAt? id.number.toNat

/-- The record of a component. -/
def component? (b : Broker) (id : ComponentId) : Option ComponentRecord :=
  b.components.at? id.number.toNat

def hasComponent (b : Broker) (id : ComponentId) : Bool := (b.component? id).isSome

end Broker

/-- The record of a component that must have one. -/
def knownComponent (id : ComponentId) : Operation ComponentRecord := do
  Step.require (.unknownComponent id) ((← get).component? id)

/-! ### Adding components -/

/-- Record a component under its own id; `create` makes the kernel's side. -/
def registerComponent (id : ComponentId) (name : String) (kind : ComponentKind)
    (resources : Option Kernel.Resources) (create : Step Kernel Kernel.Refusal Unit) :
    Operation Unit := do
  let index ← Step.require (.unknownComponent id) (word32? id.number.toNat)
  let slot ← componentPool.ask (Pool.allocateAt index.toNat)
  componentPool.holding slot do
    askKernel create
    let _ ← componentPool.ask (Pool.activate slot { id, name, kind, resources, schedRcvs := ∅ })
    note (.componentCreated id name)

/-- The name of every virtual machine. -/
def vmName : String := "vmlinux"

/-- Create a virtual machine under the least free id. -/
def createVm (manager : ComponentId) : Operation ComponentId := do
  let slot ← componentPool.ask Pool.allocate
  componentPool.holding slot do
    let id : ComponentId := ⟨← Step.exact (word64? slot.index)⟩
    askKernel (Kernel.createVmComponent id vmName)
    let _ ← componentPool.ask (Pool.activate slot
      { id, name := vmName, kind := .virtualMachine manager, resources := none, schedRcvs := ∅ })
    note (.vmCreated id manager)
    log .debug ("capmgr: created VM " ++ id.text ++ " managed by " ++ manager.text)
    pure id

end CapabilityBroker
