/-
CapabilityBroker/Json/Names.lean

The JSON forms of ids, addresses and capabilities.

Ids and addresses are bare numbers.  A capability is a record with the slot
as its `id`; its kind is not written.
-/
import CapabilityBroker.Address
import CapabilityBroker.Capability
import CapabilityBroker.Identity
import CapabilityBroker.Json.Wire

namespace CapabilityBroker

/-! ### Ids -/

instance : Wire ComponentId where
  encode id := encode id.number
  decode j := (decode j).map ComponentId.mk

instance : Wire CoreId where
  encode id := encode id.number
  decode j := (decode j).map CoreId.mk

instance : Wire ThreadId where
  encode id := encode id.number
  decode j := (decode j).map ThreadId.mk

instance : Wire EntryIndex where
  encode entry := encode entry.number
  decode j := (decode j).map EntryIndex.mk

/-! ### Addresses -/

instance : Wire Vaddr where
  encode v := encode v.word
  decode j := (decode j).map Vaddr.mk

instance : Wire Paddr where
  encode p := encode p.word
  decode j := (decode j).map Paddr.mk

/-! ### Capabilities -/

instance {kind : ObjectKind} : Wire (Cap kind) where
  encode cap := Json.record [("id", encode cap.slot)]
  decode j := do
    let fields ← Fields.ofJson? ["id"] j
    let slot ← fields.required "id"
    pure ⟨slot⟩

end CapabilityBroker
