/-
CapabilityBroker/Capability.lean

Typed capability slots.

A capability names a kernel object from inside one component's capability
table.  It carries the kind of the object in its type, so a thread
capability cannot stand where an endpoint is wanted.  Slot 0 is the null
capability.
-/
import CapabilityBroker.Word

namespace CapabilityBroker

/-- The kinds of kernel object a capability can name. -/
inductive ObjectKind where
  | thread
  | rcv
  | asnd
  | tcap
  | comp
  | captbl
  | pgtbl
deriving DecidableEq

namespace ObjectKind

/-- The name of the kind in messages. -/
def text : ObjectKind → String
  | thread => "ThreadObj"
  | rcv => "RcvObj"
  | asnd => "AsndObj"
  | tcap => "TcapObj"
  | comp => "CompObj"
  | captbl => "CaptblObj"
  | pgtbl => "PgtblObj"

/-- Every kind of object. -/
def all : List ObjectKind := [thread, rcv, asnd, tcap, comp, captbl, pgtbl]

/-- The kind with a given name. -/
def ofText? (name : String) : Option ObjectKind := all.find? fun kind => kind.text == name

end ObjectKind

/-- A slot of some capability table that names an object of the kind. -/
structure Cap (kind : ObjectKind) where
  slot : UInt64
deriving DecidableEq

namespace Cap

variable {kind : ObjectKind}

/-- The null capability. -/
def null : Cap kind := ⟨0⟩

def isNull (cap : Cap kind) : Bool := cap.slot == 0

/-- The capability in messages. -/
def text (cap : Cap kind) : String :=
  "Cap<" ++ kind.text ++ ">(" ++ decimal cap.slot.toNat ++ ")"

end Cap

end CapabilityBroker
