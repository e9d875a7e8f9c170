/-
CapabilityBroker/Kernel/Fault.lean

Planned failures of kernel primitives.

A plan is a list of faults.  Each one fires once, on the first call that
asks for it, and is then gone from the list; the faults that were not asked
for keep their order.
-/

namespace CapabilityBroker.Kernel

/-- A way for a kernel primitive to fail. -/
inductive Fault where
  | failThreadCreate
  | failThreadAlias
  | failRcvCreate
  | failRcvAlias
  | failAsndAlias
  /-- A reservation of frames reports that memory has run out. -/
  | failFrameReserve
  /-- A mapping of several frames leaves a gap before its last page. -/
  | discontiguousAlias
deriving DecidableEq

namespace Fault

/-- The name of the fault. -/
def text : Fault → String
  | failThreadCreate => "FailThreadCreate"
  | failThreadAlias => "FailThreadAlias"
  | failRcvCreate => "FailRcvCreate"
  | failRcvAlias => "FailRcvAlias"
  | failAsndAlias => "FailAsndAlias"
  | failFrameReserve => "FailFrameReserve"
  | discontiguousAlias => "DiscontiguousAlias"

/-- Every fault. -/
def all : List Fault :=
  [failThreadCreate, failThreadAlias, failRcvCreate, failRcvAlias, failAsndAlias,
   failFrameReserve, discontiguousAlias]

/-- The fault with a given name. -/
def ofText? (name : String) : Option Fault := all.find? fun fault => fault.text == name

end Fault

/-- The faults still to fire, and how many have fired. -/
structure Faults where
  pending : List Fault
  fired : Nat
deriving DecidableEq

namespace Faults

/-- A plan of which nothing has fired. -/
def plan (faults : List Fault) : Faults := ⟨faults, 0⟩

/-- Ask for a fault: whether it fires, and the faults afterwards. -/
def take (s : Faults) (fault : Fault) : Bool × Faults :=
  if fault ∈ s.pending then (true, ⟨s.pending.erase fault, s.fired + 1⟩) else (false, s)

end Faults

end CapabilityBroker.Kernel
