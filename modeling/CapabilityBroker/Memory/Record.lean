/-
CapabilityBroker/Memory/Record.lean

The broker's records of pages, spans and the contiguous region.

A page is one frame with the places where it is mapped.  A span is a run of
pages, consecutive both as records and in physical memory, that other
components can map by its id.  The contiguous region is a run of frames set
aside at the start and carved from its lower end upwards.
-/
import CapabilityBroker.Address
import CapabilityBroker.Identity

namespace CapabilityBroker

/-- A place where a page is mapped. -/
structure Mapping where
  component : ComponentId
  vaddr : Vaddr
deriving DecidableEq

/-- The record of a page. -/
structure Page where
  frame : Paddr
  /-- The places where it is mapped, oldest first. -/
  mappings : List Mapping
deriving DecidableEq

namespace Page

/-- The number of places where a page can be mapped. -/
def mappingsMax : Nat := 5

/-- Whether the page can be mapped once more. -/
def hasRoom (p : Page) : Bool := p.mappings.length < mappingsMax

/-- Note one more place where the page is mapped. -/
def addMapping (p : Page) (m : Mapping) : Page := { p with mappings := p.mappings ++ [m] }

end Page

/-- The record of a span. -/
structure Span where
  /-- The index of the first page. -/
  pageOff : Nat
  nPages : UInt32
deriving DecidableEq

/-- The contiguous region. -/
structure ContigRegion where
  base : Paddr
  /-- Its size in pages. -/
  capacity : Nat
  /-- The number of pages carved off. -/
  used : Nat
deriving DecidableEq

end CapabilityBroker
