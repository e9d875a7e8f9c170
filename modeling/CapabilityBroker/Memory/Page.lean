/-
CapabilityBroker/Memory/Page.lean

Pages: runs of frames with records, and where they are mapped.

A run takes its records and its frames in one piece each, so its frames are
consecutive.  Whether they also appear consecutively where they are mapped
is checked against the kernel's page tables afterwards; a gap there is a
defect.
-/
import CapabilityBroker.Broker
import CapabilityBroker.Kernel.Mapping

namespace CapabilityBroker

/-! ### Frames -/

/-- Check that `count` pages from the `i`-th page of a mapping on show the
frames they must show. -/
def verifyFrom (component : ComponentId) (vaddr : Vaddr) (first : Paddr) :
    (count i : Nat) → Step Kernel Defect Unit
  | 0, _ => pure ()
  | count + 1, i => do
    let page ← Step.exact (vaddr.addPages i)
    let expected ← Step.exact (first.addPages i)
    let found ← Kernel.translate component page
    if found = some expected then verifyFrom component vaddr first count (i + 1)
    else Step.refuse (.contiguityViolation component page expected found)

/-- Check that a mapping of `count` pages shows the frames from `first`
on. -/
def verifyContiguous (component : ComponentId) (vaddr : Vaddr) (first : Paddr) (count : Nat) :
    Step Kernel Defect Unit :=
  verifyFrom component vaddr first count 0

/-- Reserve consecutive frames. -/
def reserveFrames (count : Nat) : Operation Paddr :=
  kernelPart.run ((Kernel.reserveFrames count).explain fun
    | .outOfMemory => .outOfMemory
    | refusal => .kernel refusal)

/-- Map frames into a component, which must not fail. -/
def mapFrames (first : Paddr) (count : Nat) (align : UInt64) (into : ComponentId) :
    Step Broker Defect Vaddr := do
  kernelPart.run ((Kernel.aliasFrames first count align into).explain .kernel)

/-- Map frames into a component and check the mapping. -/
def mapVerified (first : Paddr) (count : Nat) (align : UInt64) (into : ComponentId) :
    Step Broker Defect Vaddr := do
  let vaddr ← mapFrames first count align into
  kernelPart.run (verifyContiguous into vaddr first count)
  pure vaddr

/-! ### Publishing runs -/

/-- The place of the `i`-th page of a mapping. -/
def placeOf? (mapped : Option (ComponentId × Vaddr)) (i : Nat) : Option (List Mapping) :=
  match mapped with
  | none => some []
  | some (component, vaddr) => (vaddr.addPages i).map fun place => [⟨component, place⟩]

/-- Publish pages with the frames from the `i`-th on. -/
def publishFrom (first : Paddr) (mapped : Option (ComponentId × Vaddr)) :
    List (Reservation Page) → Nat → Operation Unit
  | [], _ => pure ()
  | slot :: slots, i => do
    let mappings ← Step.exact (placeOf? mapped i)
    let frame ← Step.exact (first.addPages i)
    let _ ← pagePool.ask (Pool.activate slot ⟨frame, mappings⟩)
    publishFrom first mapped slots (i + 1)

/-- The failure of a request for no pages. -/
def noPages : Failure := .invalidArgument "zero pages requested"

/-- Publish a run of pages; the answer is the handle of its head. -/
def publishRun (run : List (Reservation Page)) (first : Paddr)
    (mapped : Option (ComponentId × Vaddr)) : Operation (Handle Page) := do
  match run with
  | [] => Step.refuse noPages
  | head :: _ =>
    publishFrom first mapped run 0
    note (.pagesAllocated (mapped.map Prod.fst) head.index run.length)
    pure head.handle

/-! ### Allocation -/

/-- Map a fresh run of frames into a component, if one is given. -/
def mapRun (component : Option ComponentId) (first : Paddr) (count : Nat) (align : UInt64) :
    Operation (Option (ComponentId × Vaddr)) := do
  match component with
  | none => pure none
  | some component =>
    let vaddr ← (mapVerified first count align component).explain .fatal
    pure (some (component, vaddr))

/-- Allocate consecutive pages, mapped into a component if one is given.
The answer is the head page and its address, which is null for pages that
are not mapped. -/
def allocatePages (component : Option ComponentId) (count : Nat) (align : UInt64) :
    Operation (Handle Page × Vaddr) := do
  if count = 0 then Step.refuse noPages
  let run ← pagePool.ask (Pool.allocateRun count)
  pagePool.holdingAll run do
    let first ← reserveFrames count
    let mapped ← mapRun component first count align
    let head ← publishRun run first mapped
    pure (head, (mapped.map Prod.snd).getD .null)

/-- Allocate one page. -/
def allocatePage (component : Option ComponentId) (align : UInt64) : Operation (Handle Page) :=
  Prod.fst <$> allocatePages component 1 align

/-- Map an existing page into one more component. -/
def aliasPage (page : Handle Page) (component : ComponentId) (align : UInt64) :
    Operation Vaddr := do
  let record ← Step.require (.invalidArgument "unknown page") ((← get).pages.get? page)
  if !record.hasRoom then Step.refuse (.mappingsExhausted page.index)
  let vaddr ← (mapFrames record.frame 1 align component).explain .fatal
  modify fun b => { b with pages := b.pages.modify page (·.addMapping ⟨component, vaddr⟩) }
  note (.pageAliased page.index component vaddr)
  pure vaddr

/-! ### Addresses -/

/-- The physical address behind a virtual one. -/
def translate (component : ComponentId) (vaddr : Vaddr) : Operation Paddr := do
  let found ← kernelPart.run (Kernel.translate component vaddr)
  Step.require (.notMapped component vaddr) found

/-- Map device memory into a component. -/
def mapPhysical (component : ComponentId) (paddr : Paddr) (size : UInt64) : Operation Vaddr := do
  if size = 0 then Step.refuse (.invalidArgument "empty physical region")
  askKernel (Kernel.mapDevice component paddr size)

end CapabilityBroker
