/-
CapabilityBroker/Memory/Contiguous.lean

The contiguous region.

Its frames are reserved once and mapped into the broker itself.  Pages are
carved off in order and never put back.
-/
import CapabilityBroker.Memory.Span

namespace CapabilityBroker

namespace Broker

/-- The number of pages carved off the region. -/
def contigUsed (b : Broker) : Nat := (b.contig.map ContigRegion.used).getD 0

/-- The size of the region in pages. -/
def contigCapacity (b : Broker) : Nat := (b.contig.map ContigRegion.capacity).getD 0

end Broker

/-- The first frame of a region of `count` pages, mapped into the broker. -/
def contigBase (selfId : ComponentId) (count : Nat) : Step Broker Defect Paddr := do
  if count = 0 then pure ⟨0⟩
  else
    let base ← kernelPart.run ((Kernel.reserveFrames count).explain .kernel)
    let _ ← mapVerified base count 4096 selfId
    pure base

/-- Set the region aside.  Only the first region counts. -/
def initContig (selfId : ComponentId) (count : Nat) : Step Broker Defect Unit := do
  let base ← contigBase selfId count
  modify fun b =>
    match b.contig with
    | none => { b with contig := some ⟨base, count, 0⟩ }
    | some _ => b
  log .info ("capmgr: reserved " ++ decimal count ++ " contiguous pages at " ++ base.text)

/-- Advance the region by `count` pages.  The answer is the first frame and
its place in the region. -/
def advanceContig (count : Nat) : Operation (Paddr × Nat) := do
  match (← get).contig with
  | none => Step.refuse (.contigExhausted count 0)
  | some region =>
    if region.used + count > region.capacity then
      Step.refuse (.contigExhausted count (region.capacity - region.used))
    else
      modify fun b => { b with contig := some { region with used := region.used + count } }
      let first ← Step.exact (region.base.addPages region.used)
      pure (first, region.used)

/-- Carve pages off the region into a component. -/
def carveContig (component : ComponentId) (count : Nat) (align : UInt64) :
    Operation (Handle Page × Vaddr) := do
  if count = 0 then Step.refuse noPages
  let run ← pagePool.ask (Pool.allocateRun count)
  pagePool.holdingAll run do
    let (first, offset) ← advanceContig count
    let vaddr ← (mapVerified first count align component).explain .fatal
    let head ← publishRun run first (some (component, vaddr))
    note (.contigAllocated component offset count)
    log .debug ("capmgr: " ++ decimal count ++ " contiguous pages at offset " ++ decimal offset
      ++ " for " ++ component.text)
    pure (head, vaddr)

/-- Carve pages off the region at the native alignment. -/
def allocateContiguous (component : ComponentId) (count : Nat) : Operation Vaddr :=
  Prod.snd <$> carveContig component count 4096

/-- Carve pages off the region and register them as a span. -/
def allocateContiguousShared (component : ComponentId) (count : Nat) (align : UInt64) :
    Operation (Nat × Vaddr) := do
  let slot ← spanPool.ask Pool.allocate
  spanPool.holding slot do
    let (head, vaddr) ← carveContig component count align
    let span ← activateSpan slot head count
    pure (span, vaddr)

end CapabilityBroker
