/-
CapabilityBroker/Memory/Span.lean

Spans: runs of pages that components share.

A span is mapped as a whole.  Every page must have room for one more mapping
before anything is mapped, and the frames must be consecutive.
-/
import CapabilityBroker.Memory.Page

namespace CapabilityBroker

/-! ### Making spans -/

/-- Publish a span of pages from `head` on. -/
def activateSpan (slot : Reservation Span) (head : Handle Page) (count : Nat) :
    Operation Nat := do
  match word32? count with
  | none => Step.refuse (.invalidArgument "bad span length")
  | some nPages =>
    if nPages = 0 then Step.refuse (.invalidArgument "bad span length")
    let span ← spanPool.ask (Pool.activate slot ⟨head.index, nPages⟩)
    note (.spanCreated span.index count)
    pure span.index

/-- Register pages from `head` on as a span. -/
def createSpan (head : Handle Page) (count : Nat) : Operation Nat := do
  let slot ← spanPool.ask Pool.allocate
  spanPool.holding slot (activateSpan slot head count)

/-- Allocate pages in a component and register them as a span. -/
def allocateShared (component : ComponentId) (count : Nat) (align : UInt64) :
    Operation (Nat × Vaddr) := do
  let slot ← spanPool.ask Pool.allocate
  spanPool.holding slot do
    let (head, vaddr) ← allocatePages (some component) count align
    let span ← activateSpan slot head count
    pure (span, vaddr)

/-- Allocate pages, mapped nowhere yet, as the span with a given id. -/
def allocateSharedAt (id : Nat) (count : Nat) (align : UInt64) : Operation Nat := do
  let slot ← spanPool.ask (Pool.allocateAt id)
  spanPool.holding slot do
    let (head, _) ← allocatePages none count align
    activateSpan slot head count

/-! ### Mapping spans -/

/-- The span with an id. -/
def knownSpan (id : Nat) : Operation Span := do
  Step.require (.unknownSpan id) ((← get).spans.at? id)

/-- The handles and records of `count` pages from an index on, if all of
them are there. -/
def pagesFrom? (pool : Pool Page) : (count index : Nat) → Option (List (Handle Page × Page))
  | 0, _ => some []
  | count + 1, index => do
    let handle ← pool.handleAt? index
    let page ← pool.at? index
    let rest ← pagesFrom? pool count (index + 1)
    pure ((handle, page) :: rest)

/-- Check that the pages from the `i`-th on have the frames they must
have. -/
def checkFrames (span : Nat) (pageOff : Nat) (first : Paddr) :
    List (Handle Page × Page) → Nat → Operation Unit
  | [], _ => pure ()
  | (_, page) :: pages, i => do
    let expected ← Step.exact (first.addPages i)
    if page.frame = expected then checkFrames span pageOff first pages (i + 1)
    else Step.refuse (.fatal (.spanNotContiguous span (pageOff + i)))

/-- Note the mapping of a page of a span, `i` pages behind its head. -/
def placePage (component : ComponentId) (vaddr : Vaddr) (page : Handle Page) (i : Nat) :
    Operation Unit := do
  let place ← Step.exact (vaddr.addPages i)
  modify fun b => { b with pages := b.pages.modify page (·.addMapping ⟨component, place⟩) }

/-- Note the mapping of every page of a span. -/
def placePages (component : ComponentId) (vaddr : Vaddr) :
    List (Handle Page × Page) → Nat → Operation Unit
  | [], _ => pure ()
  | (handle, _) :: pages, i => do
    placePage component vaddr handle i
    placePages component vaddr pages (i + 1)

/-- Map every page of a span into a component, the first at an aligned
address and the others behind it.  The answer is the number of pages and the
first address. -/
def mapSpan (id : Nat) (component : ComponentId) (align : UInt64) :
    Operation (Nat × Vaddr) := do
  let span ← knownSpan id
  let _ ← Step.exact (word32? (span.pageOff + span.nPages.toNat))
  let pages ← Step.require (.unknownSpan id)
    (pagesFrom? (← get).pages span.nPages.toNat span.pageOff)
  match pages with
  | [] => Step.abort
  | (_, head) :: _ =>
    match pages.find? fun p => !p.2.hasRoom with
    | some (full, _) => Step.refuse (.mappingsExhausted full.index)
    | none =>
      checkFrames id span.pageOff head.frame pages 0
      let count := pages.length
      let vaddr ← (mapVerified head.frame count align component).explain .fatal
      placePages component vaddr pages 0
      note (.spanMapped id component vaddr)
      pure (count, vaddr)

end CapabilityBroker
