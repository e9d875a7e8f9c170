/-
CapabilityBroker/Kernel/Mapping.lean

Kernel primitives for frames and page tables.

Frames are handed out in runs.  A mapping places a run at the component's
heap frontier, rounded up to the alignment asked for, and moves the frontier
behind it, so that no address is used twice.  The pages come first: where the
address space has no room for the frontier behind them, they stay in the page
table and the frontier stays before them.
-/
import CapabilityBroker.Kernel.State

namespace CapabilityBroker

/-- The addresses of `count` consecutive frames. -/
def Paddr.run? (first : Paddr) (count : Nat) : Option (List Paddr) :=
  (List.range count).mapM first.addPages

namespace Kernel

variable {ε : Type}

/-! ### Frames -/

/-- Hand out `count` consecutive frames. -/
def reserveFrames (count : Nat) : Step Kernel Refusal Paddr := do
  if count = 0 then Step.refuse (.rejected "empty frame reservation")
  if ← inject .failFrameReserve then Step.refuse .outOfMemory
  let k ← get
  let taken ← Step.exact (word64? (k.nextFrame + count))
  if taken.toNat > k.layout.physFrames then Step.refuse .outOfMemory
  let first ← Step.exact (k.layout.physBase.addPages k.nextFrame)
  set { k with nextFrame := k.nextFrame + count }
  record (.framesReserved first count)
  pure first

/-- Put frames into a component's page table from an address on, and move its
heap frontier behind them. -/
def placeFrames (id : ComponentId) (space : Space) (vaddr : Vaddr) (frames : List Paddr) :
    Step Kernel ε Unit := do
  let mapped := space.mapPages vaddr.pageNumber frames
  setSpace id mapped
  let frontier ← Step.exact (vaddr.addPages frames.length)
  setSpace id { mapped with heapFrontier := frontier }

/-- The frames of a run as they are mapped.  With a gap, the last of them is
one frame off. -/
def mappedRun? (first : Paddr) (count : Nat) (gap : Bool) : Option (List Paddr) := do
  let frames ← first.run? count
  if gap then
    let beyond ← first.addPages count
    pure (frames.dropLast ++ [beyond])
  else pure frames

/-- Map a run of frames into a component. -/
def aliasFrames (first : Paddr) (count : Nat) (align : UInt64) (into : ComponentId) :
    Step Kernel Refusal Vaddr := do
  let k ← get
  let reservedEnd ← Step.exact (k.layout.physBase.addPages k.nextFrame)
  let runEnd ← Step.exact (first.addPages count)
  if first.word < k.layout.physBase.word ∨ runEnd.word > reservedEnd.word then
    Step.refuse (.invalidCapability first.word)
  let gap ← if count > 1 then inject .discontiguousAlias else pure false
  let space ← knownSpace into
  let vaddr ← Step.exact (space.heapFrontier.alignUp align)
  let frames ← Step.exact (mappedRun? first count gap)
  placeFrames into space vaddr frames
  record (.framesMapped into vaddr count)
  pure vaddr

/-! ### Device memory -/

/-- Whether a device range ends early enough in the physical address space
for the pages around it. -/
def deviceRangeFits (paddr : Paddr) (size : UInt64) : Bool :=
  (word64? (paddr.toNat + size.toNat + pageSize)).isSome

/-- Map a range of physical addresses into a component. -/
def mapDevice (component : ComponentId) (paddr : Paddr) (size : UInt64) :
    Step Kernel Refusal Vaddr := do
  if size = 0 then Step.refuse (.rejected "empty hardware mapping")
  if !deviceRangeFits paddr size then
    Step.refuse (.rejected "hardware mapping wraps the address space")
  let offset := paddr.word % 4096
  let covered ← Step.exact (word64? (size.toNat + offset.toNat))
  let count ← Step.exact (bytesToPages covered)
  let space ← knownSpace component
  let vaddr ← Step.exact (space.heapFrontier.alignUp 4096)
  let frames ← Step.exact ((⟨paddr.word - offset⟩ : Paddr).run? count.toNat)
  placeFrames component space vaddr frames
  record (.hwMapped component paddr size)
  Step.exact (Vaddr.ofNat? (vaddr.toNat + offset.toNat))

/-! ### Addresses -/

/-- The physical address behind a virtual one, if it is mapped. -/
def translate (component : ComponentId) (vaddr : Vaddr) : Step Kernel ε (Option Paddr) := do
  match (← get).space? component with
  | none => pure none
  | some space =>
    match space.pages[vaddr.pageNumber]? with
    | none => pure none
    | some frame => some <$> Step.exact (Paddr.ofNat? (frame.toNat + vaddr.offset))

/-! ### The user-level kernel's region -/

/-- Create the shared region. -/
def initUlk : Step Kernel Refusal Unit := do
  let k ← get
  if k.ulkReady then Step.refuse (.alreadyMapped k.selfId)
  set { k with ulkReady := true }

/-- Map the shared region into a component. -/
def mapUlk (component : ComponentId) : Step Kernel Refusal Unit := do
  if !(← get).ulkReady then
    Step.refuse (.rejected "user-level-kernel region not created")
  let space ← knownSpace component
  if space.ulkMapped then Step.refuse (.alreadyMapped component)
  setSpace component { space with ulkMapped := true }
  record (.ulkMapped component)

end Kernel

end CapabilityBroker
