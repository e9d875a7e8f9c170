/-
CapabilityBroker/Kernel/State.lean

The kernel's own state: components with their page tables and capability
tables, threads, and the frames handed out so far.

Slots, thread ids and frames are handed out in ascending order and never
twice.  A revoked slot is dropped from the live slots of its table, but the
table's frontier does not move back.
-/
import Std.Data.ExtTreeSet
import CapabilityBroker.Step
import CapabilityBroker.Trail
import CapabilityBroker.Kernel.Event
import CapabilityBroker.Kernel.Refusal

namespace CapabilityBroker

namespace Kernel

/-! ### Components -/

/-- The layout of the machine. -/
structure Layout where
  /-- The first frame that can be handed out. -/
  physBase : Paddr
  /-- The number of frames that can be handed out. -/
  physFrames : Nat
  /-- The start of a component's heap when nothing else is said. -/
  heapBase : Vaddr
  /-- The first free slot of a component when nothing else is said. -/
  captblBase : UInt64
  /-- The number of slots of each component. -/
  captblSize : UInt64
deriving DecidableEq

/-- A gibibyte of frames from 16 MiB on, and heaps from 1 GiB on. -/
def Layout.standard : Layout := ⟨⟨0x01000000⟩, 262144, ⟨0x40000000⟩, 16, 65536⟩

/-- The layout that a value gives, on top of another. -/
def Layout.override? (base : Layout) (j : Json) : Option Layout := do
  let fields ← Fields.ofJson?
    ["phys_base", "phys_frames", "heap_base", "captbl_base", "captbl_size"] j
  let physBase ← fields.orDefault "phys_base" base.physBase
  let physFrames ← fields.orDefault "phys_frames" (UInt64.ofNat base.physFrames)
  let heapBase ← fields.orDefault "heap_base" base.heapBase
  let captblBase ← fields.orDefault "captbl_base" base.captblBase
  let captblSize ← fields.orDefault "captbl_size" base.captblSize
  pure ⟨physBase, physFrames.toNat, heapBase, captblBase, captblSize⟩

/-- A component as the kernel sees it. -/
structure Space where
  name : String
  /-- The first unused virtual address. -/
  heapFrontier : Vaddr
  /-- The first slot never handed out. -/
  captblFrontier : UInt64
  /-- The end of the capability table. -/
  captblLimit : UInt64
  /-- The slots handed out and not revoked. -/
  liveCaps : Std.ExtTreeSet UInt64
  /-- Virtual page number to physical page. -/
  pages : Std.ExtTreeMap Nat Paddr
  ulkMapped : Bool
  isVm : Bool

namespace Space

/-- An empty component, if its capability table ends within a word. -/
def create? (layout : Layout) (name : String) (heapFrontier : Vaddr) (captblFrontier : UInt64) :
    Option Space :=
  (word64? (captblFrontier.toNat + layout.captblSize.toNat)).map fun limit =>
    { name, heapFrontier, captblFrontier, captblLimit := limit, liveCaps := ∅, pages := ∅,
      ulkMapped := false, isVm := false }

/-- Map frames at consecutive pages from `page` on. -/
def mapPages (space : Space) (page : Nat) : List Paddr → Space
  | [] => space
  | frame :: frames =>
    mapPages { space with pages := space.pages.insert page frame } (page + 1) frames

end Space

end Kernel

/-! ### The kernel -/

/-- The state of the kernel. -/
structure Kernel where
  /-- The component whose table receives every new object: the broker. -/
  selfId : ComponentId
  layout : Kernel.Layout
  components : Std.ExtTreeMap ComponentId Kernel.Space
  /-- Thread to the component it executes in. -/
  threads : Std.ExtTreeMap ThreadId ComponentId
  nextTid : UInt64
  /-- The number of frames handed out. -/
  nextFrame : Nat
  /-- Whether the user-level kernel's shared region exists. -/
  ulkReady : Bool
  faults : Kernel.Faults
  trail : Trail Kernel.Event

namespace Kernel

variable {ε : Type}

/-- A kernel that knows only the broker, if the broker's capability table
ends within a word. -/
def create? (selfId : ComponentId) (layout : Layout) (faults : List Fault) : Option Kernel :=
  (Space.create? layout "capmgr" layout.heapBase layout.captblBase).map fun space =>
    { selfId, layout, components := (∅ : Std.ExtTreeMap ComponentId Space).insert selfId space,
      threads := ∅, nextTid := 1, nextFrame := 0, ulkReady := false,
      faults := .plan faults, trail := .empty }

/-! ### Looking at the kernel -/

/-- A component. -/
def space? (k : Kernel) (id : ComponentId) : Option Space := k.components[id]?

def hasComponent (k : Kernel) (id : ComponentId) : Bool := (k.space? id).isSome

/-- Whether a slot of a component was handed out and not revoked. -/
def holds (k : Kernel) (id : ComponentId) (slot : UInt64) : Bool :=
  match k.space? id with
  | some space => space.liveCaps.contains slot
  | none => false

/-- The component a thread executes in. -/
def threadOwner? (k : Kernel) (tid : ThreadId) : Option ComponentId := k.threads[tid]?

/-- The number of pages in a component's page table. -/
def mappedPages (k : Kernel) (id : ComponentId) : Nat :=
  match k.space? id with
  | some space => space.pages.size
  | none => 0

/-! ### Steps shared by the primitives -/

/-- Add an event to the trail. -/
def record (event : Event) : Step Kernel ε Unit :=
  modify fun k => { k with trail := k.trail.record event }

/-- The component with an id. -/
def knownSpace (id : ComponentId) : Step Kernel Refusal Space := do
  Step.require (.unknownComponent id) ((← get).space? id)

/-- Replace a component. -/
def setSpace (id : ComponentId) (space : Space) : Step Kernel ε Unit :=
  modify fun k => { k with components := k.components.insert id space }

/-- Let a planned fault fire, if there is one. -/
def inject (fault : Fault) : Step Kernel ε Bool := do
  let k ← get
  let (fires, faults) := k.faults.take fault
  if fires then
    set { k with faults := faults }
    record (.faultInjected fault)
  pure fires

/-- Refuse if a planned fault fires. -/
def failOn (fault : Fault) (reason : String) : Step Kernel Refusal Unit := do
  if ← inject fault then Step.refuse (.rejected reason)

/-- Hand out a slot of a component's capability table. -/
def allocateSlot (into : ComponentId) : Step Kernel Refusal UInt64 := do
  let space ← knownSpace into
  if space.captblFrontier ≥ space.captblLimit then
    Step.refuse (.capabilityTableFull into)
  else
    let slot := space.captblFrontier
    setSpace into
      { space with captblFrontier := slot + 1, liveCaps := space.liveCaps.insert slot }
    pure slot

/-- Empty slots of a component's capability table.  All of them must be
live. -/
def revokeSlots (owner : ComponentId) (slots : List UInt64) : Step Kernel Refusal Unit := do
  let space ← knownSpace owner
  match slots.find? fun slot => !space.liveCaps.contains slot with
  | some dead => Step.refuse (.invalidCapability dead)
  | none => setSpace owner { space with liveCaps := slots.foldl .erase space.liveCaps }

end Kernel

end CapabilityBroker
