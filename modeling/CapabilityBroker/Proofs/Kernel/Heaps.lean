/-
CapabilityBroker/Proofs/Kernel/Heaps.lean

What moves a heap.

The address of a mapping depends on two things: how far the heap of its component
has grown, and the shape of what is mapped.  So does the next frontier
(`Shape.place?`).  A call of one of the two primitives that map moves one frontier,
the one of the component it maps into, or none if it stops (`Call.run_awards`).
Whatever else the kernel does moves none, where a component that is not there yet
counts as one whose heap has not grown.
-/
import CapabilityBroker.Proofs.Kernel.Calls

namespace CapabilityBroker

/-! ### Shapes -/

/-- What the address of a mapping depends on: a number of frames with their alignment,
or the size of a range of device memory with the offset of its start in its page. -/
inductive Shape where
  | frames (count : Nat) (align : UInt64)
  | device (size : UInt64) (offset : Nat)
deriving DecidableEq

namespace Shape

/-- The alignment of the first page. -/
def align : Shape → UInt64
  | frames _ align => align
  | device .. => 4096

/-- The number of pages. -/
def pages : Shape → Nat
  | frames count _ => count
  | device size offset => (size.toNat + offset + (pageSize - 1)) / pageSize

/-- How far behind the start of its page the mapping begins. -/
def offset : Shape → Nat
  | frames .. => 0
  | device _ offset => offset

/-- The address that a mapping has at a frontier, and the frontier behind it. -/
def place? (shape : Shape) (frontier : Vaddr) : Option (Vaddr × Vaddr) := do
  let place ← frontier.alignUp shape.align
  let next ← place.addPages shape.pages
  let vaddr ← Vaddr.ofNat? (place.toNat + shape.offset)
  pure (vaddr, next)

/-- The addresses of mappings that follow one another, from a frontier on. -/
def addresses (frontier : Vaddr) : List Shape → List Vaddr
  | [] => []
  | shape :: rest =>
    match shape.place? frontier with
    | some (vaddr, next) => vaddr :: addresses next rest
    | none => []

theorem addresses_cons {shape : Shape} {frontier vaddr next : Vaddr} {rest : List Shape}
    (h : shape.place? frontier = some (vaddr, next)) :
    addresses frontier (shape :: rest) = vaddr :: addresses next rest := by
  rw [addresses, h]

theorem place?_eq_some {shape : Shape} {frontier place next vaddr : Vaddr}
    (hplace : frontier.alignUp shape.align = some place)
    (hnext : place.addPages shape.pages = some next)
    (hvaddr : vaddr.toNat = place.toNat + shape.offset) :
    shape.place? frontier = some (vaddr, next) := by
  have hfits : Vaddr.ofNat? (place.toNat + shape.offset) = some vaddr :=
    Option.map_eq_some_iff.2 ⟨vaddr.word, word64?_eq_some_iff.2 hvaddr, rfl⟩
  refine Option.bind_eq_some_iff.2 ⟨place, hplace, Option.bind_eq_some_iff.2 ⟨next, hnext, ?_⟩⟩
  exact Option.bind_eq_some_iff.2 ⟨vaddr, hfits, rfl⟩

end Shape

/-- A mapping as its component sees it. -/
structure Award where
  into : ComponentId
  shape : Shape
  vaddr : Vaddr
deriving DecidableEq

namespace Kernel

open Step (Stays)

variable {ε α : Type} {k k' k'' : Kernel} {id : ComponentId} {award : Option Award}

/-! ### Heaps -/

/-- The first address that a component has not used.  If it is not there yet, it would
begin where the layout says. -/
def heapAt (k : Kernel) (id : ComponentId) : Vaddr := (k.frontier? id).getD k.layout.heapBase

/-- Every heap is as large as it was. -/
def SameHeaps (k k' : Kernel) : Prop := ∀ id, k'.heapAt id = k.heapAt id

instance : IsPreorder Kernel SameHeaps where
  refl _ _ := rfl
  trans _ _ _ h h' id := (h' id).trans (h id)

theorem sameHeaps_of_frontiers (hl : k'.layout = k.layout)
    (hf : ∀ id, k'.frontier? id = k.frontier? id) : k.SameHeaps k' := by
  intro id
  unfold heapAt
  rw [hl, hf]

theorem sameHeaps_of_spaces (hl : k'.layout = k.layout)
    (hs : ∀ id, k'.space? id = k.space? id) : k.SameHeaps k' := by
  refine sameHeaps_of_frontiers hl fun id => ?_
  unfold frontier?
  rw [hs]

/-- One heap has grown by a mapping, and no other. -/
structure GrowsBy (k : Kernel) (award : Award) (k' : Kernel) : Prop where
  placed : award.shape.place? (k.heapAt award.into) = some (award.vaddr, k'.heapAt award.into)
  others : ∀ id, award.into ≠ id → k'.heapAt id = k.heapAt id

/-- The heaps after a mapping, or after none. -/
def Awards (k : Kernel) (award : Option Award) (k' : Kernel) : Prop :=
  match award with
  | none => k.SameHeaps k'
  | some award => k.GrowsBy award k'

/-- Nothing moves a heap before a mapping. -/
theorem Awards.of_same (h : k'.Awards award k'') (hk : k.SameHeaps k') : k.Awards award k'' := by
  cases award with
  | none => exact trans_of SameHeaps hk h
  | some award => exact ⟨hk award.into ▸ h.placed, fun id hid => (h.others id hid).trans (hk id)⟩

/-- Nothing moves one after it. -/
theorem Awards.same (h : k.Awards award k') (hk : k'.SameHeaps k'') : k.Awards award k'' := by
  cases award with
  | none => exact trans_of SameHeaps h hk
  | some award =>
    refine ⟨?_, fun id hid => (hk id).trans (h.others id hid)⟩
    rw [hk award.into]
    exact h.placed

/-! ### Mapping -/

namespace Call

/-- The shape of what is mapped. -/
def shape : Call → Shape
  | .frames _ count align _ => .frames count align
  | .device _ paddr size => .device size (paddr.toNat % pageSize)

theorem align_shape (c : Call) : c.shape.align = c.align := by
  cases c <;> rfl

theorem pages_shape (c : Call) : c.shape.pages = c.count := by
  cases c <;> rfl

theorem offset_shape (c : Call) : c.shape.offset = c.offset := by
  cases c <;> rfl

theorem MapsAt.growsBy {c : Call} {place vaddr : Vaddr} (h : c.MapsAt k place k')
    (hv : vaddr.toNat = place.toNat + c.offset) : k.GrowsBy ⟨c.into, c.shape, vaddr⟩ k' := by
  obtain ⟨frontier, hfrontier, hplace⟩ := h.puts.aligned
  obtain ⟨next, hnext, hfrontiers⟩ := h.behind
  have hnow : k.heapAt c.into = frontier := by
    unfold heapAt
    rw [hfrontier]
    rfl
  have hthen : k'.heapAt c.into = next := by
    unfold heapAt
    rw [hfrontiers, if_pos rfl]
    rfl
  refine ⟨?_, fun id hid => ?_⟩
  · show c.shape.place? (k.heapAt c.into) = some (vaddr, k'.heapAt c.into)
    rw [hnow, hthen]
    rw [← align_shape] at hplace
    rw [← pages_shape] at hnext
    rw [← offset_shape] at hv
    exact Shape.place?_eq_some hplace hnext hv
  · unfold heapAt
    rw [hfrontiers, if_neg hid, h.layout]

/-- A call moves the frontier of the component it maps into, or it stops and moves
none. -/
theorem run_awards (c : Call) :
    c.run.Leads k (fun vaddr k' => k.Awards (some ⟨c.into, c.shape, vaddr⟩) k')
      (fun _ k' => k.Awards none k') := by
  refine c.run_ends.mono ?_ fun _ _ h => sameHeaps_of_frontiers h.layout h.frontiers
  rintro vaddr k' ⟨place, hmaps, hv, -⟩
  exact hmaps.growsBy hv

end Call

/-! ### Everything else -/

theorem reserveFrames_heaps (count : Nat) : Stays SameHeaps (reserveFrames count) := by
  have hsame : ∀ {k k' : Kernel}, k'.components = k.components ∧ k'.layout = k.layout ∧
      k'.mappings = k.mappings → k.SameHeaps k' := fun ⟨hc, hl, _⟩ =>
    sameHeaps_of_spaces hl fun id => congrArg (·[id]?) hc
  exact fun k => (Call.reserveFrames_notes count).mono (fun _ _ => hsame) fun _ _ => hsame

/-- A primitive on objects moves no heap, if it brings no component. -/
theorem ObjectMove.sameHeaps (h : ObjectMove (fun _ => False) k k') : k.SameHeaps k' := by
  refine sameHeaps_of_frontiers h.layout fun id => ?_
  cases hs : k.space? id with
  | some s =>
    obtain ⟨s', hs', hm⟩ := h.spaces id s hs
    rw [frontier?_eq hs, frontier?_eq hs', hm.heap]
  | none =>
    cases hs' : k'.space? id with
    | none =>
      unfold frontier?
      rw [hs, hs']
    | some s' => exact (h.fresh id s' hs hs').1.elim

/-- A virtual machine begins where the layout says. -/
theorem createVmComponent_heaps (name : String) :
    Stays SameHeaps (createVmComponent id name) := by
  refine .get_bind fun k => .ite (fun _ => .refuse_bind) fun hnew => ?_
  refine .exact_bind fun s hs => Step.Leads.modify_bind (Step.leads_modify.2 fun id' => ?_)
  obtain ⟨hheap, _⟩ := Space.frontiers_of_create? hs
  show (k.withSpace id { s with isVm := true }).heapAt id' = _
  unfold heapAt
  rw [frontier?_withSpace]
  split
  · next hid =>
    have hnone : k.frontier? id' = none := by
      unfold frontier?
      rw [← hid, space?_eq_none hnew]
      rfl
    rw [hnone]
    exact hheap
  · rfl

end Kernel

end CapabilityBroker
