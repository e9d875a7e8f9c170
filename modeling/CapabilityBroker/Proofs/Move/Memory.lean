/-
CapabilityBroker/Proofs/Move/Memory.lean

Operations on pages, spans and the contiguous region.

They ask the kernel for frames and for mappings, and keep pages, spans and the
region on record.  A preorder that admits these (`AdmitsMemory`) admits every
operation of this kind; what only writes records down needs less of it
(`AdmitsRecords`), and so does what leaves the region alone (`AdmitsMappings`).
Every mapping is asked for at an alignment of whole pages.
-/
import CapabilityBroker.Memory.Contiguous
import CapabilityBroker.Proofs.Move.Basic

namespace CapabilityBroker

open Step (Stays StaysFrom)

variable {ε : Type}

/-! ### Places of pages -/

/-- A relation between states that admits that a page is noted to be mapped once
more. -/
structure AdmitsPlaces (R : Broker → Broker → Prop) : Prop extends AdmitsNotes R where
  place : ∀ (b : Broker) page m, R b { b with pages := b.pages.modify page (·.addMapping m) }

namespace AdmitsPlaces

variable {R : Broker → Broker → Prop} [IsPreorder Broker R]

theorem placePages (h : AdmitsPlaces R) (component : ComponentId) (vaddr : Vaddr)
    (pages : List (Handle Page × Page)) (i : Nat) :
    Stays R (placePages component vaddr pages i) := by
  induction pages generalizing i with
  | nil => exact .pure
  | cons page pages ih =>
    refine Stays.bind (Stays.exact.bind fun place => .modify fun b => ?_) fun _ => ih (i + 1)
    exact h.place b _ _

theorem checkFrames (span pageOff : Nat) (first : Paddr) (pages : List (Handle Page × Page))
    (i : Nat) : Stays R (checkFrames span pageOff first pages i) := by
  induction pages generalizing i with
  | nil => exact .pure
  | cons page pages ih =>
    intro b
    exact .exact_bind fun expected _ => .ite (fun _ => ih (i + 1) b) fun _ => Stays.refuse b

/-- A span that is mapped needs a mapping, and the places of its pages. -/
theorem mapSpan (h : AdmitsPlaces R) (id : Nat) (component : ComponentId) {align : UInt64}
    (hmap : ∀ first count, Stays R (mapVerified first count align component)) :
    Stays R (mapSpan id component align) := by
  refine Stays.bind (.get_bind fun b => Stays.require b) fun span => ?_
  refine Stays.exact.bind fun _ => .get_bind fun b => .require_bind fun pages _ => ?_
  split
  · exact Stays.abort b
  · split
    · exact Stays.refuse b
    · refine Stays.bind (checkFrames _ _ _ _ _) (fun _ => ?_) b
      refine (hmap _ _).explain.bind fun vaddr => (h.placePages _ _ _ _).bind fun _ => ?_
      exact (h.note rfl).bind fun _ => .pure

end AdmitsPlaces

/-! ### What is kept on record -/

/-- A relation between states that admits what comes on record of pages and
spans. -/
structure AdmitsRecords (R : Broker → Broker → Prop) : Prop extends AdmitsNotes R where
  spans : ∀ (b : Broker) spans, R b { b with spans }
  pages : ∀ (b : Broker) pages, pages.capacity = b.pages.capacity → R b { b with pages }

namespace AdmitsRecords

variable {R : Broker → Broker → Prop}

theorem allowsPages (h : AdmitsRecords R) : pagePool.Allows R Pool.AsLarge := fun b => h.pages b

theorem allowsSpans (h : AdmitsRecords R) {S : Pool Span → Pool Span → Prop} :
    spanPool.Allows R S := fun b _ _ => h.spans b _

theorem askSpans (h : AdmitsRecords R) {α : Type} (s : Step (Pool Span) Pool.Refusal α) :
    Stays R (spanPool.ask s) := h.allowsSpans.askAny s

theorem toAdmitsPlaces (h : AdmitsRecords R) : AdmitsPlaces R where
  toAdmitsNotes := h.toAdmitsNotes
  place b _ _ := h.pages b _ (Pool.capacity_modify _ _)

variable [IsPreorder Broker R]

/-- Records of pages that are kept may be given up. -/
theorem holdingAll (h : AdmitsRecords R) {α : Type} {run : List (Reservation Page)}
    {s : Operation α} {b : Broker} (hs : s.StaysFrom R b) :
    (pagePool.holdingAll run s).StaysFrom R b :=
  hs.cleanly fun b => h.pages b _ (Pool.capacity_unreserveAll run)

theorem publishFrom (h : AdmitsRecords R) (first : Paddr) (mapped : Option (ComponentId × Vaddr))
    (run : List (Reservation Page)) (i : Nat) : Stays R (publishFrom first mapped run i) := by
  induction run generalizing i with
  | nil => exact .pure
  | cons slot slots ih =>
    refine Stays.exact.bind fun mappings => Stays.exact.bind fun frame => ?_
    exact (h.allowsPages.ask (Pool.activate_asLarge slot _)).bind fun _ => ih (i + 1)

theorem publishRun (h : AdmitsRecords R) (run : List (Reservation Page)) (first : Paddr)
    (mapped : Option (ComponentId × Vaddr)) : Stays R (publishRun run first mapped) := by
  cases run with
  | nil => exact .refuse
  | cons head rest =>
    exact (h.publishFrom _ _ _ _).bind fun _ => (h.note rfl).bind fun _ => .pure

theorem activateSpan (h : AdmitsRecords R) (slot : Reservation Span) (head : Handle Page)
    (count : Nat) : Stays R (activateSpan slot head count) := by
  unfold CapabilityBroker.activateSpan
  split
  · exact .refuse
  · refine .ite (fun _ => .refuse_bind) ((h.askSpans _).bind fun span => ?_)
    exact (h.note rfl).bind fun _ => .pure

/-! ### Allocation -/

/-- Apart from its records, an allocation asks for frames and a mapping. -/
theorem allocatePages (h : AdmitsRecords R) {component : Option ComponentId} {count : Nat}
    {align : UInt64} (hreserve : Stays R (reserveFrames count))
    (hmap : ∀ first, Stays R (mapRun component first count align)) :
    Stays R (allocatePages component count align) := by
  refine fun b => .ite (fun _ => .refuse_bind) fun _ => ?_
  refine (h.allowsPages.ask (Pool.allocateRun_asLarge count)).bind (fun run b => ?_) b
  refine h.holdingAll (Stays.bind hreserve (fun first => ?_) b)
  refine (hmap first).bind fun mapped => ?_
  exact (h.publishRun _ _ _).bind fun _ => .pure

/-- Pages that are mapped nowhere need frames only. -/
theorem allocateSharedAt (h : AdmitsRecords R) (id : Nat) {count : Nat} (align : UInt64)
    (hreserve : Stays R (reserveFrames count)) : Stays R (allocateSharedAt id count align) := by
  refine (h.askSpans _).bind fun slot b => ?_
  refine h.allowsSpans.holding ((h.allocatePages hreserve fun _ => .pure).bind (fun pages => ?_) b)
  exact h.activateSpan _ _ _

end AdmitsRecords

/-- A relation between states, with one between kernels, that admits what
operations on pages and spans consist of. -/
structure AdmitsMappings (K : Kernel → Kernel → Prop) (R : Broker → Broker → Prop) : Prop
    extends AdmitsRecords R where
  kernel : kernelPart.Allows R K
  reads : ∀ k, K k k
  reserve : ∀ count, Stays K (Kernel.reserveFrames count)
  frames : ∀ first count align into, WholePages align →
    Stays K (Kernel.aliasFrames first count align into)
  device : ∀ into paddr size, Stays K (Kernel.mapDevice into paddr size)

namespace AdmitsMappings

variable {K : Kernel → Kernel → Prop} {R : Broker → Broker → Prop} {align : UInt64}

/-! ### Frames -/

theorem reserveFrames (h : AdmitsMappings K R) (count : Nat) : Stays R (reserveFrames count) :=
  h.kernel.run (h.reserve count).explain

theorem verifyContiguous (h : AdmitsMappings K R) (component : ComponentId) (vaddr : Vaddr)
    (first : Paddr) (count : Nat) :
    Stays R (kernelPart.run (verifyContiguous component vaddr first count)) := by
  refine h.kernel.run fun k => Kernel.verifyFrom_leads.mono ?_ ?_
  · rintro _ _ ⟨rfl, _⟩
    exact h.reads _
  · rintro why _ rfl
    exact h.reads _

variable [IsPreorder Broker R]

/-! ### Mapping -/

theorem mapVerified (h : AdmitsMappings K R) (first : Paddr) (count : Nat) (ha : WholePages align)
    (into : ComponentId) : Stays R (mapVerified first count align into) := by
  refine (h.kernel.run (h.frames first count align into ha).explain).bind fun vaddr => ?_
  exact (h.verifyContiguous _ _ _ _).bind fun _ => .pure

theorem mapRun (h : AdmitsMappings K R) (component : Option ComponentId) (first : Paddr)
    (count : Nat) (ha : WholePages align) : Stays R (mapRun component first count align) := by
  cases component with
  | none => exact .pure
  | some into => exact (h.mapVerified _ _ ha _).explain.bind fun _ => .pure

/-! ### Pages -/

theorem allocatePages (h : AdmitsMappings K R) (component : Option ComponentId) (count : Nat)
    (ha : WholePages align) : Stays R (allocatePages component count align) :=
  h.toAdmitsRecords.allocatePages (h.reserveFrames count) fun first => h.mapRun _ first _ ha

theorem mapPhysical (h : AdmitsMappings K R) (component : ComponentId) (paddr : Paddr)
    (size : UInt64) : Stays R (mapPhysical component paddr size) :=
  .ite (fun _ => .refuse_bind) (h.kernel.run (h.device component paddr size).explain)

/-! ### Spans -/

theorem allocateShared (h : AdmitsMappings K R) (component : ComponentId) (count : Nat)
    (ha : WholePages align) : Stays R (allocateShared component count align) := by
  refine (h.askSpans _).bind fun slot b => ?_
  refine h.allowsSpans.holding ((h.allocatePages _ _ ha).bind (fun pages => ?_) b)
  exact (h.activateSpan _ _ _).bind fun span => .pure

theorem mapSpan (h : AdmitsMappings K R) (id : Nat) (component : ComponentId)
    (ha : WholePages align) : Stays R (mapSpan id component align) :=
  h.toAdmitsPlaces.mapSpan id component fun first count => h.mapVerified first count ha component

end AdmitsMappings

/-! ### The contiguous region -/

/-- It admits what becomes of the contiguous region too, and that it is written down. -/
structure AdmitsMemory (K : Kernel → Kernel → Prop) (R : Broker → Broker → Prop) : Prop
    extends AdmitsMappings K R where
  region : ∀ (b : Broker) contig, R b { b with contig }
  carvings : ∀ (b : Broker) component offset count,
    R b { b with trail := b.trail.record (.contigAllocated component offset count) }

namespace AdmitsMemory

variable {K : Kernel → Kernel → Prop} {R : Broker → Broker → Prop} [IsPreorder Broker R]
  {align : UInt64}

theorem initContig (h : AdmitsMemory K R) (selfId : ComponentId) (count : Nat) :
    Stays R (initContig selfId count) := by
  refine Stays.bind (.ite .pure ?_) fun base => ?_
  · refine (h.kernel.run (h.reserve count).explain).bind fun base => ?_
    exact (h.mapVerified _ _ wholePages_native _).bind fun _ => .pure
  · refine Stays.bind (.modify fun b => ?_) fun _ => h.log _ _
    split
    · exact h.region b _
    · exact refl_of R b

theorem advanceContig (h : AdmitsMemory K R) (count : Nat) : Stays R (advanceContig count) := by
  refine .get_bind fun b => ?_
  split
  · exact Stays.refuse b
  · refine .ite (fun _ => Stays.refuse b) fun _ => ?_
    exact Stays.bind (.modify fun b => h.region b _)
      (fun _ => Stays.exact.bind fun _ => .pure) b

theorem carveContig (h : AdmitsMemory K R) (component : ComponentId) (count : Nat)
    (ha : WholePages align) : Stays R (carveContig component count align) := by
  refine fun b => .ite (fun _ => .refuse_bind) fun _ => ?_
  refine (h.allowsPages.ask (Pool.allocateRun_asLarge count)).bind (fun run b => ?_) b
  refine h.holdingAll (Stays.bind (h.advanceContig count) (fun carved => ?_) b)
  refine (h.mapVerified _ _ ha _).explain.bind fun vaddr => ?_
  refine (h.publishRun _ _ _).bind fun head => ?_
  refine Stays.bind (.modify fun b => h.carvings b _ _ _) fun _ => ?_
  exact (h.log _ _).bind fun _ => .pure

theorem allocateContiguousShared (h : AdmitsMemory K R) (component : ComponentId) (count : Nat)
    (ha : WholePages align) : Stays R (allocateContiguousShared component count align) := by
  refine (h.askSpans _).bind fun slot b => ?_
  refine h.allowsSpans.holding ((h.carveContig _ _ ha).bind (fun pages => ?_) b)
  exact (h.activateSpan _ _ _).bind fun span => .pure

end AdmitsMemory

/-! ### Moves of memory -/

theorem memory_admits : AdmitsMemory Kernel.MemoryMove Broker.MemoryMove where
  lines _ _ := .of_records
  events _ _ _ := .of_records
  kernel _ _ h := ⟨h, rfl, rfl, rfl, rfl, rfl, rfl, rfl⟩
  reads := .refl
  spans _ _ := .of_records
  region _ _ := .of_records
  carvings _ _ _ _ := .of_records
  pages _ _ h := .of_pages h
  reserve := Kernel.reserveFrames_memory
  frames first count align into _ := Kernel.aliasFrames_memory first count align into
  device := Kernel.mapDevice_memory

end CapabilityBroker
