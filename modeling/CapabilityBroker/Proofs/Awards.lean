/-
CapabilityBroker/Proofs/Awards.lean

What a reply says of a mapping, and what it does not.

Seven of the requests map pages: six into the caller, and one into a virtual machine
of the caller.  The shape of a mapping is in its request, apart from the length of a
span that was made before, and that is in the reply, next to the address.  So every
mapping that is answered can be read off the request and the reply
(`Request.award?`), and where none is answered, no heap moved.  Here this is shown of
all requests but the four that allocate.
-/
import CapabilityBroker.Proofs.Memory.Spans
import CapabilityBroker.Proofs.Move.Parts

namespace CapabilityBroker

open Step (Stays)

variable {b : Broker} {align : UInt64} {α : Type}

/-! ### Replies -/

/-- The mapping that a reply tells of. -/
def Request.award? (caller : ComponentId) : Request → Reply → Option Award
  | .allocateHeapPages count align, .address vaddr =>
    some ⟨caller, .frames count.toNat (align.getD 4096), vaddr⟩
  | .mapPhysicalRegion paddr size, .address vaddr =>
    some ⟨caller, .device size (paddr.toNat % pageSize), vaddr⟩
  | .allocateSharedPages count align, .span _ vaddr =>
    some ⟨caller, .frames count.toNat (align.getD 4096), vaddr⟩
  | .mapSharedSpan _ align, .mapped pages vaddr =>
    some ⟨caller, .frames pages.toNat (align.getD 4096), vaddr⟩
  | .mapSharedSpanInVm vm _ align, .mapped pages vaddr =>
    some ⟨vm, .frames pages.toNat (align.getD 4096), vaddr⟩
  | .allocateContiguousPages count, .address vaddr =>
    some ⟨caller, .frames count.toNat 4096, vaddr⟩
  | .allocateContiguousShared count align, .span _ vaddr =>
    some ⟨caller, .frames count.toNat (align.getD 4096), vaddr⟩
  | _, _ => none

/-- A caller that has to wait is told of none. -/
def Progress.award? (i : Invocation) (request : Request) : Progress Reply → Option Award
  | .finished reply => request.award? i.caller reply
  | .parked _ _ => none

/-- If the step is answered, the heaps are as the answer says.  If it stops, none has
moved. -/
abbrev Step.Awards (s : Operation α) (b : Broker) (award : α → Option Award) : Prop :=
  s.Leads b (fun a b' => b.kernel.Awards (award a) b'.kernel)
    fun _ b' => b.kernel.SameHeaps b'.kernel

/-! ### Operations on objects -/

/-- Every heap is as large as it was. -/
abbrev Broker.SameHeaps (b b' : Broker) : Prop := b.kernel.SameHeaps b'.kernel

instance : IsPreorder Broker Broker.SameHeaps where
  refl b := refl_of Kernel.SameHeaps b.kernel
  trans _ _ _ := trans_of Kernel.SameHeaps

theorem sameHeaps_tacit : Tacit Broker.SameHeaps := fun b _ _ _ _ => refl_of Broker.SameHeaps b

theorem kernelPart_sameHeaps : kernelPart.Allows Broker.SameHeaps Kernel.SameHeaps :=
  fun _ _ h => h

theorem parts_sameHeaps : Service.AdmitsParts Broker.SameHeaps where
  toAdmitsNotes := sameHeaps_tacit.notes
  pools b _ _ _ := refl_of Broker.SameHeaps b
  endpoints b _ _ _ := refl_of Broker.SameHeaps b
  ask _ ho := kernelPart_sameHeaps.run (Stays.explain fun k =>
    (ho k).mono (fun _ _ => Kernel.ObjectMove.sameHeaps) fun _ _ => Kernel.ObjectMove.sameHeaps)

theorem createVm_sameHeaps (manager : ComponentId) : Stays Broker.SameHeaps (createVm manager) :=
  createVm_walks (C := Eq) (fun b _ _ => refl_of Broker.SameHeaps b) sameHeaps_tacit.notes manager
    fun _ => kernelPart_sameHeaps.run (Kernel.createVmComponent_heaps _).explain

theorem objects_sameHeaps : Service.AdmitsObjects Broker.SameHeaps where
  toAdmitsThreads := parts_sameHeaps.admitsThreads
  signals := sameHeaps_tacit.ignoresSignals
  createVm := createVm_sameHeaps

/-! ### Operations on memory -/

theorem mapPhysical_awards (component : ComponentId) (paddr : Paddr) (size : UInt64) :
    (mapPhysical component paddr size).Awards b
      fun vaddr => some ⟨component, .device size (paddr.toNat % pageSize), vaddr⟩ := by
  refine Step.Leads.ite (fun _ => Step.Leads.refuse_bind (refl_of Broker.SameHeaps b)) fun _ => ?_
  exact Part.run_leads (Step.leads_explain.2 (Kernel.Call.device component paddr size).run_awards)

/-- The length of a span is what is answered, and what its heap grew by. -/
theorem mapSpan_awards {id : Nat} {into : ComponentId} (hq : b.Quiet)
    (ha : pageSize ∣ align.toNat) :
    (mapSpan id into align).Leads b
      (fun answer b' => answer.1 < UInt32.size ∧
        b.kernel.Awards (some ⟨into, .frames answer.1 align, answer.2⟩) b'.kernel)
      (fun _ => b.SameHeaps) := by
  refine (mapSpan_shares ha).mono ?_ fun why b' hwithholds => ?_
  · rintro ⟨count, vaddr⟩ b' ⟨span, head, _, rfl, hshares⟩
    exact ⟨span.nPages.toNat_lt, hshares.grows⟩
  · cases hwithholds with
    | strays _ _ _ hstrays => exact hstrays.heaps hq
    | _ => exact refl_of Broker.SameHeaps b

namespace Service

variable {image : Image} {i : Invocation}

/-! ### Requests -/

theorem mapPhysicalRegion_awards (paddr : Paddr) (size : UInt64) :
    (perform image i (.mapPhysicalRegion paddr size)).Awards b
      (Progress.award? i (.mapPhysicalRegion paddr size)) :=
  Step.leads_map.2 (Step.leads_map.2 (acting_leads_bind (fun _ => refl_of Broker.SameHeaps b)
    fun _ => mapPhysical_awards i.caller paddr size))

/-- A span that is mapped is replied to with its length. -/
theorem mappedReply_awards {s : Operation (Nat × Vaddr)} {into : ComponentId}
    {request : Request}
    (hs : s.Leads b
      (fun answer b' => answer.1 < UInt32.size ∧
        b.kernel.Awards (some ⟨into, .frames answer.1 align, answer.2⟩) b'.kernel)
      (fun _ => b.SameHeaps))
    (hrequest : ∀ pages vaddr, request.award? i.caller (.mapped pages vaddr) =
      some ⟨into, .frames pages.toNat align, vaddr⟩) :
    (finishing (s >>= mappedReply)).Awards b (Progress.award? i request) := by
  refine Step.leads_map.2 (Step.leads_bind.2 (hs.mono ?_ fun _ _ => id))
  rintro ⟨count, vaddr⟩ b' ⟨hsmall, hawards⟩
  refine Step.Leads.exact_bind (fun pages hpages => Step.leads_pure.2 ?_) fun hnone => ?_
  · rw [word64?_eq_some_iff] at hpages
    show b.kernel.Awards (request.award? i.caller (.mapped pages vaddr)) _
    rw [hrequest, hpages]
    exact hawards
  · exact absurd (word64?_eq_none_iff.1 hnone) (Nat.not_le.2 (Nat.lt_trans hsmall (by decide)))

theorem mapSharedSpan_awards (hq : b.Quiet) (span : UInt32) (align : Option UInt64) :
    (perform image i (.mapSharedSpan span align)).Awards b
      (Progress.award? i (.mapSharedSpan span align)) := by
  have hsame := refl_of Broker.SameHeaps b
  refine mappedReply_awards (acting_leads_bind (fun _ => hsame) fun _ =>
    alignment_leads_bind (fun _ => hsame) fun _ hdvd => ?_) fun _ _ => rfl
  exact mapSpan_awards hq hdvd

/-- A span that is mapped into a virtual machine moves the heap of the machine, and not
that of its manager. -/
theorem mapSharedSpanInVm_awards (hq : b.Quiet) (vm : ComponentId) (span : UInt32)
    (align : Option UInt64) :
    (perform image i (.mapSharedSpanInVm vm span align)).Awards b
      (Progress.award? i (.mapSharedSpanInVm vm span align)) := by
  have hsame := refl_of Broker.SameHeaps b
  refine mappedReply_awards (managing_leads (fun _ => hsame) (fun _ _ _ _ _ => hsame)
    fun _ _ _ => alignment_leads_bind (fun _ => hsame) fun _ hdvd => ?_) fun _ _ => rfl
  exact mapSpan_awards hq hdvd

end Service

end CapabilityBroker
