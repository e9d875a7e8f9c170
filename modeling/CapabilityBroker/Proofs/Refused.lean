/-
CapabilityBroker/Proofs/Refused.lean

Refused requests.

A request that fails changes nothing that the broker answers for, whatever it
kept, reserved or made before it failed.  Two kinds of failure are set apart: a
defect ends the service, and a thread that its scheduler's table did not take
stays on record, which its own failure reports.
-/
import CapabilityBroker.Proofs.Move.Boot
import CapabilityBroker.Proofs.Unchanged.Memory
import CapabilityBroker.Proofs.Unchanged.Object

namespace CapabilityBroker

open Step (Stays StaysFrom Certain Undone)

/-! ### Signals -/

theorem parkAt_certain {α : Type} {plain : Failure → Prop} (id : ComponentId) (core : CoreId)
    (answer : α) : (parkAt id core answer : Operation (Progress α)).Certain plain :=
  (certain_drive _).bind fun _ => .get_bind fun _ => .ite .pure .pure

theorem arriveAt_certain {plain : Failure → Prop} (id : ComponentId) (core : CoreId)
    (barrier : Barrier) : (arriveAt id core barrier).Certain plain := by
  unfold arriveAt
  cases barrier.arrive with
  | mk arrival barrier =>
    refine Certain.modify.bind fun _ => ?_
    cases arrival with
    | leaves => exact (certain_drive _).bind fun _ => .pure
    | opens =>
      refine (certain_note _).bind fun _ => (certain_log _ _).bind fun _ => ?_
      exact (certain_drive _).bind fun _ => .pure
    | waits => exact parkAt_certain _ _ _

/-- A signal is refused before it is heard. -/
theorem signalDone_reverts {b : Broker} {plain : Failure → Prop} (id : ComponentId)
    (core : CoreId) (parallel : Bool) (mode : MainMode) :
    (signalDone id core parallel mode).Reverts Broker.Unchanged plain b b := by
  refine (knownBarrier_stays id).look_bind fun barrier => ?_
  split
  · exact Step.leads_refuse.2 fun _ => .refl b
  · exact Certain.reverts ((certain_note _).bind fun _ => arriveAt_certain _ _ _)
  · exact (arriveAt_certain _ _ _).reverts
  · exact Certain.reverts ((certain_drive _).bind fun _ => .pure)

theorem signalExit_reverts {b : Broker} {plain : Failure → Prop} (id : ComponentId)
    (retval : Int32) : (signalExit id retval).Reverts Broker.Unchanged plain b b := by
  refine (knownBarrier_stays id).look_bind fun barrier => Certain.reverts ?_
  refine (certain_drive _).bind fun _ => (certain_note _).bind fun _ => ?_
  exact certain_log _ _

namespace Service

variable {i : Invocation} {b : Broker}

/-! ### Requests -/

theorem acting_recoils {α : Type} {f : ComponentId → Operation α}
    (h : Recoils b (f i.caller) b) : Recoils b (acting i >>= f) b :=
  acting_leads_bind (fun _ _ => .refl _) fun _ => h

/-- A caller with an alignment that it asks for. -/
theorem aligned_recoils {α : Type} {align : Option UInt64} {f : UInt64 → Operation α}
    (h : ∀ align, Recoils b (f align) b) : Recoils b (alignment align >>= f) b :=
  (alignment_stays align).look_bind h

theorem deny_unchanged {α : Type} (caller target : ComponentId) :
    Stays Broker.Unchanged (deny caller target : Operation α) :=
  (log_unchanged _ _).bind fun _ => (note_unchanged _).bind fun _ => .refuse

theorem spanReply_certain (answer : Nat × Vaddr) : (spanReply answer).Certain Failure.Plain :=
  Certain.exact.bind fun _ => .pure

theorem mappedReply_certain (answer : Nat × Vaddr) :
    (mappedReply answer).Certain Failure.Plain := Certain.exact.bind fun _ => .pure

/-! ### Threads and endpoints -/

theorem createClientThread_recoils (image : Image) (client : ComponentId) :
    Recoils b (createClientThread image i client) b := by
  have hauthorize : Stays Broker.Unchanged (authorize image i.caller client) := fun _ =>
    knownComponent_bind fun _ _ => .ite (fun _ => Stays.pure _) fun _ => deny_unchanged _ _ _
  refine (hauthorize b).reverts_bind fun _ b₁ _ => ?_
  exact (createThread_recoils _ _).certain_bind fun _ => .pure

theorem createVcpu_recoils (vm : ComponentId) : Recoils b (createVcpu i vm) b := by
  refine (knownComponent_looks vm).look_bind fun machine => ?_
  split
  · exact Step.leads_refuse.2 fun _ => .refl b
  · refine .ite (fun _ => (deny_unchanged _ _).reverts) fun _ => ?_
    exact (createThread_recoils _ _).certain_bind fun _ => .pure

/-- Where only the send endpoint fails, the receive endpoint is taken back. -/
theorem createEndpointPair_recoils : Recoils b (createEndpointPair i) b := by
  apply acting_recoils
  have hfirst : Recoils b (createReceiveEndpoint i.caller i.core) b :=
    createReceiveEndpoint_reverts i.caller i.core
  refine Step.leads_bind.2 (((createReceiveEndpoint_revocable i.caller i.core).and hfirst).mono ?_
    fun _ _ h => h.2)
  rintro created b₁ ⟨hcreated, _⟩
  have hsecond : (createSendEndpoint i.caller created.rcv).Reverts Broker.Unchanged
      (fun _ => True) b₁ b₁ := createSendEndpoint_reverts i.caller created.rcv
  refine Step.leads_bind.2 (Step.leads_attempt.2
    (((createSendEndpoint_above i.caller created.rcv b₁).and hsecond).mono ?_ ?_))
  · exact fun _ _ _ => Step.leads_pure.2 trivial
  · rintro why b₂ ⟨habove, hundone⟩
    refine ⟨?_, fun _ => trivial⟩
    rintro reason rfl
    refine Step.leads_bind.2 ((hcreated.after (hundone trivial) habove).revoke.mono ?_ ?_)
    · exact fun _ b₃ h₃ => Step.leads_refuse.2 fun _ => h₃
    · exact fun _ _ h => h.elim

/-! ### Memory -/

theorem mapSharedSpanInVm_recoils (vm : ComponentId) (span : Nat) (align : Option UInt64) :
    Recoils b (mapSharedSpanInVm i vm span align) b :=
  (knownComponent_looks vm).look_bind fun _ => .ite (fun _ => (deny_unchanged _ _).reverts) fun _ =>
    aligned_recoils fun align => mapSpan_recoils span vm align

/-! ### All requests -/

theorem perform_recoils (hlimit : b.pages.capacity < Pool.capacityLimit) (image : Image)
    (i : Invocation) (request : Request) : Recoils b (perform image i request) b := by
  cases request with
  | createThread client entry => exact (createClientThread_recoils image client).map.map
  | createThreadThunk entry =>
    refine .map (.map (acting_recoils ?_))
    exact (createThread_recoils _ _).certain_bind fun _ => .pure
  | createInitThread client => exact (createClientThread_recoils image client).map.map
  | createVcpu vm entry => exact (createVcpu_recoils vm).map.map
  | createReceiveEndpoint entry flags => exact createEndpointPair_recoils.map.map
  | createVmComponent => exact .map (.map (acting_recoils (createVm_reverts _)))
  | translate vaddr => exact .map (.map (acting_recoils (translate_reverts _ _)))
  | allocateHeapPages count align =>
    refine .map (.map (acting_recoils (aligned_recoils fun align => ?_)))
    exact (allocatePages_recoils _ _ _).certain_bind fun _ => .pure
  | mapPhysicalRegion paddr size =>
    exact .map (.map (acting_recoils (mapPhysical_reverts _ _ _)))
  | allocateSharedPages count align =>
    refine .map (Step.Reverts.certain_bind (acting_recoils ?_) spanReply_certain)
    exact aligned_recoils fun align => allocateShared_recoils hlimit _ _ align
  | mapSharedSpan span align =>
    refine .map (Step.Reverts.certain_bind (acting_recoils ?_) mappedReply_certain)
    exact aligned_recoils fun align => mapSpan_recoils _ _ align
  | mapSharedSpanInVm vm span align =>
    exact .map ((mapSharedSpanInVm_recoils vm _ align).certain_bind mappedReply_certain)
  | allocateContiguousPages count =>
    exact .map (.map (acting_recoils (carveContig_recoils _ _ _).map))
  | allocateContiguousShared count align =>
    refine .map (Step.Reverts.certain_bind (acting_recoils ?_) spanReply_certain)
    exact aligned_recoils fun align => allocateContiguousShared_recoils hlimit _ _ align
  | signalInitDone parallel mode =>
    exact .map (acting_recoils (signalDone_reverts _ _ parallel mode))
  | signalInitExit retval => exact .map (.map (acting_recoils (signalExit_reverts _ retval)))

/-! ### Along a run -/

variable {s : Setting} {image : Image} {b' : Broker}

/-- Where the operation behind a request is refused, nothing has changed that
the broker answers for. -/
theorem refused_request_changes_nothing (h : Reached s image b) (i : Invocation)
    (request : Request) {failure : Failure}
    (refused : perform image i request b = .error (.refused failure) b')
    (recoverable : failure.defect? = none) (unleaked : ∀ tid, failure ≠ .threadAliasFailed tid) :
    b.Unchanged b' := by
  have hlimit : b.pages.capacity < Pool.capacityLimit := h.pageCount.1 ▸ h.pageCount.2
  exact (perform_recoils hlimit image i request).of_error refused ⟨recoverable, unleaked⟩

/-- The ordinary system, where a send endpoint cannot be installed once. -/
def Setting.withoutAsnd : Setting := { Setting.ordinary with faults := [.failAsndAlias] }

/-- The scheduler's request for an endpoint pair. -/
def endpointPair : Request := .createReceiveEndpoint ⟨1⟩ ⟨0⟩

/-- What a request is refused for, and the state it leaves. -/
def refusalOf (image : Image) (i : Invocation) (request : Request) (b : Broker) :
    Option (Failure × Broker) :=
  match perform image i request b with
  | .error (.refused failure) b' => some (failure, b')
  | _ => none

theorem of_refusalOf {request : Request} {failure : Failure}
    (h : refusalOf image i request b = some (failure, b')) :
    perform image i request b = .error (.refused failure) b' := by
  unfold refusalOf at h
  split at h
  · next hend =>
    cases h
    exact hend
  · cases h

/-- The receive endpoint of such a pair is made, and then taken back. -/
theorem endpoint_pair_is_taken_back :
    ∃ image b b', Reached .withoutAsnd image b ∧
      perform image ⟨⟨6⟩, ⟨0⟩⟩ endpointPair b =
        .error (.refused (.kernel (.rejected "asnd alias failed"))) b' ∧
      b.Unchanged b' := by
  have hrun : (Setting.withoutAsnd.run [.parallelInit ⟨0⟩ true]).any (fun p =>
      (refusalOf p.1 ⟨⟨6⟩, ⟨0⟩⟩ endpointPair p.2).any fun r =>
        r.1 = .kernel (.rejected "asnd alias failed")) = true := by decide +kernel
  obtain ⟨image, b, hreached, hshows⟩ := exists_reached hrun
  obtain ⟨⟨failure, b'⟩, hrefusal, hfailure⟩ := (Option.any_eq_true _ _).1 hshows
  obtain rfl := of_decide_eq_true hfailure
  have hperform := of_refusalOf hrefusal
  refine ⟨image, b, b', hreached, hperform, ?_⟩
  exact refused_request_changes_nothing hreached _ _ hperform rfl fun tid => by simp

end Service

end CapabilityBroker
