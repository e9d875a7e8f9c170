/-
CapabilityBroker/Proofs/Advance/Service.lean

What a request may do.

`Warrant.ofRequest` is the warrant of a request: capabilities go to the
caller, mappings to one destination, and the only threads that appear are
held by the caller, in a component that it may run threads in.  Dispatching
the request stays within that warrant, whatever it comes to
(`dispatch_staysFrom`).
-/
import CapabilityBroker.Proofs.Advance.Memory
import CapabilityBroker.Proofs.Advance.Object
import CapabilityBroker.Proofs.Barriers
import CapabilityBroker.Service.Dispatch

namespace CapabilityBroker

open Step (Stays StaysFrom)

variable {w : Warrant} {b : Broker}

namespace Service

/-! ### Permission -/

/-- Whether an alignment may be asked for. -/
def aligns (align : Option UInt64) : Bool :=
  4096 ≤ align.getD 4096 && isPowerOfTwo (align.getD 4096)

/-- A power of two that is not less than a page is a multiple of it. -/
theorem dvd_of_isPowerOfTwo {align : UInt64} (hle : 4096 ≤ align)
    (hpower : isPowerOfTwo align = true) : pageSize ∣ align.toNat := by
  unfold isPowerOfTwo at hpower
  rw [Bool.and_eq_true, bne_iff_ne, beq_iff_eq] at hpower
  obtain ⟨hne, hand⟩ := hpower
  have hle' : pageSize ≤ align.toNat := UInt64.le_iff_toNat_le.1 hle
  have hone : (1 : UInt64) ≤ align := by
    rw [UInt64.le_iff_toNat_le]
    exact Nat.le_trans (by decide) hle'
  have hbits : align.toNat &&& (align.toNat - 1) = 0 := by
    have htoNat := congrArg UInt64.toNat hand
    rw [UInt64.toNat_and, UInt64.toNat_sub_of_le _ _ hone] at htoNat
    exact htoNat
  -- Clearing the last bit of a power of two leaves nothing, and only of those.
  obtain ⟨k, hk⟩ := Nat.ne_zero_and_sub_one_eq_zero_iff_isPowerOfTwo.1
    ⟨fun h0 => hne (UInt64.toNat.inj h0), hbits⟩
  rw [hk] at hle' ⊢
  exact Nat.pow_dvd_pow (m := 12) 2 ((Nat.pow_le_pow_iff_right (a := 2) (by decide)).1 hle')

theorem alignment_leads (align : Option UInt64) :
    (alignment align).Leads b
      (fun a b' => (aligns align = true ∧ pageSize ∣ a.toNat) ∧ b' = b ∧ a = align.getD 4096)
      (fun why b' => ¬ aligns align = true ∧ b' = b ∧
        why = .refused (.invalidArgument "alignment")) := by
  unfold aligns
  rw [Bool.and_eq_true, decide_eq_true_eq]
  refine Step.Leads.ite (fun hbad => Step.leads_refuse.2 ⟨?_, rfl, rfl⟩) fun hgood => ?_
  · rintro ⟨hle, hpower⟩
    rw [Bool.or_eq_true, decide_eq_true_eq, hpower] at hbad
    exact hbad.elim (UInt64.not_lt.2 hle) Bool.false_ne_true
  · rw [Bool.or_eq_true, not_or, decide_eq_true_eq, UInt64.not_lt, Bool.not_eq_true,
      Bool.not_eq_false'] at hgood
    exact Step.leads_pure.2 ⟨⟨hgood, dvd_of_isPowerOfTwo hgood.1 hgood.2⟩, rfl, rfl⟩

/-- The alignment is taken as it is, and the rest goes on from the same state. -/
theorem alignment_leads_bind {α : Type} {align : Option UInt64} {f : UInt64 → Operation α}
    {post : α → Broker → Prop} {stop : Stop Failure → Broker → Prop}
    (hstop : ¬ aligns align = true → stop (.refused (.invalidArgument "alignment")) b)
    (h : aligns align = true → pageSize ∣ (align.getD 4096).toNat →
      (f (align.getD 4096)).Leads b post stop) :
    (alignment align >>= f).Leads b post stop := by
  refine Step.leads_bind.2 ((alignment_leads align).mono ?_ ?_)
  · rintro _ _ ⟨⟨haligns, hdvd⟩, rfl, rfl⟩
    exact h haligns hdvd
  · rintro why _ ⟨hnot, rfl, rfl⟩
    exact hstop hnot

theorem alignment_stays {R : Broker → Broker → Prop} [IsPreorder Broker R]
    (align : Option UInt64) : Stays R (alignment align) := .ite .refuse .pure

/-- A denial is written down and changes nothing else. -/
theorem deny_leads {α : Type} (caller target : ComponentId) :
    (deny caller target : Operation α).Leads b (fun _ _ => False)
      (fun why b' => why = .refused (.permissionDenied caller target) ∧
        ∃ trail journal, b' = { b with trail, journal }) := by
  refine Step.Leads.modify_bind (Step.Leads.modify_bind (Step.leads_refuse.2 ⟨rfl, ?_⟩))
  exact ⟨_, _, rfl⟩

theorem deny_stays {α : Type} (caller target : ComponentId) :
    Stays (Broker.Advance w) (deny caller target : Operation α) := by
  refine fun b => (deny_leads caller target).mono (fun _ _ h => h.elim) ?_
  rintro why _ ⟨_, trail, journal, rfl⟩
  exact .of_notes

/-- The acting component is the caller, and nothing has changed. -/
theorem acting_leads (i : Invocation) :
    (acting i).Leads b
      (fun caller b' => b' = b ∧ caller = i.caller ∧ b.hasComponent i.caller = true)
      (fun why b' => b' = b ∧ why = .refused (.unknownComponent i.caller) ∧
        ¬ b.hasComponent i.caller = true) := by
  refine Step.Leads.get_bind (Step.Leads.ite (fun h => ?_) fun h => ?_)
  · exact Step.leads_pure.2 ⟨rfl, rfl, h⟩
  · exact Step.leads_refuse.2 ⟨rfl, rfl, h⟩

/-- The caller acts, and the rest goes on from the same state. -/
theorem acting_leads_bind {α : Type} {i : Invocation} {f : ComponentId → Operation α}
    {post : α → Broker → Prop} {stop : Stop Failure → Broker → Prop}
    (hstop : ¬ b.hasComponent i.caller = true → stop (.refused (.unknownComponent i.caller)) b)
    (h : b.hasComponent i.caller = true → (f i.caller).Leads b post stop) :
    (acting i >>= f).Leads b post stop := by
  refine Step.leads_bind.2 ((acting_leads i).mono ?_ ?_)
  · rintro _ _ ⟨rfl, rfl, hcaller⟩
    exact h hcaller
  · rintro why _ ⟨rfl, rfl, hnot⟩
    exact hstop hnot

theorem acting_bind {R : Broker → Broker → Prop} [IsPreorder Broker R] {α : Type}
    {i : Invocation} {f : ComponentId → Operation α} (h : (f i.caller).StaysFrom R b) :
    (acting i >>= f).StaysFrom R b := acting_leads_bind (fun _ => refl_of R b) fun _ => h

/-- Who manages a virtual machine goes on from the same state, and everyone else is
denied. -/
theorem managing_leads {α : Type} {i : Invocation} {vm : ComponentId} {s : Operation α}
    {post : α → Broker → Prop} {stop : Stop Failure → Broker → Prop}
    (hunknown : b.component? vm = none → stop (.refused (.unknownComponent vm)) b)
    (hdenied : ∀ machine, b.component? vm = some machine → machine.manager? ≠ some i.caller →
      ∀ trail journal, stop (.refused (.permissionDenied i.caller vm)) { b with trail, journal })
    (h : ∀ machine, b.component? vm = some machine → machine.manager? = some i.caller →
      s.Leads b post stop) :
    (knownComponent vm >>= fun machine =>
      if machine.manager? ≠ some i.caller then deny i.caller vm else s).Leads b post stop := by
  refine Step.leads_bind.2 (Step.Leads.get_bind (Step.leads_require.2
    ⟨fun machine hvm => Step.Leads.ite (fun hother => ?_) fun hmanager => ?_, hunknown⟩))
  · refine (deny_leads i.caller vm).mono (fun _ _ => False.elim) ?_
    rintro why _ ⟨rfl, trail, journal, rfl⟩
    exact hdenied machine hvm hother trail journal
  · exact h machine hvm (Decidable.not_not.1 hmanager)

/-- Whom a component's threads answer to besides itself: its scheduler, and
its manager if it is a virtual machine. -/
def Commands (image : Image) (b : Broker) (sched client : ComponentId) : Prop :=
  image.schedulers.isSchedulerOf sched client = true ∨
    ∃ record, b.component? client = some record ∧ record.manager? = some sched

/-- Who passes commands the client; who does not leaves no more than notes. -/
theorem authorize_leads (image : Image) (caller client : ComponentId) :
    (authorize image caller client).Leads b
      (fun _ b' => b' = b ∧ Commands image b caller client)
      (fun why b' => (why = .refused (.unknownComponent client) ∨
          why = .refused (.permissionDenied caller client)) ∧
        ∃ trail journal, b' = { b with trail, journal }) := by
  refine Step.leads_bind.2 (Step.Leads.get_bind (Step.leads_require.2 ⟨?_, ?_⟩))
  · intro record hrecord
    refine Step.Leads.ite (fun hallowed => Step.leads_pure.2 ⟨rfl, ?_⟩) fun _ => ?_
    · rw [Bool.or_eq_true, beq_iff_eq] at hallowed
      exact hallowed.imp_right fun hmanager => ⟨record, hrecord, hmanager⟩
    · exact (deny_leads caller client).mono (fun _ _ h => h.elim) fun _ _ h => ⟨.inr h.1, h.2⟩
  · exact fun _ => ⟨.inl rfl, b.trail, b.journal, rfl⟩

/-- The component that a request maps into. -/
def destination (b : Broker) (caller : ComponentId) : Request → ComponentId
  | .mapSharedSpanInVm vm _ _ =>
    if (b.component? vm).bind ComponentRecord.manager? = some caller then vm else caller
  | _ => caller

end Service

open Service

/-- What a request may do. -/
def Warrant.ofRequest (image : Image) (b : Broker) (caller : ComponentId) (request : Request) :
    Warrant where
  caps := (· = caller)
  maps := (· = destination b caller request)
  starting := False
  threads t := t.sched = caller ∧ (caller = t.client ∨ Commands image b caller t.client)

namespace Service

/-! ### Threads and endpoints -/

/-- A look at a component's record changes nothing. -/
theorem knownComponent_bind {R : Broker → Broker → Prop} [IsPreorder Broker R] {α : Type}
    {id : ComponentId} {f : ComponentRecord → Operation α}
    (h : ∀ record, b.component? id = some record → (f record).StaysFrom R b) :
    (knownComponent id >>= f).StaysFrom R b := by
  refine Step.leads_bind.2 (Step.Leads.get_bind (Step.leads_require.2 ⟨h, fun _ => ?_⟩))
  exact refl_of R b

/-- The caller creates threads where it may run them. -/
theorem createClientThread_staysFrom {image : Image} {i : Invocation} {client : ComponentId}
    (hc : w.caps i.caller)
    (ht : Commands image b i.caller client →
      ∀ thread held, w.threads ⟨thread, client, i.caller, held⟩) :
    (createClientThread image i client).StaysFrom (Broker.Advance w) b := by
  refine Step.leads_bind.2 ((authorize_leads image i.caller client).mono ?_ ?_)
  · rintro _ _ ⟨rfl, hcommands⟩
    exact (createThread_stays hc (ht hcommands)).bind (fun _ => Stays.pure) _
  · rintro why _ ⟨_, trail, journal, rfl⟩
    exact .of_notes

theorem createThreadThunk_stays {i : Invocation} (hc : w.caps i.caller)
    (ht : ∀ thread held, w.threads ⟨thread, i.caller, i.caller, held⟩) :
    Stays (Broker.Advance w) (createThreadThunk i) :=
  fun b => acting_bind ((createThread_stays hc ht).bind (fun _ => Stays.pure) b)

/-- A virtual processor is created by the manager of its machine only. -/
theorem createVcpu_staysFrom {i : Invocation} {vm : ComponentId} (hc : w.caps i.caller)
    (ht : (∃ record, b.component? vm = some record ∧ record.manager? = some i.caller) →
      ∀ thread held, w.threads ⟨thread, vm, i.caller, held⟩) :
    (createVcpu i vm).StaysFrom (Broker.Advance w) b := by
  refine knownComponent_bind fun machine hmachine => ?_
  split
  · exact Stays.refuse b
  · next manager hmanager =>
    refine .ite (fun _ => deny_stays _ _ b) fun hsame => ?_
    have hcaller : manager = i.caller := Decidable.not_not.1 hsame
    subst hcaller
    exact (createThread_stays hc (ht ⟨machine, hmachine, hmanager⟩)).bind (fun _ => Stays.pure) b

theorem createEndpointPair_stays {i : Invocation} (hc : w.caps i.caller)
    (ht : ∀ thread held, w.threads ⟨thread, i.caller, i.caller, held⟩) :
    Stays (Broker.Advance w) (createEndpointPair i) := by
  refine fun b => acting_bind ?_
  apply Step.Leads.bind_from (.refl b) (createReceiveEndpoint_leads i.core hc ht)
  intro created b₁ h₁ hfresh
  refine Step.leads_bind.2 (Step.leads_attempt.2 ?_)
  refine ((createSendEndpoint_stays hc created.rcv) b₁).mono ?_ ?_
  · exact fun _ b₂ h₂ => Step.leads_pure.2 (h₁.trans h₂)
  · refine fun why b₂ h₂ => ⟨fun failure _ => ?_, fun _ => h₁.trans h₂⟩
    refine Step.leads_bind.2 ((revokeReceiveEndpoint_leads (h₁.trans h₂) hc ?_).mono ?_ ?_)
    · exact hfresh.advance h₂
    · exact fun _ b₃ h₃ => Step.leads_refuse.2 h₃
    · exact fun _ _ => id

/-! ### Memory -/

theorem allocateHeapPages_stays {i : Invocation} (hm : w.maps i.caller) (count : Nat)
    (align : Option UInt64) : Stays (Broker.Advance w) (allocateHeapPages i count align) := by
  refine fun b => acting_bind ((alignment_stays align).bind (fun align => ?_) b)
  refine (allocatePages_stays ?_ count align).bind fun _ => .pure
  rintro _ ⟨⟩
  exact hm

theorem mapPhysicalRegion_stays {i : Invocation} (hm : w.maps i.caller) (paddr : Paddr)
    (size : UInt64) : Stays (Broker.Advance w) (mapPhysicalRegion i paddr size) :=
  fun b => acting_bind (mapPhysical_stays hm paddr size b)

theorem allocateSharedPages_stays {i : Invocation} (hm : w.maps i.caller) (count : Nat)
    (align : Option UInt64) : Stays (Broker.Advance w) (allocateSharedPages i count align) := by
  refine fun b => acting_bind ((alignment_stays align).bind (fun align => ?_) b)
  exact allocateShared_stays hm count align

theorem mapSharedSpan_stays {i : Invocation} (hm : w.maps i.caller) (span : Nat)
    (align : Option UInt64) : Stays (Broker.Advance w) (mapSharedSpan i span align) := by
  refine fun b => acting_bind ((alignment_stays align).bind (fun align => ?_) b)
  exact mapSpan_stays hm span align

/-- A span is mapped into a virtual machine for its manager only. -/
theorem mapSharedSpanInVm_staysFrom {i : Invocation} {vm : ComponentId} (span : Nat)
    (align : Option UInt64)
    (hm : (b.component? vm).bind ComponentRecord.manager? = some i.caller → w.maps vm) :
    (mapSharedSpanInVm i vm span align).StaysFrom (Broker.Advance w) b := by
  refine knownComponent_bind fun machine hmachine => ?_
  refine .ite (fun _ => deny_stays _ _ b) fun hmanager => ?_
  refine (alignment_stays align).bind (fun align => mapSpan_stays (hm ?_) span align) b
  rw [hmachine]
  exact Decidable.not_not.1 hmanager

theorem allocateContiguousPages_stays {i : Invocation} (hm : w.maps i.caller) (count : Nat) :
    Stays (Broker.Advance w) (allocateContiguousPages i count) :=
  fun b => acting_bind (allocateContiguous_stays hm count b)

theorem allocateContiguousSpan_stays {i : Invocation} (hm : w.maps i.caller) (count : Nat)
    (align : Option UInt64) :
    Stays (Broker.Advance w) (allocateContiguousSpan i count align) := by
  refine fun b => acting_bind ((alignment_stays align).bind (fun align => ?_) b)
  exact allocateContiguousShared_stays hm count align

/-! ### Requests -/

section Replies

variable {R : Broker → Broker → Prop} [IsPreorder Broker R]

theorem spanReply_stays (answer : Nat × Vaddr) : Stays R (spanReply answer) :=
  Stays.exact.bind fun _ => .pure

theorem mappedReply_stays (answer : Nat × Vaddr) : Stays R (mappedReply answer) :=
  Stays.exact.bind fun _ => .pure

end Replies

/-- Whatever comes of a request, it stays within its warrant. -/
theorem perform_staysFrom (image : Image) (i : Invocation) (request : Request) :
    (perform image i request).StaysFrom
      (Broker.Advance (.ofRequest image b i.caller request)) b := by
  cases request with
  | createThread client entry =>
    refine StaysFrom.map (StaysFrom.map (createClientThread_staysFrom rfl ?_))
    exact fun h _ _ => ⟨rfl, .inr h⟩
  | createThreadThunk entry =>
    refine StaysFrom.map (StaysFrom.map (createThreadThunk_stays rfl ?_ b))
    exact fun _ _ => ⟨rfl, .inl rfl⟩
  | createInitThread client =>
    refine StaysFrom.map (StaysFrom.map (createClientThread_staysFrom rfl ?_))
    exact fun h _ _ => ⟨rfl, .inr h⟩
  | createVcpu vm entry =>
    refine StaysFrom.map (StaysFrom.map (createVcpu_staysFrom rfl ?_))
    exact fun h _ _ => ⟨rfl, .inr (.inr h)⟩
  | createReceiveEndpoint entry flags =>
    refine StaysFrom.map (StaysFrom.map (createEndpointPair_stays rfl ?_ b))
    exact fun _ _ => ⟨rfl, .inl rfl⟩
  | createVmComponent => exact StaysFrom.map (StaysFrom.map (acting_bind (createVm_stays _ b)))
  | translate vaddr =>
    exact StaysFrom.map (StaysFrom.map (acting_bind (translate_stays _ vaddr b)))
  | allocateHeapPages count align => exact (allocateHeapPages_stays rfl _ align b).map.map
  | mapPhysicalRegion paddr size => exact (mapPhysicalRegion_stays rfl paddr size b).map.map
  | allocateSharedPages count align =>
    exact ((allocateSharedPages_stays rfl _ align).bind spanReply_stays b).map
  | mapSharedSpan span align =>
    exact ((mapSharedSpan_stays rfl _ align).bind mappedReply_stays b).map
  | mapSharedSpanInVm vm span align =>
    refine ((mapSharedSpanInVm_staysFrom _ align fun h => ?_).bind fun answer b' _ => ?_).map
    · exact (if_pos h).symm
    · exact mappedReply_stays answer b'
  | allocateContiguousPages count => exact (allocateContiguousPages_stays rfl _ b).map.map
  | allocateContiguousShared count align =>
    exact ((allocateContiguousSpan_stays rfl _ align).bind spanReply_stays b).map
  | signalInitDone parallel mode =>
    exact StaysFrom.map
      (acting_bind (advance_tacit.ignoresSignals.signalDone _ _ parallel mode b))
  | signalInitExit retval =>
    exact StaysFrom.map (StaysFrom.map
      (acting_bind (advance_tacit.ignoresSignals.signalExit _ retval b)))

/-- What follows an operation in its dispatch is a line in the journal. -/
theorem dispatch_staysFrom_of {R : Broker → Broker → Prop} [IsPreorder Broker R] {image : Image}
    {i : Invocation} {request : Request}
    (hlog : ∀ level message, Stays R (log level message : Step Broker Defect Unit))
    (h : (perform image i request).StaysFrom R b) : (dispatch image i request).StaysFrom R b := by
  refine StaysFrom.bind h.attempt fun result b' _ => ?_
  cases result with
  | ok progress => exact Stays.pure b'
  | error failure =>
    dsimp only
    split
    · exact Stays.refuse b'
    · exact (hlog _ _).bind (fun _ => Stays.pure) b'

theorem dispatch_staysFrom (image : Image) (i : Invocation) (request : Request) :
    (dispatch image i request).StaysFrom
      (Broker.Advance (.ofRequest image b i.caller request)) b :=
  dispatch_staysFrom_of (fun _ _ => advance_tacit.log _ _) (perform_staysFrom image i request)

end Service

end CapabilityBroker
