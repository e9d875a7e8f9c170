/-
CapabilityBroker/Proofs/Sound/Service.lean

Requests in sound states.

A request may come to a mapping, and that mapping needs room in the address
space it goes to.  If there is none, the request overruns, and its arithmetic
leaves the word; `overruns` reads off the state whether it comes to that.
Nothing else makes a request abort, and no request shows a defect
(`dispatch_leads`).
-/
import CapabilityBroker.Proofs.Advance.Service
import CapabilityBroker.Proofs.Sound.Object
import CapabilityBroker.Proofs.Sound.Span

namespace CapabilityBroker

variable {b : Broker} {α : Type} {off : Prop}

/-! ### Barriers -/

theorem knownBarrier_calm (id : ComponentId) : Calm (knownBarrier id) :=
  fun b h => Step.Leads.get_bind (Calm.require rfl b h)

theorem setBarrier_calm (id : ComponentId) (barrier : Barrier) : Calm (setBarrier id barrier) :=
  fun _ h => Step.leads_modify.2 h.of_notes

theorem beginInit_calm (id : ComponentId) (core : CoreId) : Calm (beginInit id core) := by
  refine (knownBarrier_calm id).bind fun barrier => ?_
  split
  · refine (setBarrier_calm _ _).bind fun _ => (note_calm _).bind fun _ => ?_
    exact (log_calm _ _).bind fun _ => (drive_calm _).bind fun _ => .pure
  · exact .pure

theorem parkAt_calm (id : ComponentId) (core : CoreId) (answer : α) :
    Calm (parkAt id core answer) := by
  refine (drive_calm _).bind fun _ b h => Step.Leads.get_bind ?_
  exact Step.Leads.ite (fun _ => Step.leads_pure.2 h) fun _ => Step.leads_pure.2 h

theorem arriveAt_calm (id : ComponentId) (core : CoreId) (barrier : Barrier) :
    Calm (arriveAt id core barrier) := by
  unfold arriveAt
  cases barrier.arrive with
  | mk arrival barrier =>
    refine (setBarrier_calm _ _).bind fun _ => ?_
    cases arrival with
    | leaves => exact (drive_calm _).bind fun _ => .pure
    | opens =>
      refine (note_calm _).bind fun _ => (log_calm _ _).bind fun _ => ?_
      exact (drive_calm _).bind fun _ => .pure
    | waits => exact parkAt_calm _ _ _

theorem signalDone_calm (id : ComponentId) (core : CoreId) (parallel : Bool) (mode : MainMode) :
    Calm (signalDone id core parallel mode) := by
  refine (knownBarrier_calm id).bind fun barrier => ?_
  split
  · exact .refuse rfl
  · exact (note_calm _).bind fun _ => arriveAt_calm _ _ _
  · exact arriveAt_calm _ _ _
  · exact (drive_calm _).bind fun _ => .pure

theorem signalExit_calm (id : ComponentId) (retval : Int32) : Calm (signalExit id retval) := by
  refine (knownBarrier_calm id).bind fun _ => (drive_calm _).bind fun _ => ?_
  exact (note_calm _).bind fun _ => log_calm _ _

namespace Service

/-! ### Permission -/

theorem deny_calm (caller target : ComponentId) : Calm (deny caller target : Operation α) := by
  refine (log_calm _ _).bind fun _ => (note_calm _).bind fun _ => ?_
  exact .refuse rfl

theorem acting_calm (i : Invocation) : Calm (acting i) := by
  refine fun b h => (acting_leads i).mono ?_ ?_
  · rintro _ _ ⟨rfl, _⟩
    exact h
  · rintro why _ ⟨rfl, rfl, _⟩
    exact .refused h rfl not_false

theorem authorize_calm (image : Image) (caller client : ComponentId) :
    Calm (authorize image caller client) := by
  refine (knownComponent_calm client).bind fun record b h => ?_
  exact Step.Leads.ite (fun _ => Step.leads_pure.2 h) fun _ => deny_calm _ _ b h

/-! ### Requests that overrun -/

/-- Whether a span is on record and can be mapped once more, but has no room
where it is to be mapped. -/
def spanOverruns (b : Broker) (id : Nat) (into : ComponentId) (align : UInt64) : Bool :=
  (b.spans.at? id).any fun span =>
    b.spanHasRoom span && !b.kernel.hasRoom into align span.nPages.toNat

/-- Whether a request gets as far as a mapping for which the address space has
no room. -/
def overruns (b : Broker) (i : Invocation) : Request → Bool
  | .allocateHeapPages count align =>
    b.hasComponent i.caller && (aligns align && (b.givesPages count.toNat &&
      !b.kernel.hasRoom i.caller (align.getD 4096) count.toNat))
  | .mapPhysicalRegion paddr size =>
    b.hasComponent i.caller && ((size != 0 && Kernel.deviceRangeFits paddr size) &&
      !b.kernel.hasRoom i.caller 4096 (Kernel.devicePages paddr size))
  | .allocateSharedPages count align =>
    b.hasComponent i.caller && (aligns align && (b.spans.hasFree && (b.givesPages count.toNat &&
      !b.kernel.hasRoom i.caller (align.getD 4096) count.toNat)))
  | .mapSharedSpan span align =>
    b.hasComponent i.caller && (aligns align &&
      spanOverruns b span.toNat i.caller (align.getD 4096))
  | .mapSharedSpanInVm vm span align =>
    (b.component? vm).any (·.manager? == some i.caller) && (aligns align &&
      spanOverruns b span.toNat vm (align.getD 4096))
  | .allocateContiguousPages count =>
    b.hasComponent i.caller && (b.givesContig count.toNat &&
      !b.kernel.hasRoom i.caller 4096 count.toNat)
  | .allocateContiguousShared count align =>
    b.hasComponent i.caller && (aligns align && (b.spans.hasFree && (b.givesContig count.toNat &&
      !b.kernel.hasRoom i.caller (align.getD 4096) count.toNat)))
  | _ => false

theorem spanOverruns_iff {id : Nat} {into : ComponentId} {align : UInt64} :
    spanOverruns b id into align = true ↔ ∃ span, b.spans.at? id = some span ∧
      b.spanHasRoom span = true ∧ ¬ b.kernel.hasRoom into align span.nPages.toNat = true := by
  unfold spanOverruns
  rw [Option.any_eq_true]
  refine exists_congr fun span => and_congr_right fun _ => ?_
  rw [Bool.and_eq_true, Bool.not_eq_true', Bool.not_eq_true]

/-- From the state, the operation aborts if and only if `beyond`; its answers are
in `post`. -/
def AbortsIff (s : Operation α) (b : Broker) (beyond : Bool) (post : α → Prop) : Prop :=
  s.Leads b (fun a b' => ¬ beyond = true ∧ post a ∧ b'.Sound) (Ends (beyond = true))

theorem not_and_of_left {c beyond : Bool} (h : ¬ c = true) : ¬ (c && beyond) = true := by
  rw [Bool.and_eq_true]
  exact fun hboth => h hboth.1

theorem and_not_iff {c room : Bool} : (c && !room) = true ↔ c = true ∧ ¬ room = true := by
  rw [Bool.and_eq_true, Bool.not_eq_true', Bool.not_eq_true]

/-- A caller without a record is refused. -/
theorem acting_abortsIff {i : Invocation} {f : ComponentId → Operation α} {post : α → Prop}
    {beyond : Bool} (h : b.Sound)
    (hf : b.hasComponent i.caller = true → AbortsIff (f i.caller) b beyond post) :
    AbortsIff (acting i >>= f) b (b.hasComponent i.caller && beyond) post := by
  refine acting_leads_bind (fun hnone => .refused h rfl (not_and_of_left hnone)) fun hcaller => ?_
  rw [hcaller, Bool.true_and]
  exact hf hcaller

/-- Who does not manage a virtual machine is denied. -/
theorem managing_abortsIff {i : Invocation} {vm : ComponentId} {s : Operation α} {post : α → Prop}
    {beyond : Bool} (h : b.Sound) (hs : b.hasComponent vm = true → AbortsIff s b beyond post) :
    AbortsIff (knownComponent vm >>= fun machine =>
        if machine.manager? ≠ some i.caller then deny i.caller vm else s) b
      ((b.component? vm).any (·.manager? == some i.caller) && beyond) post := by
  refine managing_leads (fun hnone => ?_) (fun machine hvm hother trail journal => ?_) ?_
  · refine .refused h rfl (not_and_of_left ?_)
    rw [hnone]
    exact Bool.false_ne_true
  · refine .refused h.of_notes rfl (not_and_of_left ?_)
    rw [hvm, Option.any_some, beq_iff_eq]
    exact hother
  · intro machine hvm hmanager
    rw [hvm, Option.any_some, beq_iff_eq.2 hmanager, Bool.true_and]
    exact hs (Option.isSome_iff_exists.2 ⟨machine, hvm⟩)

/-- An alignment that may not be asked for is refused. -/
theorem alignment_abortsIff {align : Option UInt64} {f : UInt64 → Operation α} {post : α → Prop}
    {beyond : Bool} (h : b.Sound)
    (hf : pageSize ∣ (align.getD 4096).toNat → AbortsIff (f (align.getD 4096)) b beyond post) :
    AbortsIff (alignment align >>= f) b (aligns align && beyond) post := by
  refine alignment_leads_bind (fun hnot => .refused h rfl (not_and_of_left hnot)) ?_
  intro haligns hdvd
  rw [haligns, Bool.true_and]
  exact hf hdvd

/-! ### Threads and endpoints -/

theorem createClientThread_calm (image : Image) (i : Invocation) (client : ComponentId) :
    Calm (createClientThread image i client) := by
  refine (authorize_calm image i.caller client).bind fun _ => ?_
  exact (createThread_calm client i.caller).bind fun _ => .pure

theorem createThreadThunk_calm (i : Invocation) : Calm (createThreadThunk i) :=
  (acting_calm i).bind fun caller => (createThread_calm caller caller).bind fun _ => .pure

theorem createVcpu_calm (i : Invocation) (vm : ComponentId) : Calm (createVcpu i vm) := by
  refine (knownComponent_calm vm).bind fun machine => ?_
  split
  · exact .refuse rfl
  · exact fun b h => Step.Leads.ite (fun _ => deny_calm _ _ b h) fun _ =>
      (createThread_calm vm i.caller).bind (fun _ => .pure) b h

theorem createEndpointPair_calm (i : Invocation) : Calm (createEndpointPair i) := by
  refine (acting_calm i).bind fun caller => ?_
  refine (createReceiveEndpoint_calm caller i.core).bind fun created => ?_
  intro b h
  apply Step.Leads.bind ((createSendEndpoint_calm caller created.rcv).attempt h)
  rintro result b ⟨h, hcaught⟩
  cases result with
  | ok answer => exact Step.leads_pure.2 h
  | error failure =>
    refine Calm.bind (revokeReceiveEndpoint_calm created) (fun _ => ?_) b h
    exact .refuse (hcaught failure rfl)

/-! ### Memory -/

variable {i : Invocation} {count : UInt64} {align : Option UInt64}

theorem allocateHeapPages_abortsIff (h : b.Sound) :
    AbortsIff (allocateHeapPages i count.toNat align) b
      (overruns b i (.allocateHeapPages count align)) fun _ => True := by
  refine acting_abortsIff h fun hcaller => alignment_abortsIff h fun ha => ?_
  have hinto : ∀ id, some i.caller = some id → b.hasComponent id = true := by
    rintro _ ⟨⟩
    exact hcaller
  refine Step.leads_bind.2 ((allocatePages_leads h hinto ha ?_).mono ?_ fun _ _ hends => hends)
  · rw [and_not_iff]
    constructor
    · rintro ⟨hgives, hroom⟩
      exact ⟨hgives, i.caller, rfl, hroom⟩
    · rintro ⟨hgives, _, ⟨⟩, hroom⟩
      exact ⟨hgives, hroom⟩
  · rintro ⟨head, vaddr⟩ b' ⟨hoff, _, hsound, _⟩
    exact Step.leads_pure.2 ⟨hoff, trivial, hsound⟩

theorem mapPhysicalRegion_abortsIff {paddr : Paddr} {size : UInt64} (h : b.Sound) :
    AbortsIff (mapPhysicalRegion i paddr size) b
      (overruns b i (.mapPhysicalRegion paddr size)) fun _ => True := by
  refine acting_abortsIff h fun hcaller => ?_
  refine (mapPhysical_leads h hcaller ?_).mono ?_ fun _ _ hends => hends
  · rw [and_not_iff, Bool.and_eq_true, bne_iff_ne]
  · exact fun _ _ hpost => ⟨hpost.1, trivial, hpost.2⟩

theorem allocateSharedPages_abortsIff (h : b.Sound) :
    AbortsIff (allocateSharedPages i count.toNat align) b
      (overruns b i (.allocateSharedPages count align)) (·.1 < Pool.capacityLimit) := by
  refine acting_abortsIff h fun hcaller => alignment_abortsIff h fun ha => ?_
  apply allocateShared_leads h hcaller ha
  rw [Bool.and_eq_true, and_not_iff]

theorem mapSharedSpan_abortsIff {span : UInt32} (h : b.Sound) :
    AbortsIff (mapSharedSpan i span.toNat align) b
      (overruns b i (.mapSharedSpan span align)) (·.1 < UInt32.size) := by
  refine acting_abortsIff h fun hcaller => alignment_abortsIff h fun ha => ?_
  exact mapSpan_leads h hcaller ha spanOverruns_iff

theorem mapSharedSpanInVm_abortsIff {vm : ComponentId} {span : UInt32} (h : b.Sound) :
    AbortsIff (mapSharedSpanInVm i vm span.toNat align) b
      (overruns b i (.mapSharedSpanInVm vm span align)) (·.1 < UInt32.size) := by
  refine managing_abortsIff h fun hvm => alignment_abortsIff h fun ha => ?_
  exact mapSpan_leads h hvm ha spanOverruns_iff

theorem allocateContiguousPages_abortsIff (h : b.Sound) :
    AbortsIff (allocateContiguousPages i count.toNat) b
      (overruns b i (.allocateContiguousPages count)) fun _ => True := by
  refine acting_abortsIff h fun hcaller => ?_
  refine Step.leads_map.2 ((carveContig_leads h hcaller (by decide) and_not_iff).mono ?_
    fun _ _ hends => hends)
  rintro ⟨head, vaddr⟩ b' ⟨hoff, _, hsound, _⟩
  exact ⟨hoff, trivial, hsound⟩

theorem allocateContiguousSpan_abortsIff (h : b.Sound) :
    AbortsIff (allocateContiguousSpan i count.toNat align) b
      (overruns b i (.allocateContiguousShared count align)) (·.1 < Pool.capacityLimit) := by
  refine acting_abortsIff h fun hcaller => alignment_abortsIff h fun ha => ?_
  apply allocateContiguousShared_leads h hcaller ha
  rw [Bool.and_eq_true, and_not_iff]

/-! ### Requests -/

theorem abortsIff_of_calm {s : Operation α} (hs : Calm s) (h : b.Sound) :
    AbortsIff s b false fun _ => True := by
  refine (hs b h).mono (fun _ _ hsound => ⟨Bool.false_ne_true, trivial, hsound⟩) ?_
  rintro why b' ⟨hsound, hwhy⟩
  exact ⟨hsound, hwhy.imp (fun h => h.2.elim) fun h => ⟨h.1, Bool.false_ne_true⟩⟩

theorem AbortsIff.map {β : Type} {s : Operation α} {beyond : Bool} {post : α → Prop} {g : α → β}
    (hs : AbortsIff s b beyond post) : AbortsIff (g <$> s) b beyond fun _ => True :=
  Step.leads_map.2 (hs.mono (fun _ _ hpost => ⟨hpost.1, trivial, hpost.2.2⟩)
    fun _ _ hends => hends)

/-- The number of a span fits a word of the reply. -/
theorem spanReply_abortsIff {s : Operation (Nat × Vaddr)} {beyond : Bool}
    (hs : AbortsIff s b beyond (·.1 < Pool.capacityLimit)) :
    AbortsIff (s >>= spanReply) b beyond fun _ => True := by
  refine Step.leads_bind.2 (hs.mono ?_ fun _ _ hends => hends)
  rintro answer b' ⟨hover, hfits, hsound⟩
  refine Step.Leads.exact_bind (fun _ _ => Step.leads_pure.2 ⟨hover, trivial, hsound⟩) ?_
  intro hnone
  rw [word32?_eq_none_iff] at hnone
  exact absurd hfits (Nat.not_lt.2 hnone)

/-- So does the number of its pages. -/
theorem mappedReply_abortsIff {s : Operation (Nat × Vaddr)} {beyond : Bool}
    (hs : AbortsIff s b beyond (·.1 < UInt32.size)) :
    AbortsIff (s >>= mappedReply) b beyond fun _ => True := by
  refine Step.leads_bind.2 (hs.mono ?_ fun _ _ hends => hends)
  rintro answer b' ⟨hover, hfits, hsound⟩
  refine Step.Leads.exact_bind (fun _ _ => Step.leads_pure.2 ⟨hover, trivial, hsound⟩) ?_
  intro hnone
  rw [word64?_eq_none_iff] at hnone
  exact absurd (Nat.lt_trans hfits (by decide)) (Nat.not_lt.2 hnone)

theorem perform_abortsIff (image : Image) (h : b.Sound) (i : Invocation) (request : Request) :
    AbortsIff (perform image i request) b (overruns b i request) fun _ => True := by
  cases request with
  | createThread client entry =>
    exact (abortsIff_of_calm (createClientThread_calm image i client) h).map.map
  | createThreadThunk entry => exact (abortsIff_of_calm (createThreadThunk_calm i) h).map.map
  | createInitThread client =>
    exact (abortsIff_of_calm (createClientThread_calm image i client) h).map.map
  | createVcpu vm entry => exact (abortsIff_of_calm (createVcpu_calm i vm) h).map.map
  | createReceiveEndpoint entry flags =>
    exact (abortsIff_of_calm (createEndpointPair_calm i) h).map.map
  | createVmComponent =>
    exact (abortsIff_of_calm ((acting_calm i).bind fun caller => createVm_calm caller) h).map.map
  | translate vaddr =>
    refine AbortsIff.map (AbortsIff.map (abortsIff_of_calm ?_ h))
    exact (acting_calm i).bind fun caller => translate_calm caller vaddr
  | allocateHeapPages count align => exact (allocateHeapPages_abortsIff h).map.map
  | mapPhysicalRegion paddr size => exact (mapPhysicalRegion_abortsIff h).map.map
  | allocateSharedPages count align =>
    exact (spanReply_abortsIff (allocateSharedPages_abortsIff h)).map
  | mapSharedSpan span align => exact (mappedReply_abortsIff (mapSharedSpan_abortsIff h)).map
  | mapSharedSpanInVm vm span align =>
    exact (mappedReply_abortsIff (mapSharedSpanInVm_abortsIff h)).map
  | allocateContiguousPages count => exact (allocateContiguousPages_abortsIff h).map.map
  | allocateContiguousShared count align =>
    exact (spanReply_abortsIff (allocateContiguousSpan_abortsIff h)).map
  | signalInitDone parallel mode =>
    refine AbortsIff.map (abortsIff_of_calm ?_ h)
    exact (acting_calm i).bind fun caller => signalDone_calm caller i.core parallel mode
  | signalInitExit retval =>
    refine AbortsIff.map (AbortsIff.map (abortsIff_of_calm ?_ h))
    exact (acting_calm i).bind fun caller => signalExit_calm caller retval

/-- A request that overruns aborts; any other is answered. -/
theorem dispatch_leads (image : Image) (h : b.Sound) (i : Invocation) (request : Request) :
    (dispatch image i request).Leads b
      (fun _ b' => ¬ overruns b i request = true ∧ b'.Sound)
      (fun why b' => why = .abort ∧ overruns b i request = true ∧ b'.Sound) := by
  refine Step.leads_bind.2 (Step.leads_attempt.2 ((perform_abortsIff image h i request).mono ?_ ?_))
  · rintro progress b' ⟨hover, _, hsound⟩
    exact Step.leads_pure.2 ⟨hover, hsound⟩
  · rintro why b' ⟨hsound, ⟨rfl, hover⟩ | ⟨⟨failure, rfl, hordinary⟩, hover⟩⟩
    · exact ⟨nofun, fun _ => ⟨rfl, hover, hsound⟩⟩
    -- A refusal is no defect, so that it becomes the empty reply.
    · refine ⟨?_, nofun⟩
      rintro _ ⟨⟩
      dsimp only
      rw [hordinary]
      exact Step.Leads.modify_bind (Step.leads_pure.2 ⟨hover, hsound.of_notes⟩)

end Service

end CapabilityBroker
