/-
CapabilityBroker/Proofs/Move/Service.lean

Every request is about objects or about memory.

What it comes to does not matter: a request that is refused, or aborts, has
moved the state in the same way as one that is answered.  The parts that the
cores do are about objects.
-/
import CapabilityBroker.Proofs.Advance.Boot
import CapabilityBroker.Proofs.Move.Memory
import CapabilityBroker.Proofs.Move.Object
import CapabilityBroker.Proofs.Run

namespace CapabilityBroker

open Step (Stays StaysFrom)

/-- Requests add virtual machines, which have no resources on record. -/
def machinesOnly (_ : ComponentId) (resources : Option Kernel.Resources) : Prop :=
  resources = none

/-- The number of pages that a request asks for off the contiguous region. -/
def Request.carves? : Request → Option UInt64
  | .allocateContiguousPages count => some count
  | .allocateContiguousShared count _ => some count
  | _ => none

/-- One operation on objects, or one on memory. -/
def Broker.Move (b b' : Broker) : Prop := b.ObjectMove machinesOnly b' ∨ b.MemoryMove b'

namespace Service

variable {adds : ComponentId → Option Kernel.Resources → Prop} {i : Invocation}

/-! ### Requests about objects -/

/-- Where only the send endpoint is refused, the receive endpoint is torn down. -/
theorem createEndpointPair_objects : Stays (Broker.ObjectMove adds) (createEndpointPair i) := by
  refine fun b => acting_bind ?_
  refine (createReceiveEndpoint_objects _ _).bind (fun created => ?_) b
  refine (createSendEndpoint_objects _ _).attempt.bind fun result => ?_
  cases result with
  | ok pair => exact .pure
  | error failure => exact (revokeReceiveEndpoint_objects created).bind fun _ => .refuse

/-- A relation between states that admits the operations on threads and endpoints, on
request or as a core's part of the start. -/
structure AdmitsThreads (R : Broker → Broker → Prop) : Prop extends AdmitsNotes R where
  createThread : ∀ client sched, Stays R (createThread client sched)
  createInitThread : ∀ component core, Stays R (createInitThread component core)
  createSchedExecution : ∀ component core, Stays R (createSchedExecution component core)
  createEndpointPair : ∀ i, Stays R (createEndpointPair i)

/-- It admits the creation of virtual machines too, and the signals of the
initialization. -/
structure AdmitsObjects (R : Broker → Broker → Prop) : Prop extends AdmitsThreads R where
  signals : IgnoresSignals R
  createVm : ∀ manager, Stays R (createVm manager)

theorem objects_admit : AdmitsObjects (Broker.ObjectMove machinesOnly) where
  toAdmitsNotes := objects_tacit.notes
  createThread := createThread_objects
  createInitThread := createInitThread_objects
  createSchedExecution := createSchedExecution_objects
  createEndpointPair _ := createEndpointPair_objects
  signals := objects_tacit.ignoresSignals
  createVm manager := createVm_objects manager fun _ => rfl

section Denial

variable {R : Broker → Broker → Prop} [IsPreorder Broker R]

theorem deny_noted (h : AdmitsNotes R) {α : Type} (caller target : ComponentId) :
    Stays R (deny caller target : Operation α) :=
  (h.log _ _).bind fun _ => (h.note rfl).bind fun _ => .refuse

end Denial

/-! ### Requests about memory -/

section Memory

variable {K : Kernel → Kernel → Prop} {R : Broker → Broker → Prop} [IsPreorder Broker R]

/-- An alignment that may be asked for is one of whole pages. -/
theorem alignment_bind {α : Type} {align : Option UInt64} {f : UInt64 → Operation α}
    (h : ∀ a, WholePages a → Stays R (f a)) : Stays R (alignment align >>= f) := by
  refine fun b => alignment_leads_bind (fun _ => refl_of R b) fun haligns hdvd => ?_
  refine h _ ⟨fun hzero => ?_, hdvd⟩ b
  unfold aligns at haligns
  rw [hzero] at haligns
  exact absurd haligns (by decide)

theorem mapSharedSpanInVm_mappings (h : AdmitsMappings K R) (vm : ComponentId) (span : Nat)
    (align : Option UInt64) : Stays R (mapSharedSpanInVm i vm span align) :=
  fun b => knownComponent_bind fun _ _ => .ite (fun _ => deny_noted h.toAdmitsNotes _ _ b) fun _ =>
    alignment_bind (fun _ ha => h.mapSpan span vm ha) b

end Memory

/-! ### All requests -/

/-- Whether a request is about components, threads, endpoints or the start. -/
def isAboutObjects : Request → Bool
  | .createThread .. | .createThreadThunk .. | .createInitThread .. | .createVcpu .. => true
  | .createReceiveEndpoint .. | .createVmComponent => true
  | .signalInitDone .. | .signalInitExit .. => true
  | _ => false

/-- Whether a request is a signal of the initialization. -/
def isSignal : Request → Bool
  | .signalInitDone .. | .signalInitExit .. => true
  | _ => false

namespace AdmitsThreads

variable {R : Broker → Broker → Prop} [IsPreorder Broker R]

theorem createClientThread (h : AdmitsThreads R) (image : Image) (client : ComponentId) :
    Stays R (createClientThread image i client) := by
  have hauthorize : Stays R (authorize image i.caller client) := fun _ =>
    knownComponent_bind fun _ _ =>
      .ite (fun _ => Stays.pure _) fun _ => deny_noted h.toAdmitsNotes _ _ _
  exact hauthorize.bind fun _ => (h.createThread _ _).bind fun _ => .pure

theorem createVcpu (h : AdmitsThreads R) (vm : ComponentId) : Stays R (createVcpu i vm) := by
  refine fun b => knownComponent_bind fun machine _ => ?_
  split
  · exact Stays.refuse b
  · refine .ite (fun _ => deny_noted h.toAdmitsNotes _ _ b) fun _ => ?_
    exact (h.createThread _ _).bind (fun _ => Stays.pure) b

theorem perform (h : AdmitsThreads R) (image : Image) (i : Invocation) {request : Request}
    (hrequest : isAboutObjects request = true) (hvm : request ≠ .createVmComponent)
    (hsignal : isSignal request = false) : Stays R (perform image i request) := by
  cases request with
  | createThread client entry => exact (h.createClientThread image client).map.map
  | createThreadThunk entry =>
    refine Stays.map (Stays.map fun b => acting_bind ?_)
    exact (h.createThread _ _).bind (fun _ => Stays.pure) b
  | createInitThread client => exact (h.createClientThread image client).map.map
  | createVcpu vm entry => exact (h.createVcpu vm).map.map
  | createReceiveEndpoint entry flags => exact (h.createEndpointPair i).map.map
  | createVmComponent => exact absurd rfl hvm
  | signalInitDone parallel mode => cases hsignal
  | signalInitExit retval => cases hsignal
  | _ => cases hrequest

theorem parallelInit (h : AdmitsThreads R) (image : Image) (core : CoreId) (isInitCore : Bool) :
    Stays R (parallelInit image core isInitCore) := by
  have hlog : ∀ message, Stays R (logFirst isInitCore message) :=
    fun _ => .ite (h.log _ _) .pure
  refine (hlog _).bind fun _ => .each fun planned _ => ?_
  obtain ⟨id, kind⟩ := planned
  refine .ite (fun _ => .refuse_bind) (.get_bind fun b => ?_)
  refine .ite (fun _ => .refuse_bind) fun _ => ?_
  cases kind with
  | sched => exact (h.createSchedExecution id core).explain.bind (fun _ => hlog _) b
  | init => exact (h.createInitThread id core).explain.bind (fun _ => hlog _) b

end AdmitsThreads

section Signals

variable {R : Broker → Broker → Prop} [IsPreorder Broker R]

theorem perform_signal (h : IgnoresSignals R) (image : Image) (i : Invocation) {request : Request}
    (hsignal : isSignal request = true) : Stays R (perform image i request) := by
  cases request with
  | signalInitDone parallel mode =>
    exact Stays.map fun b => acting_bind (h.signalDone _ _ parallel mode b)
  | signalInitExit retval =>
    exact Stays.map (Stays.map fun b => acting_bind (h.signalExit _ retval b))
  | _ => cases hsignal

theorem parallelMain_signals (h : IgnoresSignals R) (image : Image) (core : CoreId) :
    Stays R (parallelMain image core) :=
  .each fun _ _ => (h.beginInit _ _).explain.bind fun _ => .pure

end Signals

/-- Of all requests about objects, one makes a component, and two are signals. -/
theorem AdmitsObjects.perform {R : Broker → Broker → Prop} [IsPreorder Broker R]
    (h : AdmitsObjects R) (image : Image) (i : Invocation) {request : Request}
    (hrequest : isAboutObjects request = true) : Stays R (perform image i request) := by
  by_cases hvm : request = .createVmComponent
  · subst hvm
    exact Stays.map (Stays.map fun b => acting_bind (h.createVm _ b))
  · cases hsignal : isSignal request with
    | true => exact perform_signal h.signals image i hsignal
    | false => exact h.toAdmitsThreads.perform image i hrequest hvm hsignal

theorem perform_objects (image : Image) (i : Invocation) {request : Request}
    (h : isAboutObjects request = true) :
    Stays (Broker.ObjectMove machinesOnly) (perform image i request) :=
  objects_admit.perform image i h

section Memory

variable {K : Kernel → Kernel → Prop} {R : Broker → Broker → Prop} [IsPreorder Broker R]

/-- Every other request is admitted wherever operations on pages and spans are, if it
leaves the contiguous region alone. -/
theorem perform_mappings (h : AdmitsMappings K R) (image : Image) (i : Invocation)
    {request : Request} (hrequest : ¬ isAboutObjects request = true)
    (hregion : request.carves? = none) : Stays R (perform image i request) := by
  cases request with
  | translate vaddr =>
    exact Stays.map (Stays.map fun b => acting_bind (translate_stays _ _ b))
  | allocateHeapPages count align =>
    refine Stays.map (Stays.map fun b => acting_bind ?_)
    exact alignment_bind (fun _ ha => (h.allocatePages _ _ ha).bind fun _ => .pure) b
  | mapPhysicalRegion paddr size =>
    exact Stays.map (Stays.map fun b => acting_bind (h.mapPhysical _ _ _ b))
  | allocateSharedPages count align =>
    refine Stays.map (Stays.bind (fun b => acting_bind ?_) spanReply_stays)
    exact alignment_bind (fun _ ha => h.allocateShared _ _ ha) b
  | mapSharedSpan span align =>
    refine Stays.map (Stays.bind (fun b => acting_bind ?_) mappedReply_stays)
    exact alignment_bind (fun _ ha => h.mapSpan _ _ ha) b
  | mapSharedSpanInVm vm span align =>
    exact ((mapSharedSpanInVm_mappings h vm _ align).bind mappedReply_stays).map
  | allocateContiguousPages count => cases hregion
  | allocateContiguousShared count align => cases hregion
  | _ => exact absurd rfl hrequest

/-- Wherever operations on memory are, it is admitted at all. -/
theorem perform_memory (h : AdmitsMemory K R) (image : Image) (i : Invocation)
    {request : Request} (hrequest : ¬ isAboutObjects request = true) :
    Stays R (perform image i request) := by
  cases hregion : request.carves? with
  | none => exact perform_mappings h.toAdmitsMappings image i hrequest hregion
  | some count =>
    cases request with
    | allocateContiguousPages count =>
      refine Stays.map (Stays.map fun b => acting_bind ?_)
      exact (h.carveContig _ _ wholePages_native).map b
    | allocateContiguousShared count align =>
      refine Stays.map (Stays.bind (fun b => acting_bind ?_) spanReply_stays)
      exact alignment_bind (fun _ ha => h.allocateContiguousShared _ _ ha) b
    | _ => cases hregion

end Memory

theorem perform_moves (image : Image) (i : Invocation) (request : Request) :
    Stays (Broker.ObjectMove machinesOnly) (perform image i request) ∨
      Stays Broker.MemoryMove (perform image i request) := by
  by_cases h : isAboutObjects request = true
  · exact .inl (perform_objects image i h)
  · exact .inr (perform_memory memory_admits image i h)

theorem dispatch_stays {R : Broker → Broker → Prop} [IsPreorder Broker R] {image : Image}
    {request : Request}
    (hlog : ∀ level message, Stays R (log level message : Step Broker Defect Unit))
    (h : Stays R (perform image i request)) : Stays R (dispatch image i request) :=
  fun b => dispatch_staysFrom_of hlog (h b)

/-- A refusal becomes the empty reply, and a line in the journal; a defect and an
abort stay what they are. -/
theorem dispatch_walks {image : Image} {request : Request} {b : Broker}
    {post : Progress Reply → Broker → Prop} {stop : Stop Defect → Broker → Prop}
    (h : (perform image i request).Leads b post (fun why b' =>
      (∀ failure, why = .refused failure → failure.defect? = none →
        ∀ journal, post (.finished (.nullFor request)) { b' with journal }) ∧
      (∀ failure defect, why = .refused failure → failure.defect? = some defect →
        stop (.refused defect) b') ∧
      (why = .abort → stop .abort b'))) :
    (dispatch image i request).Leads b post stop := by
  refine Step.leads_bind.2 (Step.leads_attempt.2 (h.mono ?_ ?_))
  · exact fun progress b' hpost => Step.leads_pure.2 hpost
  · rintro why b' ⟨hplain, hdefect, habort⟩
    refine ⟨fun failure hwhy => ?_, habort⟩
    dsimp only
    split
    · next defect hd => exact Step.leads_refuse.2 (hdefect failure defect hwhy hd)
    · next hd => exact Step.Leads.modify_bind (Step.leads_pure.2 (hplain failure hwhy hd _))

/-- Of the states an operation leaves behind, a dispatch adds lines to the journal. -/
theorem dispatch_final {P : Broker → Prop} {image : Image} {request : Request} {b : Broker}
    (hjournal : ∀ b' journal, P b' → P { b' with journal })
    (h : (perform image i request).Leads b (fun _ => P) fun _ => P) :
    P ((dispatch image i request).final b) :=
  (dispatch_walks (h.mono (fun _ _ => id) fun _ _ hb' =>
    ⟨fun _ _ _ _ => hjournal _ _ hb', fun _ _ _ _ => hb', fun _ => hb'⟩)).final

theorem dispatch_moves (image : Image) (i : Invocation) (request : Request) (b : Broker) :
    b.Move ((dispatch image i request).final b) := by
  rcases perform_moves image i request with h | h
  · exact .inl (dispatch_stays (fun _ _ => objects_tacit.log _ _) h b).final
  · exact .inr (dispatch_stays (fun _ _ => memory_admits.log _ _) h b).final

/-! ### Each core's part -/

/-- Whether an action is a signal of the initialization, or sends some. -/
def Action.isSignal : Action → Bool
  | .request _ r => Service.isSignal r
  | .parallelInit .. => false
  | .parallelMain _ => true

/-- A preorder that admits operations on threads and on memory admits every action
that makes no virtual machine and is no signal. -/
theorem Action.stays_of_threads {K : Kernel → Kernel → Prop} {R : Broker → Broker → Prop}
    [IsPreorder Broker R] (ht : AdmitsThreads R) (hm : AdmitsMemory K R) (image : Image)
    {action : Action} (hvm : ∀ i, action ≠ .request i .createVmComponent)
    (hsignal : action.isSignal = false) (b : Broker) : R b (action.after image b) := by
  cases action with
  | request i r =>
    have hperform : Stays R (perform image i r) := by
      by_cases h : isAboutObjects r = true
      · exact ht.perform image i h (fun heq => hvm i (heq ▸ rfl)) hsignal
      · exact perform_memory hm image i h
    exact (dispatch_stays (fun _ _ => hm.log _ _) hperform b).final
  | parallelInit core isInitCore => exact (ht.parallelInit image core isInitCore b).final
  | parallelMain core => cases hsignal

/-- A preorder that ignores signals admits them. -/
theorem Action.stays_of_signals {R : Broker → Broker → Prop} [IsPreorder Broker R]
    (hn : AdmitsNotes R) (hs : IgnoresSignals R) (image : Image) {action : Action}
    (hsignal : action.isSignal = true) (b : Broker) : R b (action.after image b) := by
  cases action with
  | request i r =>
    exact (dispatch_stays (fun _ _ => hn.log _ _) (perform_signal hs image i hsignal) b).final
  | parallelInit core isInitCore => cases hsignal
  | parallelMain core => exact (parallelMain_signals hs image core b).final

/-- Both together leave the creation of virtual machines. -/
theorem Action.stays_unless_vm {K : Kernel → Kernel → Prop} {R : Broker → Broker → Prop}
    [IsPreorder Broker R] (ht : AdmitsThreads R) (hs : IgnoresSignals R) (hm : AdmitsMemory K R)
    (image : Image) {action : Action} (hvm : ∀ i, action ≠ .request i .createVmComponent)
    (b : Broker) : R b (action.after image b) := by
  cases hsignal : action.isSignal with
  | true => exact action.stays_of_signals ht.toAdmitsNotes hs image hsignal b
  | false => exact action.stays_of_threads ht hm image hvm hsignal b

/-- If it admits the creation of virtual machines too, it admits every action. -/
theorem Action.stays {K : Kernel → Kernel → Prop} {R : Broker → Broker → Prop}
    [IsPreorder Broker R] (ho : AdmitsObjects R) (hm : AdmitsMemory K R) (image : Image)
    (action : Action) (b : Broker) : R b (action.after image b) := by
  by_cases hvm : ∃ i, action = .request i .createVmComponent
  · obtain ⟨i, rfl⟩ := hvm
    exact (dispatch_stays (fun _ _ => hm.log _ _) (ho.perform image i rfl) b).final
  · exact action.stays_unless_vm ho.toAdmitsThreads ho.signals hm image
      (fun i heq => hvm ⟨i, heq⟩) b

theorem parallelInit_objects (image : Image) (core : CoreId) (isInitCore : Bool) :
    Stays (Broker.ObjectMove machinesOnly) (parallelInit image core isInitCore) :=
  objects_admit.parallelInit image core isInitCore

theorem parallelMain_objects (image : Image) (core : CoreId) :
    Stays (Broker.ObjectMove machinesOnly) (parallelMain image core) :=
  parallelMain_signals objects_admit.signals image core

/-- Whatever happens after the start is a move of one of the two kinds. -/
theorem Action.moves (image : Image) (action : Action) (b : Broker) :
    b.Move (action.after image b) := by
  cases action with
  | request i r => exact dispatch_moves image i r b
  | parallelInit core isInitCore => exact .inl (parallelInit_objects image core isInitCore b).final
  | parallelMain core => exact .inl (parallelMain_objects image core b).final

end Service

end CapabilityBroker
