/-
CapabilityBroker/Proofs/Move/Parts.lean

Operations on threads and endpoints, part by part.

They ask the kernel for primitives that bring no component, keep and publish
records of threads and endpoints, enter scheduling endpoints, and write down what
they did.  A preorder that has all of these (`AdmitsParts`) has the operations, and
what requests and cores make of them.
-/
import CapabilityBroker.Proofs.Move.Service

namespace CapabilityBroker

open Step (Stays)

/-- Everything may be done but renaming. -/
def Kernel.Warrant.nameless : Kernel.Warrant := ⟨fun _ => True, fun _ => True, False⟩

namespace Service

/-- A relation between states that admits what operations on threads and endpoints
do to the parts of the state. -/
structure AdmitsParts (R : Broker → Broker → Prop) : Prop extends AdmitsNotes R where
  pools : ∀ (b : Broker) threads rcvs asnds, R b { b with threads, rcvs, asnds }
  endpoints : ∀ (b : Broker) holder core rcv, R b { b with
    components := b.components.modify holder fun c =>
      { c with schedRcvs := c.schedRcvs.insert core rcv } }
  ask : ∀ {α : Type} {s : Step Kernel Kernel.Refusal α}, Stays (Kernel.Advance .nameless) s →
    Stays (Kernel.ObjectMove fun _ => False) s → Stays R (askKernel s)

namespace AdmitsParts

variable {R : Broker → Broker → Prop}

theorem threads (h : AdmitsParts R) {S : Pool ThreadRecord → Pool ThreadRecord → Prop} :
    threadPool.Allows R S := fun b _ _ => h.pools b _ _ _

theorem rcvs (h : AdmitsParts R) {S : Pool RcvRecord → Pool RcvRecord → Prop} :
    rcvPool.Allows R S := fun b _ _ => h.pools b _ _ _

theorem asnds (h : AdmitsParts R) {S : Pool AsndRecord → Pool AsndRecord → Prop} :
    asndPool.Allows R S := fun b _ _ => h.pools b _ _ _

variable [IsPreorder Broker R]

theorem createThread (h : AdmitsParts R) (client sched : ComponentId) :
    Stays R (createThread client sched) := by
  refine (knownComponent_looks client).bind fun _ => (knownComponent_looks sched).bind fun _ => ?_
  refine (h.threads.askAny _).bind fun slot b => h.threads.holding ?_
  refine Stays.bind (h.ask (Kernel.createThread_stays client)
    (Kernel.makes_objectMove.createThread client)) (fun thread => ?_) b
  refine (h.ask (Kernel.aliasThread_stays thread trivial).attempt
    (Kernel.makes_objectMove.aliasThread thread sched).attempt).bind fun result => ?_
  cases result with
  | ok cap =>
    refine (h.threads.askAny _).bind fun _ => ?_
    exact (h.note rfl).bind fun _ => .pure
  | error refusal =>
    refine (h.threads.askAny _).bind fun _ => (h.log _ _).bind fun _ => ?_
    exact (h.note rfl).bind fun _ => .refuse

theorem createInitThread (h : AdmitsParts R) (component : ComponentId) (core : CoreId) :
    Stays R (createInitThread component core) := by
  refine (knownComponent_looks component).bind fun _ => ?_
  refine (h.threads.askAny _).bind fun slot b => h.threads.holding ?_
  refine Stays.bind (h.ask (Kernel.newThread_stays component)
    (Kernel.makes_objectMove.newThread component)) (fun thread => ?_) b
  exact (h.threads.askAny _).bind fun _ => (h.note rfl).bind fun _ => .pure

/-- The component becomes a scheduler on the core. -/
theorem createSchedExecution (h : AdmitsParts R) (component : ComponentId) (core : CoreId) :
    Stays R (createSchedExecution component core) := by
  refine .get_bind fun _ => .require_bind fun holder _ => ?_
  refine ((h.rcvs.askAny _).bind fun slot b => h.rcvs.holding ?_) _
  refine Stays.bind (h.ask (Kernel.newRcv_stays component)
    (Kernel.makes_objectMove.newRcv component)) (fun rcv => ?_) b
  refine (h.rcvs.askAny _).bind fun handle => ?_
  exact Stays.bind (.modify fun b => h.endpoints b holder core handle)
    fun _ => (h.note rfl).bind fun _ => .pure

theorem aliasOrRevokeRcv (h : AdmitsParts R) (rcv : Kernel.Rcv) (into : ComponentId) :
    Stays R (aliasOrRevokeRcv rcv into) := by
  refine (h.ask (Kernel.aliasRcv_stays rcv trivial).attempt
    (Kernel.makes_objectMove.aliasRcv rcv into).attempt).bind fun result => ?_
  cases result with
  | ok aliases => exact .pure
  | error refusal =>
    exact (h.ask (Kernel.revokeRcv_stays rcv) (Kernel.revokeRcv_moves rcv)).bind fun _ => .refuse

theorem aliasOrRevokeAsnd (h : AdmitsParts R) (asnd : Kernel.Asnd) (into : ComponentId) :
    Stays R (aliasOrRevokeAsnd asnd into) := by
  refine (h.ask (Kernel.aliasAsnd_stays trivial).attempt
    (Kernel.makes_objectMove.aliasAsnd into).attempt).bind fun result => ?_
  cases result with
  | ok cap => exact .pure
  | error refusal =>
    exact (h.ask (Kernel.revokeAsnd_stays asnd) (Kernel.revokeAsnd_moves asnd)).bind
      fun _ => .refuse

theorem createReceiveEndpoint (h : AdmitsParts R) (component : ComponentId) (core : CoreId) :
    Stays R (createReceiveEndpoint component core) := by
  refine (schedulingEndpoint_looks component core).bind fun _ => ?_
  refine (h.rcvs.askAny _).bind fun rcvSlot b => h.rcvs.holding ?_
  refine Stays.bind (h.threads.askAny _) (fun threadSlot b => h.threads.holding ?_) b
  refine Stays.bind (h.ask (Kernel.createRcv_stays component)
    (Kernel.makes_objectMove.createRcv component)) (fun rcv => ?_) b
  refine (h.aliasOrRevokeRcv rcv component).bind fun aliases => ?_
  refine (h.threads.askAny _).bind fun _ => (h.rcvs.askAny _).bind fun _ => ?_
  exact (h.note rfl).bind fun _ => .pure

theorem createSendEndpoint (h : AdmitsParts R) (component : ComponentId)
    (target : Handle RcvRecord) : Stays R (createSendEndpoint component target) := by
  refine (knownRcv_looks target).bind fun rcv => ?_
  refine (h.asnds.askAny _).bind fun slot b => h.asnds.holding ?_
  refine Stays.bind (h.ask (Kernel.createAsnd_stays rcv.kernel)
    (Kernel.makes_objectMove.createAsnd rcv.kernel)) (fun asnd => ?_) b
  refine (h.aliasOrRevokeAsnd asnd component).bind fun cap => ?_
  exact (h.asnds.askAny _).bind fun _ => (h.note rfl).bind fun _ => .pure

theorem revokeReceiveEndpoint (h : AdmitsParts R) (created : RcvCreated) :
    Stays R (revokeReceiveEndpoint created) := by
  refine (knownRcv_looks created.rcv).bind fun rcv => ?_
  refine (h.ask (Kernel.revokeRcvAlias_stays _ trivial)
    (Kernel.revokeRcvAlias_moves _ _)).bind fun _ => ?_
  refine (h.ask (Kernel.revokeRcv_stays _) (Kernel.revokeRcv_moves _)).bind fun _ => ?_
  refine (h.rcvs.askAny _).bind fun _ => (h.threads.askAny _).bind fun _ => ?_
  exact h.note rfl

theorem createEndpointPair (h : AdmitsParts R) (i : Invocation) :
    Stays R (createEndpointPair i) := by
  refine fun b => acting_bind ?_
  refine Stays.bind (h.createReceiveEndpoint _ _) (fun created => ?_) b
  refine (h.createSendEndpoint _ _).attempt.bind fun result => ?_
  cases result with
  | ok pair => exact .pure
  | error failure => exact (h.revokeReceiveEndpoint created).bind fun _ => .refuse

/-- So whatever is asked for of threads and endpoints is admitted. -/
theorem admitsThreads (h : AdmitsParts R) : AdmitsThreads R where
  toAdmitsNotes := h.toAdmitsNotes
  createThread := h.createThread
  createInitThread := h.createInitThread
  createSchedExecution := h.createSchedExecution
  createEndpointPair := h.createEndpointPair

end AdmitsParts

end Service

end CapabilityBroker
