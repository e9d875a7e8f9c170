/-
CapabilityBroker/Proofs/Advance/Object.lean

What the operations on components, threads and endpoints may do.

Each of them stays within a warrant that lets it put capabilities into the
tables it is asked to, and publish the one thread record it is about.  A
receive endpoint that is made and then taken back is the one case where
records go away again: seen from before, they were never there.
-/
import CapabilityBroker.Object.Endpoint
import CapabilityBroker.Proofs.Advance.Basic

namespace CapabilityBroker

open Step (Stays StaysFrom)

variable {w : Warrant} {b b' : Broker}

/-! ### Components -/

theorem knownComponent_stays (id : ComponentId) :
    Stays (Broker.Advance w) (knownComponent id) :=
  .get_bind fun b => Stays.require b

/-- A component that comes on record is no scheduler on any core yet. -/
def ComponentRecord.IsNew (c : ComponentRecord) : Prop := c.schedRcvs = ∅

theorem ComponentRecord.isNew (id : ComponentId) (name : String) (kind : ComponentKind)
    (resources : Option Kernel.Resources) : IsNew ⟨id, name, kind, resources, ∅⟩ := rfl

section Walks

variable {R : Broker → Broker → Prop} [IsPreorder Broker R]
  {C : ComponentRecord → ComponentRecord → Prop} [IsPreorder ComponentRecord C]

/-- A preorder in which components may come on record, and in which the kernel may make
its side, has the registration of a component. -/
theorem registerComponent_walks
    (hpool : componentPool.Allows R (Pool.Moves C ComponentRecord.IsNew)) (hnotes : AdmitsNotes R)
    (id : ComponentId) (name : String) (kind : ComponentKind)
    (resources : Option Kernel.Resources) {create : Step Kernel Kernel.Refusal Unit}
    (hcreate : Stays R (askKernel create)) :
    Stays R (registerComponent id name kind resources create) := by
  refine Stays.require.bind fun index => ?_
  refine (hpool.ask (Pool.allocateAt_stays _)).bind fun slot b => ?_
  refine hpool.reserves.holding (hcreate.bind (fun _ => ?_) b)
  refine (hpool.ask (Pool.activate_stays (ComponentRecord.isNew ..) slot)).bind fun _ => ?_
  exact hnotes.note rfl

/-- It has the creation of a virtual machine too. -/
theorem createVm_walks (hpool : componentPool.Allows R (Pool.Moves C ComponentRecord.IsNew))
    (hnotes : AdmitsNotes R) (manager : ComponentId)
    (hcreate : ∀ id, Stays R (askKernel (Kernel.createVmComponent id vmName))) :
    Stays R (createVm manager) := by
  refine (hpool.ask Pool.allocate_stays).bind fun slot b => ?_
  refine hpool.reserves.holding (Stays.bind Stays.exact (fun number => ?_) b)
  refine (hcreate _).bind fun _ => ?_
  refine (hpool.ask (Pool.activate_stays (ComponentRecord.isNew ..) slot)).bind fun _ => ?_
  exact (hnotes.note rfl).bind fun _ => (hnotes.log _ _).bind fun _ => .pure

end Walks

theorem componentPool_gains : componentPool.Admits w
    (Pool.Moves (ComponentRecord.Follows w.starting) ComponentRecord.IsNew) :=
  fun b _ h => componentPool_admits b _ (h.mono (fun _ _ => id) fun _ _ => trivial)

theorem registerComponent_stays (id : ComponentId) (name : String) (kind : ComponentKind)
    (resources : Option Kernel.Resources) {create : Step Kernel Kernel.Refusal Unit}
    (hc : Stays (Kernel.Advance w.toWarrant) create) :
    Stays (Broker.Advance w) (registerComponent id name kind resources create) :=
  registerComponent_walks componentPool_gains advance_tacit.notes _ _ _ _ (askKernel_stays hc)

theorem createVm_stays (manager : ComponentId) : Stays (Broker.Advance w) (createVm manager) :=
  createVm_walks componentPool_gains advance_tacit.notes _ fun _ =>
    askKernel_stays (Kernel.createVmComponent_stays _ _)

/-! ### Threads -/

theorem createThread_stays {client sched : ComponentId} (hc : w.caps sched)
    (ht : ∀ thread held, w.threads ⟨thread, client, sched, held⟩) :
    Stays (Broker.Advance w) (createThread client sched) := by
  refine (knownComponent_stays client).bind fun _ => ?_
  refine (knownComponent_stays sched).bind fun _ => ?_
  refine (threadPool_admits.ask Pool.allocate_stays).bind fun slot b => ?_
  apply threadPool_admits.reserves.holding
  refine Stays.bind (askKernel_stays (Kernel.createThread_stays client)) (fun thread => ?_) b
  refine (askKernel_stays (Kernel.aliasThread_stays thread hc).attempt).bind fun aliased => ?_
  cases aliased with
  | ok cap =>
    refine (threadPool_admits.ask (Pool.activate_stays (ht _ _) slot)).bind fun _ => ?_
    exact (advance_tacit.note _).bind fun _ => .pure
  | error refusal =>
    refine (threadPool_admits.ask (Pool.activate_stays (ht _ _) slot)).bind fun _ => ?_
    exact (advance_tacit.log _ _).bind fun _ => (advance_tacit.note _).bind fun _ => .refuse

theorem createInitThread_stays {component : ComponentId} (core : CoreId)
    (ht : ∀ thread, w.threads ⟨thread, component, .none, .unaliased⟩) :
    Stays (Broker.Advance w) (createInitThread component core) := by
  refine (knownComponent_stays component).bind fun _ => ?_
  refine (threadPool_admits.ask Pool.allocate_stays).bind fun slot b => ?_
  apply threadPool_admits.reserves.holding
  refine Stays.bind (askKernel_stays (Kernel.newThread_stays component)) (fun thread => ?_) b
  refine (threadPool_admits.ask (Pool.activate_stays (ht _) slot)).bind fun _ => ?_
  exact (advance_tacit.note _).bind fun _ => .pure

/-! ### Receive endpoints -/

theorem createSchedExecution_stays (hw : w.starting) (component : ComponentId) (core : CoreId) :
    Stays (Broker.Advance w) (createSchedExecution component core) := by
  refine .get_bind fun b => Stays.bind Stays.require (fun holder => ?_) b
  refine (rcvPool_admits.ask Pool.allocate_stays).bind fun slot b => ?_
  apply rcvPool_admits.reserves.holding
  refine Stays.bind (askKernel_stays (Kernel.newRcv_stays component)) (fun rcv => ?_) b
  refine (rcvPool_admits.ask (Pool.activate_stays trivial slot)).bind fun handle => ?_
  refine Stays.bind (.modify fun b => componentPool_admits b _ (.modify fun c => ?_)) fun _ => ?_
  · exact ⟨⟨_, rfl⟩, fun hn => absurd hw hn⟩
  · exact (advance_tacit.note _).bind fun _ => .pure

theorem schedulingEndpoint_stays (component : ComponentId) (core : CoreId) :
    Stays (Broker.Advance w) (schedulingEndpoint component core) := by
  refine (knownComponent_stays component).bind fun record => ?_
  exact Stays.require.bind fun handle => .get_bind fun b => Stays.require b

theorem aliasOrRevokeRcv_stays (rcv : Kernel.Rcv) {into : ComponentId} (hc : w.caps into) :
    Stays (Broker.Advance w) (aliasOrRevokeRcv rcv into) := by
  refine (askKernel_stays (Kernel.aliasRcv_stays rcv hc).attempt).bind fun aliased => ?_
  cases aliased with
  | ok aliases => exact .pure
  | error refusal => exact (askKernel_stays (Kernel.revokeRcv_stays rcv)).bind fun _ => .refuse

theorem aliasOrRevokeAsnd_stays (asnd : Kernel.Asnd) {into : ComponentId} (hc : w.caps into) :
    Stays (Broker.Advance w) (aliasOrRevokeAsnd asnd into) := by
  refine (askKernel_stays (Kernel.aliasAsnd_stays hc).attempt).bind fun aliased => ?_
  cases aliased with
  | ok cap => exact .pure
  | error refusal => exact (askKernel_stays (Kernel.revokeAsnd_stays asnd)).bind fun _ => .refuse

theorem knownRcv_stays (handle : Handle RcvRecord) :
    Stays (Broker.Advance w) (knownRcv handle) :=
  .get_bind fun b => Stays.require b

theorem createSendEndpoint_stays {component : ComponentId} (hc : w.caps component)
    (target : Handle RcvRecord) :
    Stays (Broker.Advance w) (createSendEndpoint component target) := by
  refine (knownRcv_stays target).bind fun rcv => ?_
  refine (asndPool_admits.ask Pool.allocate_stays).bind fun slot b => ?_
  apply asndPool_admits.reserves.holding
  refine Stays.bind (askKernel_stays (Kernel.createAsnd_stays _)) (fun asnd => ?_) b
  refine (aliasOrRevokeAsnd_stays asnd hc).bind fun cap => ?_
  refine (asndPool_admits.ask (Pool.activate_stays trivial slot)).bind fun handle => ?_
  exact (advance_tacit.note _).bind fun _ => .pure

/-! ### A receive endpoint, and its way back -/

/-- The slot of a reservation held no object when it was made. -/
theorem allocate_leads {σ : Type} {part : Part (Pool σ)} (h : part.Admits w Pool.Reserves) :
    (part.ask Pool.allocate).Leads b
      (fun slot b' => b.Advance w b' ∧ ((part.get b).entry slot.index).Idle)
      (fun _ => b.Advance w) := by
  have hstays := Pool.allocate_stays (C := Eq) (P := fun _ => False) (part.get b)
  refine Part.ask_leads ((hstays.and Pool.allocate_leads).mono ?_ ?_)
  · rintro slot p ⟨hmoves, hfree, _⟩
    exact ⟨h b p hmoves, .of_free (Pool.firstFree?_eq_some hfree).2.2⟩
  · rintro why p ⟨hmoves, _⟩
    exact h b p hmoves

/-- The handle of a new object is the one that its reservation promised. -/
theorem activate_leads {σ : Type} {part : Part (Pool σ)} {C : σ → σ → Prop} {P : σ → Prop}
    [IsPreorder σ C] {o : σ} (h : part.Admits w (Pool.Moves C P)) (ho : P o)
    (hput : ∀ p b, part.get (part.put p b) = p) (slot : Reservation σ) :
    (part.ask (Pool.activate slot o)).Leads b
      (fun handle b' => b.Advance w b' ∧ handle.index = slot.index ∧
        (part.get b').get? handle = some o)
      (fun _ => b.Advance w) := by
  have hstays : (Pool.activate slot o : Step (Pool σ) Pool.Refusal (Handle σ)).StaysFrom
      (Pool.Moves C P) (part.get b) := Pool.activate_stays ho slot (part.get b)
  refine Part.ask_leads ((hstays.and Pool.activate_leads).mono ?_ ?_)
  · rintro handle p ⟨hmoves, _, rfl, rfl⟩
    refine ⟨h b _ hmoves, rfl, ?_⟩
    rw [hput, Pool.get?_eq_some_iff, Pool.entry_publish]
    exact if_pos rfl
  · rintro why p ⟨hmoves, _⟩
    exact h b p hmoves

/-- An endpoint that was not there at first may go. -/
theorem Broker.Advance.of_rcvs_release {index n : Nat} (h : b.Advance w b')
    (hi : (b.rcvs.entry index).Idle) (hbusy : (b'.rcvs.entry index).slot ≠ .free) :
    b.Advance w { b' with rcvs := { b'.rcvs.release index with active := n } } :=
  ⟨h.kernel, h.components, h.threads, h.rcvs.release hi hbusy, h.asnds, h.pages, h.spans,
    h.truthful⟩

/-- A thread that was not there at first may go. -/
theorem Broker.Advance.of_threads_release {index n : Nat} (h : b.Advance w b')
    (hi : (b.threads.entry index).Idle) (hbusy : (b'.threads.entry index).slot ≠ .free) :
    b.Advance w { b' with threads := { b'.threads.release index with active := n } } :=
  ⟨h.kernel, h.components, h.threads.release hi hbusy, h.rcvs, h.asnds, h.pages, h.spans,
    h.truthful⟩

/-- What is known of a receive endpoint just made: its records were not there
before, and it belongs to the component that asked for it. -/
structure RcvCreated.Fresh (created : RcvCreated) (component : ComponentId) (b b' : Broker) :
    Prop where
  rcv : (b.rcvs.entry created.rcv.index).Idle
  thread : (b.threads.entry created.thread.index).Idle
  owner : ∃ record, b'.rcvs.get? created.rcv = some record ∧ record.owner = component

theorem RcvCreated.Fresh.advance {created : RcvCreated} {component : ComponentId} {b₀ : Broker}
    (h : created.Fresh component b₀ b) (ha : b.Advance w b') :
    created.Fresh component b₀ b' := by
  obtain ⟨record, hrecord, howner⟩ := h.owner
  obtain ⟨_, rfl, hrecord'⟩ := ha.rcvs.get? hrecord
  exact ⟨h.rcv, h.thread, record, hrecord', howner⟩

theorem createReceiveEndpoint_leads {component : ComponentId} (core : CoreId)
    (hc : w.caps component)
    (ht : ∀ thread held, w.threads ⟨thread, component, component, held⟩) :
    (createReceiveEndpoint component core).Leads b
      (fun created b' => b.Advance w b' ∧ created.Fresh component b b')
      (fun _ => b.Advance w) := by
  refine (schedulingEndpoint_stays component core b).bind_from (.refl b) fun _ b₁ h₁ => ?_
  -- Both slots are kept before the kernel makes anything.
  apply Step.Leads.bind_from h₁ (allocate_leads rcvPool_admits.reserves)
  intro rcvSlot b₂ h₂ hrcv
  apply rcvPool_admits.reserves.holding_leads
  apply Step.Leads.bind_from h₂ (allocate_leads threadPool_admits.reserves)
  intro threadSlot b₃ h₃ hthread
  apply threadPool_admits.reserves.holding_leads
  -- The kernel's side: the endpoint, and its capabilities in the component.
  apply StaysFrom.bind_from (askKernel_stays (Kernel.createRcv_stays component) b₃) h₃
  intro rcv b₄ h₄
  refine (aliasOrRevokeRcv_stays rcv hc b₄).bind_from h₄ fun aliases b₅ h₅ => ?_
  -- The records, of the thread first.
  refine Step.Leads.bind_from h₅
    (activate_leads threadPool_admits (ht _ _) (fun _ _ => rfl) threadSlot) ?_
  intro thread b₆ h₆ hthread'
  refine Step.Leads.bind_from h₆
    (activate_leads rcvPool_admits trivial (fun _ _ => rfl) rcvSlot) ?_
  intro handle b₇ h₇ hhandle
  refine Step.Leads.modify_bind (Step.leads_pure.2 ⟨h₇.trans .of_notes, ?_, ?_, ?_⟩)
  · rw [hhandle.1]
    exact h₁.rcvs.idle hrcv
  · rw [hthread'.1]
    exact h₂.threads.idle hthread
  · exact ⟨_, hhandle.2, rfl⟩

/-- Taking an endpoint back removes records that were not there at first. -/
theorem revokeReceiveEndpoint_leads {created : RcvCreated} {component : ComponentId}
    (h : b.Advance w b') (hc : w.caps component) (hfresh : created.Fresh component b b') :
    (revokeReceiveEndpoint created).Leads b' (fun _ => b.Advance w) (fun _ => b.Advance w) := by
  refine Step.leads_bind.2 (Step.Leads.get_bind (Step.leads_require.2 ⟨?_, fun _ => h⟩))
  intro rcv hrcv
  -- The alias that is revoked is one of the owner, which is the component itself.
  obtain ⟨record, hrecord, rfl⟩ := hfresh.owner
  obtain rfl := Option.some.inj (hrcv.symm.trans hrecord)
  apply StaysFrom.bind_from (askKernel_stays (Kernel.revokeRcvAlias_stays _ hc) b') h
  intro _ b₁ h₁
  apply StaysFrom.bind_from (askKernel_stays (Kernel.revokeRcv_stays _) b₁) h₁
  intro _ b₂ h₂
  refine Step.leads_bind.2 (Part.ask_leads (Pool.free_leads.mono ?_ ?_))
  · rintro _ rcvs ⟨hrcv, rfl⟩
    -- Neither record was there at first, so that nothing is lost.
    have h₃ := h₂.of_rcvs_release (n := b₂.rcvs.active - 1) hfresh.rcv (Pool.slot_ne_free hrcv)
    refine Step.leads_bind.2 (Part.ask_leads (Pool.free_leads.mono ?_ ?_))
    · rintro _ threads ⟨hthread, rfl⟩
      have hbusy := Pool.slot_ne_free hthread
      exact (advance_tacit.note _ _).after (h₃.of_threads_release hfresh.thread hbusy)
    · rintro why _ ⟨_, rfl⟩
      exact h₃
  · rintro why _ ⟨_, rfl⟩
    exact h₂

end CapabilityBroker
