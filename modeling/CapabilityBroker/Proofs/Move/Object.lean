/-
CapabilityBroker/Proofs/Move/Object.lean

Operations on components, threads and endpoints are operations on objects.

A record names slots that the kernel handed out a moment before.  The frontier
of the table has passed them by then, so what is said of a new record is said
from the state the operation set out from.
-/
import CapabilityBroker.Object.Endpoint
import CapabilityBroker.Proofs.Move.Basic

namespace CapabilityBroker

open Step (Stays StaysFrom)

variable {adds : ComponentId → Option Kernel.Resources → Prop} {first b b' : Broker}

/-! ### Looking -/

section Looking

variable {R : Broker → Broker → Prop} [IsPreorder Broker R]

theorem knownComponent_looks (id : ComponentId) : Stays R (knownComponent id) :=
  .get_bind fun b => Stays.require b

theorem schedulingEndpoint_looks (component : ComponentId) (core : CoreId) :
    Stays R (schedulingEndpoint component core) :=
  (knownComponent_looks component).bind fun _ =>
    Stays.require.bind fun _ => .get_bind fun b => Stays.require b

theorem knownRcv_looks (handle : Handle RcvRecord) : Stays R (knownRcv handle) :=
  .get_bind fun b => Stays.require b

end Looking

/-! ### The kernel's side -/

/-- The kernel makes an object, and more is known of its answer. -/
theorem askKernel_makes {α : Type} {s : Step Kernel Kernel.Refusal α} {mid : α → Kernel → Prop}
    (hs : Stays (Kernel.ObjectMove fun d => ∃ r, adds d r) s)
    (hm : s.Leads b.kernel mid fun _ _ => True) :
    (askKernel s).Leads b (fun a b' => b.ObjectMove adds b' ∧ mid a b'.kernel)
      (fun _ => b.ObjectMove adds) := by
  refine Part.run_leads (Step.leads_explain.2 (((hs b.kernel).and hm).mono ?_ ?_))
  · rintro a k ⟨hk, ha⟩
    exact ⟨kernelPart_objects b k hk, ha⟩
  · rintro why k ⟨hk, _⟩
    exact kernelPart_objects b k hk

theorem FromSlot.of_granted {k : Kernel} {slot : UInt64}
    (h : Kernel.Granted b.kernel k b.kernel.selfId slot) : FromSlot b.slotFrontier [slot] := by
  intro slot' hslot
  rw [List.mem_singleton] at hslot
  exact hslot ▸ h.new

theorem askKernel_createThread (owner : ComponentId) :
    (askKernel (Kernel.createThread owner)).Leads b
      (fun thread b' => b.ObjectMove adds b' ∧ FromSlot b.slotFrontier [thread.cap.slot])
      (fun _ => b.ObjectMove adds) := by
  refine (askKernel_makes (Kernel.makes_objectMove.createThread owner)
    ((Kernel.createThread_granted owner).mono (fun _ _ h => h.2) fun _ _ _ => trivial)).mono ?_
    fun _ _ => id
  exact fun thread b' h => ⟨h.1, .of_granted h.2⟩

theorem askKernel_createInitThread (owner : ComponentId) :
    (askKernel (Kernel.createInitThread owner)).Leads b
      (fun thread b' => b.ObjectMove adds b' ∧ FromSlot b.slotFrontier [thread.cap.slot])
      (fun _ => b.ObjectMove adds) := by
  refine (askKernel_makes (Kernel.makes_objectMove.newThread owner)
    ((Kernel.newThread_granted owner).mono (fun _ _ h => h.2.1) fun _ _ _ => trivial)).mono ?_
    fun _ _ => id
  exact fun thread b' h => ⟨h.1, .of_granted h.2⟩

theorem askKernel_createRcv (owner : ComponentId) :
    (askKernel (Kernel.createRcv owner)).Leads b
      (fun rcv b' => b.ObjectMove adds b' ∧
        FromSlot b.slotFrontier [rcv.thread.cap.slot, rcv.rcv.slot, rcv.tcap.slot])
      (fun _ => b.ObjectMove adds) := by
  refine (askKernel_makes (Kernel.makes_objectMove.createRcv owner)
    ((Kernel.createRcv_granted owner).mono (fun _ _ h => h.2.1) fun _ _ _ => trivial)).mono ?_
    fun _ _ => id
  exact fun rcv b' h => ⟨h.1, fun slot hslot => (h.2 slot hslot).new⟩

theorem askKernel_createSchedExecution (owner : ComponentId) :
    (askKernel (Kernel.createSchedExecution owner)).Leads b
      (fun rcv b' => b.ObjectMove adds b' ∧
        FromSlot b.slotFrontier [rcv.thread.cap.slot, rcv.rcv.slot, rcv.tcap.slot])
      (fun _ => b.ObjectMove adds) := by
  refine (askKernel_makes (Kernel.makes_objectMove.newRcv owner)
    ((Kernel.newRcv_granted owner).mono (fun _ _ h => h.2.1) fun _ _ _ => trivial)).mono ?_
    fun _ _ => id
  exact fun rcv b' h => ⟨h.1, fun slot hslot => (h.2 slot hslot).new⟩

theorem askKernel_createAsnd (rcv : Kernel.Rcv) :
    (askKernel (Kernel.createAsnd rcv)).Leads b
      (fun asnd b' => b.ObjectMove adds b' ∧ FromSlot b.slotFrontier [asnd.cap.slot])
      (fun _ => b.ObjectMove adds) := by
  refine (askKernel_makes (Kernel.makes_objectMove.createAsnd rcv)
    ((Kernel.createAsnd_granted rcv).mono (fun _ _ h => h.2) fun _ _ _ => trivial)).mono ?_
    fun _ _ => id
  exact fun asnd b' h => ⟨h.1, .of_granted h.2⟩

/-! ### Publishing records -/

/-- What is published in a pool is what was to be published. -/
theorem activate_gains {α : Type} {P : α → Prop} {o : α} (ho : P o) (slot : Reservation α) :
    Stays (Pool.Gains P) (Pool.activate slot o : Step (Pool α) Pool.Refusal (Handle α)) :=
  fun p => (Pool.activate_stays (C := Eq) ho slot p).mono (fun _ _ => .of_moves)
    fun _ _ => .of_moves

theorem activate_thread {slot : Reservation ThreadRecord} {t : ThreadRecord}
    (h : first.ObjectMove adds b) (ht : FromSlot first.slotFrontier t.slots) :
    (threadPool.ask (Pool.activate slot t)).Leads b (fun _ => first.ObjectMove adds)
      (fun _ => first.ObjectMove adds) := by
  have hpublish : ∀ p : Pool ThreadRecord,
      b.threads.Gains (fun t => FromSlot first.slotFrontier t.slots) p →
        first.ObjectMove adds { b with threads := p } := fun p hp =>
    ⟨h.kernel, h.components, h.threads.trans hp fun _ => id, h.rcvs, h.asnds, h.pages, h.spans,
      h.contig, h.homed⟩
  have hgains :=
    activate_gains (P := fun t => FromSlot first.slotFrontier t.slots) ht slot b.threads
  exact Part.ask_leads (hgains.mono (fun _ => hpublish) fun _ => hpublish)

theorem activate_rcv {slot : Reservation RcvRecord} {r : RcvRecord}
    (h : first.ObjectMove adds b) (hr : FromSlot first.slotFrontier r.slots) :
    (rcvPool.ask (Pool.activate slot r)).Leads b (fun _ => first.ObjectMove adds)
      (fun _ => first.ObjectMove adds) := by
  have hpublish : ∀ p : Pool RcvRecord,
      b.rcvs.Gains (fun r => FromSlot first.slotFrontier r.slots) p →
        first.ObjectMove adds { b with rcvs := p } := fun p hp =>
    ⟨h.kernel, h.components, h.threads, h.rcvs.trans hp fun _ => id, h.asnds, h.pages, h.spans,
      h.contig, h.homed⟩
  have hgains := activate_gains (P := fun r => FromSlot first.slotFrontier r.slots) hr slot b.rcvs
  exact Part.ask_leads (hgains.mono (fun _ => hpublish) fun _ => hpublish)

theorem activate_asnd {slot : Reservation AsndRecord} {a : AsndRecord}
    (h : first.ObjectMove adds b) (ha : FromSlot first.slotFrontier a.slots) :
    (asndPool.ask (Pool.activate slot a)).Leads b (fun _ => first.ObjectMove adds)
      (fun _ => first.ObjectMove adds) := by
  have hpublish : ∀ p : Pool AsndRecord,
      b.asnds.Gains (fun a => FromSlot first.slotFrontier a.slots) p →
        first.ObjectMove adds { b with asnds := p } := fun p hp =>
    ⟨h.kernel, h.components, h.threads, h.rcvs, h.asnds.trans hp fun _ => id, h.pages, h.spans,
      h.contig, h.homed⟩
  have hgains := activate_gains (P := fun a => FromSlot first.slotFrontier a.slots) ha slot b.asnds
  exact Part.ask_leads (hgains.mono (fun _ => hpublish) fun _ => hpublish)

/-- The record of a component is published under its own id, when the kernel
has the component. -/
theorem activate_component {slot : Reservation ComponentRecord} {c : ComponentRecord}
    (ha : adds c.id c.resources) (hid : c.id.number.toNat = slot.index)
    (hs : ∃ s, b.kernel.space? c.id = some s) :
    (componentPool.ask (Pool.activate slot c)).StaysFrom (Broker.ObjectMove adds) b := by
  refine Part.ask_leads (Pool.activate_leads.mono ?_ ?_)
  · rintro _ _ ⟨hheld, -, rfl⟩
    refine ⟨.refl _, .publish hheld ha, .refl _, .refl _, .refl _, rfl, rfl, rfl, fun hh => ?_⟩
    intro i g c' hc'
    change (b.components.publish slot c).entry i = _ at hc'
    rw [Pool.entry_publish] at hc'
    split at hc'
    · next hi =>
      cases hc'
      exact ⟨hid.trans hi, hs⟩
    · exact hh i g c' hc'
  · rintro why _ ⟨_, _, rfl⟩
    exact .refl _

/-! ### Components -/

theorem registerComponent_objects {id : ComponentId} (name : String) (kind : ComponentKind)
    {resources : Option Kernel.Resources} (ha : adds id resources)
    {create : Step Kernel Kernel.Refusal Unit}
    (hc : ∀ k, create.Leads k
      (fun _ k' => Kernel.ObjectMove (fun d => ∃ r, adds d r) k k' ∧ ∃ s, k'.space? id = some s)
      (fun _ => Kernel.ObjectMove (fun d => ∃ r, adds d r) k)) :
    Stays (Broker.ObjectMove adds) (registerComponent id name kind resources create) := by
  refine fun b => .require_bind fun index hindex => ?_
  have hallocate : (componentPool.ask (Pool.allocateAt index.toNat)).Leads b
      (fun slot b' => b.ObjectMove adds b' ∧ slot.index = index.toNat)
      (fun _ => b.ObjectMove adds) := by
    have hstays := Pool.allocateAt_stays (C := Eq) (P := fun _ => False) index.toNat b.components
    refine Part.ask_leads ((hstays.and Pool.allocateAt_leads).mono ?_ ?_)
    · rintro slot p ⟨hp, _, _, _, rfl, _⟩
      exact ⟨componentPool_objects b p hp, rfl⟩
    · rintro why p ⟨hp, _⟩
      exact componentPool_objects b p hp
  apply Step.Leads.bind_from (.refl b) hallocate
  intro slot b₁ h₁ hslot
  refine componentPool_objects.holding_leads (Step.leads_bind.2 ?_)
  refine Part.run_leads (Step.leads_explain.2 ((hc b₁.kernel).mono ?_ ?_))
  · rintro _ k ⟨hk, hspace⟩
    have h₂ := h₁.trans (kernelPart_objects b₁ k hk)
    refine StaysFrom.bind_from (activate_component ha ?_ hspace) h₂ fun _ b₃ h₃ => ?_
    · rw [word32?_eq_some_iff] at hindex
      exact hindex.symm.trans hslot.symm
    · exact (objects_tacit.note _ b₃).after h₃
  · exact fun _ k hk => h₁.trans (kernelPart_objects b₁ k hk)

theorem createVm_objects (manager : ComponentId) (ha : ∀ id, adds id none) :
    Stays (Broker.ObjectMove adds) (createVm manager) := by
  refine (componentPool_objects.ask Pool.allocate_stays).bind fun slot b => ?_
  refine componentPool_objects.holding (.exact_bind fun number hnumber => ?_)
  rw [word64?_eq_some_iff] at hnumber
  have hcreate : (Kernel.createVmComponent ⟨number⟩ vmName).Leads b.kernel
      (fun _ k => Kernel.ObjectMove (fun d => ∃ r, adds d r) b.kernel k ∧
        ∃ s, k.space? ⟨number⟩ = some s)
      (fun _ k => k = b.kernel) := Kernel.createVmComponent_moves ⟨none, ha _⟩ vmName
  refine Step.leads_bind.2 (Part.run_leads (Step.leads_explain.2 (hcreate.mono ?_ ?_)))
  · rintro _ k ⟨hk, hspace⟩
    have h₁ := kernelPart_objects b k hk
    refine StaysFrom.bind_from (activate_component (ha _) hnumber hspace) h₁ fun _ b₂ h₂ => ?_
    refine (objects_tacit.note _ b₂).bind_from h₂ fun _ b₃ h₃ => ?_
    exact (objects_tacit.log _ _ b₃).bind_from h₃ fun _ b₄ h₄ => Step.leads_pure.2 h₄
  · rintro why _ rfl
    exact .refl b

/-! ### Threads -/

theorem createThread_objects (client sched : ComponentId) :
    Stays (Broker.ObjectMove adds) (createThread client sched) := by
  refine (knownComponent_looks client).bind fun _ => (knownComponent_looks sched).bind fun _ => ?_
  refine (threadPool_objects.ask Pool.allocate_stays).bind fun slot b => ?_
  apply threadPool_objects.holding
  refine Step.Leads.bind_from (.refl b) (askKernel_createThread client) fun thread b₁ h₁ hslot => ?_
  apply (askKernel_objects
    (Kernel.makes_objectMove.aliasThread thread sched).attempt b₁).bind_from h₁
  intro aliased b₂ h₂
  cases aliased with
  | ok cap =>
    refine Step.Leads.bind (activate_thread h₂ hslot) fun _ b₃ h₃ => ?_
    exact (objects_tacit.note _ b₃).bind_from h₃ fun _ b₄ h₄ => Step.leads_pure.2 h₄
  | error refusal =>
    refine Step.Leads.bind (activate_thread h₂ hslot) fun _ b₃ h₃ => ?_
    refine (objects_tacit.log _ _ b₃).bind_from h₃ fun _ b₄ h₄ => ?_
    exact (objects_tacit.note _ b₄).bind_from h₄ fun _ b₅ h₅ => Step.leads_refuse.2 h₅

theorem createInitThread_objects (component : ComponentId) (core : CoreId) :
    Stays (Broker.ObjectMove adds) (createInitThread component core) := by
  refine (knownComponent_looks component).bind fun _ => ?_
  refine (threadPool_objects.ask Pool.allocate_stays).bind fun slot b => ?_
  apply threadPool_objects.holding
  apply Step.Leads.bind_from (.refl b) (askKernel_createInitThread component)
  intro thread b₁ h₁ hslot
  refine Step.Leads.bind (activate_thread h₁ hslot) fun _ b₂ h₂ => ?_
  exact (objects_tacit.note _ b₂).bind_from h₂ fun _ b₃ h₃ => Step.leads_pure.2 h₃

/-! ### Receive endpoints -/

theorem createSchedExecution_objects (component : ComponentId) (core : CoreId) :
    Stays (Broker.ObjectMove adds) (createSchedExecution component core) := by
  refine .get_bind fun b => Stays.bind Stays.require (fun holder => ?_) b
  refine (rcvPool_objects.ask Pool.allocate_stays).bind fun slot b => ?_
  apply rcvPool_objects.holding
  apply Step.Leads.bind_from (.refl b) (askKernel_createSchedExecution component)
  intro rcv b₁ h₁ hslots
  refine Step.Leads.bind (activate_rcv h₁ hslots) fun handle b₂ h₂ => Step.Leads.modify_bind ?_
  have hscheduler : b₂.ObjectMove adds { b₂ with
      components := b₂.components.modify holder fun c =>
        { c with schedRcvs := c.schedRcvs.insert core handle } } :=
    .of_components (.modify fun c => ⟨⟨_, rfl⟩, fun hn => absurd trivial hn⟩)
  refine StaysFrom.bind_from (objects_tacit.note _ _) (h₂.trans hscheduler) fun _ b₃ h₃ => ?_
  exact Step.leads_pure.2 h₃

theorem aliasOrRevokeRcv_objects (rcv : Kernel.Rcv) (into : ComponentId) :
    Stays (Broker.ObjectMove adds) (aliasOrRevokeRcv rcv into) := by
  refine (askKernel_objects
    (Kernel.makes_objectMove.aliasRcv rcv into).attempt).bind fun aliased => ?_
  cases aliased with
  | ok aliases => exact .pure
  | error refusal => exact (askKernel_objects (Kernel.revokeRcv_moves rcv)).bind fun _ => .refuse

theorem createReceiveEndpoint_objects (component : ComponentId) (core : CoreId) :
    Stays (Broker.ObjectMove adds) (createReceiveEndpoint component core) := by
  refine (schedulingEndpoint_looks component core).bind fun _ => ?_
  refine (rcvPool_objects.ask Pool.allocate_stays).bind fun rcvSlot b => ?_
  apply rcvPool_objects.holding
  refine Stays.bind (threadPool_objects.ask Pool.allocate_stays) (fun threadSlot b => ?_) b
  apply threadPool_objects.holding
  refine Step.Leads.bind_from (.refl b) (askKernel_createRcv component) fun rcv b₁ h₁ hslots => ?_
  refine (aliasOrRevokeRcv_objects rcv component b₁).bind_from h₁ fun aliases b₂ h₂ => ?_
  have hthread : FromSlot b.slotFrontier [rcv.thread.cap.slot] := by
    intro slot hslot
    rw [List.mem_singleton] at hslot
    exact hslots slot (hslot ▸ List.mem_cons_self)
  refine Step.Leads.bind (activate_thread h₂ hthread) fun thread b₃ h₃ => ?_
  refine Step.Leads.bind (activate_rcv h₃ hslots) fun handle b₄ h₄ => ?_
  exact (objects_tacit.note _ b₄).bind_from h₄ fun _ b₅ h₅ => Step.leads_pure.2 h₅

theorem revokeReceiveEndpoint_objects (created : RcvCreated) :
    Stays (Broker.ObjectMove adds) (revokeReceiveEndpoint created) := by
  refine (knownRcv_looks created.rcv).bind fun rcv => ?_
  refine (askKernel_objects (Kernel.revokeRcvAlias_moves _ _)).bind fun _ => ?_
  refine (askKernel_objects (Kernel.revokeRcv_moves _)).bind fun _ b => ?_
  refine Step.leads_bind.2 (Part.ask_leads (Pool.free_leads.mono ?_ ?_))
  · rintro _ _ ⟨_, rfl⟩
    have hrcvs : b.ObjectMove adds { b with rcvs :=
        { b.rcvs.release created.rcv.index with active := b.rcvs.active - 1 } } :=
      ⟨.refl _, .refl _, .refl _, .release, .refl _, rfl, rfl, rfl, id⟩
    refine Step.leads_bind.2 (Part.ask_leads (Pool.free_leads.mono ?_ ?_))
    · rintro _ _ ⟨_, rfl⟩
      refine (objects_tacit.note _ _).after (hrcvs.trans ?_)
      exact ⟨.refl _, .refl _, .release, .refl _, .refl _, rfl, rfl, rfl, id⟩
    · rintro why _ ⟨_, rfl⟩
      exact hrcvs
  · rintro why _ ⟨_, rfl⟩
    exact .refl b

/-! ### Send endpoints -/

theorem aliasOrRevokeAsnd_objects (asnd : Kernel.Asnd) (into : ComponentId) :
    Stays (Broker.ObjectMove adds) (aliasOrRevokeAsnd asnd into) := by
  refine (askKernel_objects (Kernel.makes_objectMove.aliasAsnd into).attempt).bind fun aliased => ?_
  cases aliased with
  | ok cap => exact .pure
  | error refusal => exact (askKernel_objects (Kernel.revokeAsnd_moves asnd)).bind fun _ => .refuse

theorem createSendEndpoint_objects (component : ComponentId) (target : Handle RcvRecord) :
    Stays (Broker.ObjectMove adds) (createSendEndpoint component target) := by
  refine (knownRcv_looks target).bind fun rcv => ?_
  refine (asndPool_objects.ask Pool.allocate_stays).bind fun slot b => ?_
  apply asndPool_objects.holding
  refine Step.Leads.bind_from (.refl b) (askKernel_createAsnd rcv.kernel) fun asnd b₁ h₁ hslot => ?_
  refine (aliasOrRevokeAsnd_objects asnd component b₁).bind_from h₁ fun cap b₂ h₂ => ?_
  refine Step.Leads.bind (activate_asnd h₂ hslot) fun handle b₃ h₃ => ?_
  exact (objects_tacit.note _ b₃).bind_from h₃ fun _ b₄ h₄ => Step.leads_pure.2 h₄

end CapabilityBroker
