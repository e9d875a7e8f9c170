/-
CapabilityBroker/Proofs/Sound/Object.lean

Components, threads and endpoints in sound states.

None of these operations aborts.  What each of them keeps while the kernel
works is still kept when it comes to publish, as the kernel does not touch the
pools.
-/
import CapabilityBroker.Object.Endpoint
import CapabilityBroker.Proofs.Sound.Basic

namespace CapabilityBroker

variable {b : Broker}

/-! ### Components -/

theorem knownComponent_calm (id : ComponentId) : Calm (knownComponent id) :=
  fun b h => Step.Leads.get_bind (Calm.require rfl b h)

/-- A component is recorded in the slot of its own id, where the kernel knows
it. -/
theorem Broker.Sound.publishComponent {slot : Reservation ComponentRecord}
    {record : ComponentRecord} {id : ComponentId} (h : b.Sound)
    (hindex : slot.index = id.number.toNat) (hk : b.kernel.hasComponent id = true) :
    (componentPool.put (b.components.publish slot record) b).Sound := by
  refine h.withComponents rfl fun id' record' hrecord => ?_
  rw [Pool.at?_publish] at hrecord
  split at hrecord
  · next heq =>
    rw [hindex] at heq
    have hid : id = id' := by
      cases id
      cases id'
      exact congrArg _ (UInt64.toNat.inj heq)
    exact .inr (hid ▸ hk)
  · exact .inl (Option.isSome_iff_exists.2 ⟨record', hrecord⟩)

/-- The least free slot of the components is below every limit, so that its
number is an id. -/
theorem createVm_calm (manager : ComponentId) : Calm (createVm manager) := by
  intro b h
  refine Step.leads_bind.2 ((componentPool_bears.allocate h).mono ?_ ?_)
  · rintro slot _ ⟨_, p, rfl, h, hslot, hle⟩
    apply componentPool_bears.holding
    -- The id is the number of the slot.
    have hlt : slot.index < UInt64.size :=
      Nat.lt_of_le_of_lt hle (Nat.lt_trans h.componentsFit (by decide))
    obtain ⟨number, hnumber⟩ := word64?_isSome_iff.2 hlt
    rw [hnumber]
    refine Step.Leads.exact_bind ?_ nofun
    rintro _ ⟨⟩
    rw [word64?_eq_some_iff] at hnumber
    -- The kernel knows the component before it is recorded.
    have hcreate := Kernel.createVmComponent_leads ⟨number⟩ vmName (.refl h.kernel)
    refine Step.leads_bind.2 (Part.run_leads (Step.leads_explain.2 (hcreate.mono ?_ ?_)))
    · rintro _ k ⟨hk, hthere⟩
      refine Step.leads_bind.2 ((Part.activate_leads hslot).mono ?_ fun _ _ => False.elim)
      rintro handle _ ⟨rfl, rfl⟩
      refine Step.Leads.modify_bind (Step.Leads.modify_bind (Step.leads_pure.2 ?_))
      exact ((h.withKernel hk).publishComponent hnumber.symm hthere).of_notes
    · rintro why k ⟨hk, hwhy⟩
      refine ⟨h.withKernel hk, .inr ⟨?_, not_false⟩⟩
      cases why with
      | refused reason => exact .refused rfl
      | abort => exact absurd rfl hwhy
  · rintro why b' ⟨_, h, hwhy⟩
    exact ⟨h, .inr ⟨hwhy, not_false⟩⟩

/-! ### Threads -/

theorem createThread_calm (client sched : ComponentId) : Calm (createThread client sched) := by
  refine (knownComponent_calm client).bind fun _ => (knownComponent_calm sched).bind fun _ => ?_
  intro b h
  apply Step.Leads.bind (threadPool_bears.keep h)
  rintro slot b ⟨h, hslot⟩
  apply threadPool_bears.holding
  refine Step.Leads.bind (askKernel_keeping (Q := fun b => b.threads.Holds slot)
    (Kernel.createThread_keeps client) h hslot fun _ _ hq => hq) ?_
  rintro thread b ⟨h, hslot⟩
  refine Step.Leads.bind (askKernel_keeping (Q := fun b => b.threads.Holds slot)
    (Kernel.aliasThread_keeps thread sched).attempt h hslot fun _ _ hq => hq) ?_
  rintro aliased b ⟨h, hslot⟩
  cases aliased with
  | ok cap =>
    refine Step.leads_bind.2 ((Part.activate_leads hslot).mono ?_ fun _ _ => False.elim)
    rintro handle _ ⟨rfl, rfl⟩
    exact Step.Leads.modify_bind (Step.leads_pure.2 h.of_notes)
  | error refusal =>
    refine Step.leads_bind.2 ((Part.activate_leads hslot).mono ?_ fun _ _ => False.elim)
    rintro handle _ ⟨rfl, rfl⟩
    refine Step.Leads.modify_bind (Step.Leads.modify_bind (Step.leads_refuse.2 ?_))
    exact .refused h.of_notes rfl not_false

theorem createInitThread_calm (component : ComponentId) (core : CoreId) :
    Calm (createInitThread component core) := by
  refine (knownComponent_calm component).bind fun _ b h => ?_
  apply Step.Leads.bind (threadPool_bears.keep h)
  rintro slot b ⟨h, hslot⟩
  apply threadPool_bears.holding
  refine Step.Leads.bind (askKernel_keeping (Q := fun b => b.threads.Holds slot)
    (Kernel.newThread_keeps component) h hslot fun _ _ hq => hq) ?_
  rintro thread b ⟨h, hslot⟩
  refine Step.leads_bind.2 ((Part.activate_leads hslot).mono ?_ fun _ _ => False.elim)
  rintro handle _ ⟨rfl, rfl⟩
  exact Step.Leads.modify_bind (Step.leads_pure.2 h.of_notes)

/-! ### Receive endpoints -/

theorem createSchedExecution_calm (component : ComponentId) (core : CoreId) :
    Calm (createSchedExecution component core) := by
  intro b h
  refine Step.Leads.get_bind (Step.Leads.require_bind (fun holder _ => ?_) fun _ => ?_)
  · apply Step.Leads.bind (rcvPool_bears.keep h)
    rintro slot b ⟨h, hslot⟩
    apply rcvPool_bears.holding
    refine Step.Leads.bind (askKernel_keeping (Q := fun b => b.rcvs.Holds slot)
      (Kernel.newRcv_keeps component) h hslot fun _ _ hq => hq) ?_
    rintro rcv b ⟨h, hslot⟩
    refine Step.leads_bind.2 ((Part.activate_leads hslot).mono ?_ fun _ _ => False.elim)
    rintro handle _ ⟨rfl, rfl⟩
    refine Step.Leads.modify_bind (Step.Leads.modify_bind (Step.leads_pure.2 ?_))
    -- Whether a component is on record does not depend on what its record says.
    have hmoves : b.components.Moves (ComponentRecord.Follows True) (fun _ => False)
        (b.components.modify holder fun c =>
          { c with schedRcvs := c.schedRcvs.insert core slot.handle }) :=
      .modify fun _ => ⟨⟨_, rfl⟩, fun hn => absurd trivial hn⟩
    refine (h.withComponents (Pool.capacity_modify _ _) fun id record hrecord => .inl ?_).of_notes
    obtain ⟨g, hg⟩ := Pool.at?_eq_some_iff.1 hrecord
    rcases hmoves.added _ g record hg with ⟨old, _, hold⟩ | hnew
    · exact Option.isSome_iff_exists.2 ⟨old, Pool.at?_eq_some hold⟩
    · exact hnew.elim
  · exact .refused h rfl not_false

theorem schedulingEndpoint_calm (component : ComponentId) (core : CoreId) :
    Calm (schedulingEndpoint component core) := by
  refine (knownComponent_calm component).bind fun record => ?_
  refine (Calm.require rfl).bind fun handle b h => ?_
  exact Step.Leads.get_bind (Calm.require rfl b h)

/-- What is kept stays kept while an endpoint's capabilities are installed or
taken back. -/
theorem aliasOrRevokeRcv_keeping {Q : Broker → Prop} {rcv : Kernel.Rcv} {into : ComponentId}
    (h : b.Sound) (hq : Q b) (hQ : ∀ b k, Q b → Q { b with kernel := k }) :
    (aliasOrRevokeRcv rcv into).Leads b (fun _ b' => b'.Sound ∧ Q b') (Ends False) := by
  apply Step.Leads.bind (askKernel_keeping (Kernel.aliasRcv_keeps rcv into).attempt h hq hQ)
  rintro aliased b ⟨h, hq⟩
  cases aliased with
  | ok aliases => exact Step.leads_pure.2 ⟨h, hq⟩
  | error refusal =>
    refine Step.Leads.bind (askKernel_calm (Kernel.revokeRcv_keeps rcv) b h) fun _ b h => ?_
    exact Step.leads_refuse.2 (.refused h rfl not_false)

theorem createReceiveEndpoint_calm (component : ComponentId) (core : CoreId) :
    Calm (createReceiveEndpoint component core) := by
  refine (schedulingEndpoint_calm component core).bind fun _ b h => ?_
  apply Step.Leads.bind (rcvPool_bears.keep h)
  rintro rcvSlot b ⟨h, hrcv⟩
  apply rcvPool_bears.holding
  refine Step.leads_bind.2 ((threadPool_bears.allocate h).mono ?_ ?_)
  · rintro threadSlot _ ⟨_, p, rfl, h, hthread, _⟩
    apply threadPool_bears.holding
    -- Both slots stay kept while the kernel works.
    have hslots : (threadPool.put p b).rcvs.Holds rcvSlot ∧
        (threadPool.put p b).threads.Holds threadSlot := ⟨hrcv, hthread⟩
    refine Step.Leads.bind (askKernel_keeping
      (Q := fun b => b.rcvs.Holds rcvSlot ∧ b.threads.Holds threadSlot)
      (Kernel.createRcv_keeps component) h hslots fun _ _ hq => hq) ?_
    rintro rcv b ⟨h, hslots⟩
    refine Step.Leads.bind (aliasOrRevokeRcv_keeping
      (Q := fun b => b.rcvs.Holds rcvSlot ∧ b.threads.Holds threadSlot)
      h hslots fun _ _ hq => hq) ?_
    rintro aliases b ⟨h, hrcv, hthread⟩
    refine Step.leads_bind.2 ((Part.activate_leads hthread).mono ?_ fun _ _ => False.elim)
    rintro thread _ ⟨rfl, rfl⟩
    -- The record of the thread does not touch the slot of the endpoint.
    have hrcv' : (rcvPool.get (threadPool.put ((threadPool.get b).publish threadSlot
        ⟨rcv.thread, component, component, .aliased aliases.thread⟩) b)).Holds rcvSlot := hrcv
    refine Step.leads_bind.2 ((Part.activate_leads hrcv').mono ?_ fun _ _ => False.elim)
    rintro handle _ ⟨rfl, rfl⟩
    exact Step.Leads.modify_bind (Step.leads_pure.2 h.of_notes)
  · rintro why b' ⟨_, h, hwhy⟩
    exact ⟨h, .inr ⟨hwhy, not_false⟩⟩

theorem knownRcv_calm (handle : Handle RcvRecord) : Calm (knownRcv handle) :=
  fun b h => Step.Leads.get_bind (Calm.require rfl b h)

/-- Freeing a record of an endpoint or a thread leaves the state sound. -/
theorem Part.free_calm {σ : Type} {part : Part (Pool σ)} {handle : Handle σ}
    (hput : ∀ b p, b.Sound → (part.put p b).Sound) : Calm (part.ask (Pool.free handle)) := by
  refine fun b h => Part.ask_leads (Pool.free_leads.mono ?_ ?_)
  · exact fun _ p _ => hput b p h
  · rintro why p ⟨⟨reason, rfl⟩, _⟩
    exact .refused (hput b p h) rfl not_false

theorem revokeReceiveEndpoint_calm (created : RcvCreated) :
    Calm (revokeReceiveEndpoint created) := by
  refine (knownRcv_calm created.rcv).bind fun rcv => ?_
  refine (askKernel_calm (Kernel.revokeRcvAlias_keeps _ _)).bind fun _ => ?_
  refine (askKernel_calm (Kernel.revokeRcv_keeps _)).bind fun _ => ?_
  refine Calm.bind (Part.free_calm fun _ _ h => h.of_notes) fun _ => ?_
  refine Calm.bind (Part.free_calm fun _ _ h => h.of_notes) fun _ => ?_
  exact note_calm _

/-! ### Send endpoints -/

theorem createSendEndpoint_calm (component : ComponentId) (target : Handle RcvRecord) :
    Calm (createSendEndpoint component target) := by
  refine (knownRcv_calm target).bind fun rcv b h => ?_
  apply Step.Leads.bind (asndPool_bears.keep h)
  rintro slot b ⟨h, hslot⟩
  apply asndPool_bears.holding
  refine Step.Leads.bind (askKernel_keeping (Q := fun b => b.asnds.Holds slot)
    (Kernel.createAsnd_keeps rcv.kernel) h hslot fun _ _ hq => hq) ?_
  rintro asnd b ⟨h, hslot⟩
  refine Step.leads_bind.2 (Step.leads_bind.2 ((askKernel_keeping (Q := fun b => b.asnds.Holds slot)
    (Kernel.aliasAsnd_keeps component).attempt h hslot fun _ _ hq => hq).mono ?_ fun _ _ h => h))
  rintro aliased b ⟨h, hslot⟩
  cases aliased with
  | ok cap =>
    refine Step.leads_pure.2 (Step.leads_bind.2 ?_)
    refine (Part.activate_leads hslot).mono ?_ fun _ _ => False.elim
    rintro handle _ ⟨rfl, rfl⟩
    exact Step.Leads.modify_bind (Step.leads_pure.2 h.of_notes)
  | error refusal =>
    refine Step.Leads.bind (askKernel_calm (Kernel.revokeAsnd_keeps asnd) b h) fun _ b h => ?_
    exact Step.leads_refuse.2 (.refused h rfl not_false)

end CapabilityBroker
