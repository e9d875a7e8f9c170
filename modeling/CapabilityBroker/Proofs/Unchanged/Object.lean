/-
CapabilityBroker/Proofs/Unchanged/Object.lean

Refused operations on components, threads and endpoints.

The kernel's part comes first in all of them, and once a record can be
published nothing is refused any more.  Two operations take back what they
made: an endpoint whose capabilities its owner's table does not take, and an
endpoint pair of which the second half fails.  There the endpoint is on record
already, so it has to be shown that its tear-down goes through: its slots are
still live, since whatever the second half did is above them.
-/
import CapabilityBroker.Proofs.Move.Object
import CapabilityBroker.Proofs.Unchanged.Basic

namespace CapabilityBroker

open Kernel (Above)
open Step (Stays StaysFrom Certain)

variable {b b' : Broker} {plain : Failure → Prop}

/-! ### Components -/

theorem createVm_reverts (manager : ComponentId) :
    (createVm manager).Reverts Broker.Unchanged plain b b := by
  refine componentPool_apart.allocate_reverts fun slot p => ?_
  refine .exact_bind (fun number _ => ?_) fun _ => trivial
  refine (askKernel_reverts (Kernel.createVmComponent_recoils _ _)).certain_bind fun _ => ?_
  refine (certain_activate _ _).bind fun _ => (certain_note _).bind fun _ => ?_
  exact (certain_log _ _).bind fun _ => .pure

/-! ### Threads -/

/-- The one failure after which something is left behind says so. -/
theorem createThread_recoils (client sched : ComponentId) :
    Recoils b (createThread client sched) b := by
  refine (knownComponent_looks client b).reverts_bind fun _ b₁ _ => ?_
  refine (knownComponent_looks sched b₁).reverts_bind fun _ b₂ _ => ?_
  refine threadPool_apart.allocate_reverts fun slot p => ?_
  have hthread := askKernel_unchanged (Kernel.makes_objectMove.createThread client)
  refine (hthread _).reverts_bind fun thread b₃ _ => Certain.reverts ?_
  have halias : (askKernel (Step.attempt (Kernel.aliasThread thread sched)) :
      Operation (Except Kernel.Refusal (Cap .thread))).Certain Failure.Plain :=
    Certain.within (Certain.explain Certain.attempt)
  refine halias.bind fun aliased => ?_
  cases aliased with
  | ok cap => exact (certain_activate _ _).bind fun _ => (certain_note _).bind fun _ => .pure
  | error refusal =>
    refine (certain_activate _ _).bind fun _ => (certain_log _ _).bind fun _ => ?_
    exact (certain_note _).bind fun _ => .refuse fun hplain => hplain.2 _ rfl

/-! ### Receive endpoints -/

theorem aliasOrRevokeRcv_unchanged (rcv : Kernel.Rcv) (into : ComponentId) :
    Stays Broker.Unchanged (aliasOrRevokeRcv rcv into) := by
  have halias := askKernel_unchanged (Kernel.makes_objectMove.aliasRcv rcv into).attempt
  refine halias.bind fun aliased => ?_
  cases aliased with
  | ok aliases => exact .pure
  | error refusal => exact (askKernel_unchanged (Kernel.revokeRcv_moves rcv)).bind fun _ => .refuse

theorem createReceiveEndpoint_reverts (component : ComponentId) (core : CoreId) :
    (createReceiveEndpoint component core).Reverts Broker.Unchanged plain b b := by
  refine (schedulingEndpoint_looks component core b).reverts_bind fun _ b₁ _ => ?_
  refine rcvPool_apart.allocate_reverts fun rcvSlot p => ?_
  refine threadPool_apart.allocate_reverts fun threadSlot p => ?_
  have hrcv := askKernel_unchanged (Kernel.makes_objectMove.createRcv component)
  refine (hrcv _).reverts_bind fun rcv b₂ _ => ?_
  refine (aliasOrRevokeRcv_unchanged rcv component b₂).reverts_bind fun aliases b₃ _ => ?_
  refine Certain.reverts ((certain_activate _ _).bind fun thread => ?_)
  exact (certain_activate _ _).bind fun handle => (certain_note _).bind fun _ => .pure

/-- An endpoint that is on record is found. -/
theorem knownRcv_leads {handle : Handle RcvRecord} {r : RcvRecord}
    (hr : b.rcvs.get? handle = some r) :
    (knownRcv handle).Leads b (fun r' b' => r = r' ∧ b = b') (fun _ _ => False) := by
  apply Step.Leads.get_bind
  rw [hr]
  exact Step.leads_pure.2 ⟨rfl, rfl⟩

/-- Since `b`, an endpoint was made and nothing else is left, and the endpoint
can be taken back: its objects are on record, and its slots are live. -/
structure RcvCreated.Revocable (created : RcvCreated) (b b' : Broker) : Prop where
  rest : b.Unchanged { b' with rcvs := b.rcvs, threads := b.threads }
  rcvs : b.rcvs.SameBut b'.rcvs created.rcv.index
  threads : b.threads.SameBut b'.threads created.thread.index
  thread : ∃ t, b'.threads.get? created.thread = some t
  rcv : ∃ r k, b'.rcvs.get? created.rcv = some r ∧ Above k b'.kernel ∧
    Kernel.GrantedRcv b.kernel k r.kernel ∧ (k.threadOwner? r.kernel.thread.tid).isSome ∧
    k.selfId = b.kernel.selfId ∧ Kernel.GrantedAliases k b'.kernel r.owner created.aliases

theorem aliasOrRevokeRcv_granted (rcv : Kernel.Rcv) (into : ComponentId) :
    (aliasOrRevokeRcv rcv into).Leads b
      (fun aliases b' => ∃ k, b' = { b with kernel := k } ∧ b.kernel.Steady k ∧
        Above b.kernel k ∧ Kernel.GrantedAliases b.kernel k into aliases)
      (fun _ _ => True) := by
  have hsteady := Kernel.steady_of_objects (Kernel.makes_objectMove.aliasRcv rcv into) b.kernel
  refine Step.leads_bind.2 (Part.run_leads (Step.leads_explain.2 (Step.leads_attempt.2 ?_)))
  refine (hsteady.and (Kernel.aliasRcv_granted rcv into)).mono ?_ ?_
  · rintro aliases k ⟨hk, habove, hgranted⟩
    exact Step.leads_pure.2 ⟨k, rfl, hk, habove, hgranted⟩
  · intro why k _
    refine ⟨fun reason _ => Step.leads_bind.2 ?_, fun _ => trivial⟩
    exact .of_forall (fun _ _ => Step.leads_refuse.2 trivial) fun _ _ => trivial

theorem createReceiveEndpoint_revocable (component : ComponentId) (core : CoreId) :
    (createReceiveEndpoint component core).Leads b (fun created b' => created.Revocable b b')
      (fun _ _ => True) := by
  refine Step.Leads.bind ((schedulingEndpoint_looks (R := Eq) component core b).mono
    (fun _ _ => id) fun _ _ _ => trivial) ?_
  rintro _ _ rfl
  refine Step.leads_bind.2 (Part.ask_leads (Pool.allocate_kept.mono ?_ fun _ _ _ => trivial))
  intro rcvSlot rcvs hrcvs
  refine Step.leads_cleanly.2 (Step.leads_bind.2 (Part.ask_leads
    (Pool.allocate_kept.mono ?_ fun _ _ _ => trivial)))
  intro threadSlot threads hthreads
  refine Step.leads_cleanly.2 ?_
  -- The kernel makes the endpoint, and then its capabilities.
  have hsteady := Kernel.steady_of_objects (Kernel.makes_objectMove.createRcv component) b.kernel
  refine Step.leads_bind.2 (Part.run_leads (Step.leads_explain.2
    ((hsteady.and (Kernel.createRcv_granted component)).mono ?_ fun _ _ _ => trivial)))
  rintro rcv k₁ ⟨hk₁, habove₁, hrcv, htid⟩
  refine Step.leads_bind.2 ((aliasOrRevokeRcv_granted rcv component).mono ?_ fun _ _ _ => trivial)
  rintro aliases _ ⟨k₂, rfl, hk₂, habove₂, haliases⟩
  -- Both records are published.
  refine Step.leads_bind.2 (Part.ask_leads (Pool.activate_leads.mono ?_ fun _ _ _ => trivial))
  rintro thread _ ⟨_, rfl, rfl⟩
  refine Step.leads_bind.2 (Part.ask_leads (Pool.activate_leads.mono ?_ fun _ _ _ => trivial))
  rintro handle _ ⟨_, rfl, rfl⟩
  refine Step.Leads.modify_bind (Step.leads_pure.2 ⟨?_, ?_, ?_, ?_, ?_⟩)
  · exact ⟨hk₁.trans hk₂, .refl _, .refl _, .refl _, .refl _, .refl _, .refl _, rfl, rfl, rfl⟩
  · exact hrcvs.sameBut.publish _
  · exact hthreads.sameBut.publish _
  · exact ⟨_, Pool.get?_eq_some_iff.2 ((Pool.entry_publish _).trans (if_pos rfl))⟩
  · refine ⟨_, k₁, Pool.get?_eq_some_iff.2 ((Pool.entry_publish _).trans (if_pos rfl)), ?_⟩
    exact ⟨habove₂, hrcv, htid, habove₁.selfId, haliases⟩

namespace RcvCreated.Revocable

variable {created : RcvCreated} {b'' : Broker}

/-- What leaves the state as it is, and takes back nothing of the kernel, does
not stand in the way. -/
theorem after (h : created.Revocable b b') (hu : b'.Unchanged b'')
    (ha : Above b'.kernel b''.kernel) : created.Revocable b b'' where
  rest := h.rest.trans { hu with rcvs := .refl _, threads := .refl _ }
  rcvs := h.rcvs.same hu.rcvs
  threads := h.threads.same hu.threads
  thread := by
    obtain ⟨t, ht⟩ := h.thread
    rw [Pool.get?_eq_some_iff] at ht
    exact ⟨t, Pool.get?_eq_some_iff.2 (hu.threads.handle _ _ _ ht)⟩
  rcv := by
    obtain ⟨r, k, hr, habove, hrcv, htid, hself, haliases⟩ := h.rcv
    rw [Pool.get?_eq_some_iff] at hr
    refine ⟨r, k, Pool.get?_eq_some_iff.2 (hu.rcvs.handle _ _ _ hr), habove.trans ha, hrcv, htid,
      hself, fun slot hslot => (haliases slot hslot).after ha⟩

/-- The endpoint is taken back, and nothing of it is left. -/
theorem revoke (h : created.Revocable b b') :
    (revokeReceiveEndpoint created).Leads b' (fun _ => b.Unchanged) (fun _ _ => False) := by
  obtain ⟨r, k, hr, habove, hrcv, htid, hself, haliases⟩ := h.rcv
  obtain ⟨t, ht⟩ := h.thread
  refine Step.Leads.bind (knownRcv_leads hr) ?_
  rintro _ _ ⟨rfl, rfl⟩
  -- The owner's slots go first; the endpoint's own are below them in time.
  have hsteady₁ : Stays Kernel.Steady (Kernel.revokeRcvAlias created.aliases r.owner) :=
    Kernel.steady_of_objects (Kernel.revokeRcvAlias_moves _ _)
  have hrevoke₁ := Kernel.revokeRcvAlias_granted habove haliases
  refine Step.leads_bind.2 (Part.run_leads (Step.leads_explain.2
    (((hsteady₁ b'.kernel).and hrevoke₁).mono ?_ fun _ _ hk => hk.2)))
  rintro _ k₁ ⟨hk₁, habove₁⟩
  have hself₁ : k₁.selfId = b.kernel.selfId := habove₁.selfId.trans hself
  have hlive : Kernel.GrantedRcv b.kernel k₁ r.kernel :=
    fun slot hslot => (hrcv slot hslot).after habove₁
  have hsteady₂ : Stays Kernel.Steady (Kernel.revokeRcv r.kernel) :=
    Kernel.steady_of_objects (Kernel.revokeRcv_moves _)
  have hrevoke₂ := Kernel.revokeRcv_granted hself₁ hlive (habove₁.threads _ htid)
  refine Step.leads_bind.2 (Part.run_leads (Step.leads_explain.2
    (((hsteady₂ k₁).and hrevoke₂).mono ?_ fun _ _ hk => hk.2)))
  rintro _ k₂ ⟨hk₂, _⟩
  -- Then the records.
  refine Step.leads_bind.2 (Part.ask_leads ((Pool.free_active hr).mono ?_ fun _ _ => id))
  rintro _ _ rfl
  refine Step.leads_bind.2 (Part.ask_leads ((Pool.free_active ht).mono ?_ fun _ _ => id))
  rintro _ _ rfl
  refine Step.leads_modify.2 ?_
  exact ⟨h.rest.kernel.trans (hk₁.trans hk₂), h.rest.components, h.threads.release,
    h.rcvs.release, h.rest.asnds, h.rest.pages, h.rest.spans, h.rest.contig, h.rest.barriers,
    h.rest.scheduler⟩

end RcvCreated.Revocable

/-! ### Send endpoints -/

theorem aliasOrRevokeAsnd_unchanged (asnd : Kernel.Asnd) (into : ComponentId) :
    Stays Broker.Unchanged (aliasOrRevokeAsnd asnd into) := by
  have halias := askKernel_unchanged (Kernel.makes_objectMove.aliasAsnd into).attempt
  refine halias.bind fun aliased => ?_
  cases aliased with
  | ok cap => exact .pure
  | error refusal =>
    exact (askKernel_unchanged (Kernel.revokeAsnd_moves asnd)).bind fun _ => .refuse

theorem createSendEndpoint_reverts (component : ComponentId) (target : Handle RcvRecord) :
    (createSendEndpoint component target).Reverts Broker.Unchanged plain b b := by
  refine (knownRcv_looks target b).reverts_bind fun rcv b₁ _ => ?_
  refine asndPool_apart.allocate_reverts fun slot p => ?_
  have hasnd := askKernel_unchanged (Kernel.makes_objectMove.createAsnd rcv.kernel)
  refine (hasnd _).reverts_bind fun asnd b₂ _ => ?_
  refine (aliasOrRevokeAsnd_unchanged asnd component b₂).reverts_bind fun cap b₃ _ => ?_
  refine Certain.reverts ((certain_activate _ _).bind fun handle => ?_)
  exact (certain_note _).bind fun _ => .pure

/-- The kernel took nothing back between the two states. -/
def Broker.Above (b b' : Broker) : Prop := Kernel.Above b.kernel b'.kernel

instance : IsPreorder Broker Broker.Above where
  refl b := Kernel.Above.refl b.kernel
  trans _ _ _ := Kernel.Above.trans

theorem above_tacit : Tacit Broker.Above := fun b _ _ _ _ => Kernel.Above.refl b.kernel

theorem asndPool_above {S : Pool AsndRecord → Pool AsndRecord → Prop} :
    asndPool.Allows Broker.Above S := fun b _ _ => Kernel.Above.refl b.kernel

/-- A send endpoint that cannot be installed is all that is taken back. -/
theorem createSendEndpoint_above (component : ComponentId) (target : Handle RcvRecord) :
    Stays Broker.Above (createSendEndpoint component target) := by
  refine (knownRcv_looks target).bind fun rcv => ?_
  refine (asndPool_above.ask (S := Pool.Reserves) Pool.allocate_stays).bind fun slot b => ?_
  apply asndPool_above.holding
  refine Step.leads_bind.2 (Part.run_leads (Step.leads_explain.2
    ((Kernel.createAsnd_granted rcv.kernel).mono ?_ fun _ _ => id)))
  rintro asnd k₁ ⟨h₁, hgranted⟩
  have halias : (aliasOrRevokeAsnd asnd component).Leads { b with kernel := k₁ }
      (fun _ => b.Above) (fun _ => b.Above) := by
    refine Step.leads_bind.2 (Part.run_leads (Step.leads_explain.2 (Step.leads_attempt.2 ?_)))
    refine ((Kernel.makes_above.aliasAsnd component k₁).after h₁).mono ?_ ?_
    · exact fun cap k₂ h₂ => Step.leads_pure.2 h₂
    · refine fun why k₂ h₂ => ⟨fun reason _ => ?_, fun _ => h₂⟩
      refine Step.leads_bind.2 (Part.run_leads (Step.leads_explain.2
        ((Kernel.revokeAsnd_above h₂ hgranted.new).mono ?_ fun _ _ => id)))
      exact fun _ k₃ h₃ => Step.leads_refuse.2 h₃
  refine Step.Leads.bind halias fun cap b₂ h₂ => ?_
  have hactivate : Stays Broker.Above (asndPool.ask (Pool.activate slot ⟨asnd, component, cap⟩)) :=
    asndPool_above.ask (Pool.activate_stays (C := Eq) (P := fun _ => True) trivial slot)
  refine (hactivate b₂).bind_from h₂ fun handle b₃ h₃ => ?_
  exact (above_tacit.note _ b₃).bind_from h₃ fun _ b₄ h₄ => Step.leads_pure.2 h₄

end CapabilityBroker
