/-
CapabilityBroker/Proofs/Ledger/Object.lean

Operations on components, threads and endpoints keep the books.

Each of them publishes its records and writes the event that stands for them
down, and nothing can stop it in between.  Where two records are published, the
second slot is kept from before the first is filled, so the second cannot fail
either.  An endpoint that is torn down leaves the books by an event of its own.
-/
import CapabilityBroker.Proofs.Ledger.Basic
import CapabilityBroker.Proofs.Unchanged.Object

namespace CapabilityBroker

open Step (Stays StaysFrom KeepsBooks)

variable {b b' : Broker} {σ ε α β : Type}

/-! ### Publishing a record -/

/-- A record is published, or the operation aborts where it was. -/
theorem Part.activate_publishes {part : Part (Pool σ)} {slot : Reservation σ} {o : σ}
    (hself : part.put (part.get b) b = b) :
    (part.ask (Pool.activate slot o)).Leads b
      (fun _ b' => (part.get b).Holds slot ∧ b' = part.put ((part.get b).publish slot o) b)
      (fun why b' => (why = .abort ∧ ¬ (part.get b).Holds slot) ∧ b' = b) := by
  refine Part.ask_leads (Pool.activate_leads.mono ?_ ?_)
  · rintro _ _ ⟨hheld, _, rfl⟩
    exact ⟨hheld, rfl⟩
  · rintro why _ ⟨hlost, rfl, rfl⟩
    exact ⟨⟨rfl, hlost⟩, hself⟩

/-- A record is published, and what follows sets the books right. -/
theorem Step.KeepsBooks.publish_bind {part : Part (Pool σ)} {slot : Reservation σ} {o : σ}
    {plain : Failure → Prop} {f : Handle σ → Operation β}
    (hself : part.put (part.get b) b = b)
    (hf : ∀ handle, (part.get b).Holds slot →
      (f handle).Leads (part.put ((part.get b).publish slot o) b) (fun _ => b.Balances)
        (b.Closes plain)) :
    (part.ask (Pool.activate slot o) >>= f).KeepsBooks plain b := by
  refine Step.leads_bind.2 ((Part.activate_publishes hself).mono ?_ ?_)
  · rintro handle _ ⟨hheld, rfl⟩
    exact hf handle hheld
  · rintro why _ ⟨_, rfl⟩
    exact .of_balances (refl_of Broker.Balances _)

/-! ### Components -/

theorem registerComponent_keepsBooks (id : ComponentId) (name : String) (kind : ComponentKind)
    (resources : Option Kernel.Resources) {adds : ComponentId → Prop}
    {create : Step Kernel Kernel.Refusal Unit} (hc : Stays (Kernel.ObjectMove adds) create) :
    (registerComponent id name kind resources create).KeepsBooks Failure.Ordinary b := by
  refine .stays_bind Stays.require fun index b₁ _ => ?_
  refine .stays_bind (componentPool_balances.ask (Pool.allocateAt_shuffles _)) fun slot b₂ _ => ?_
  refine .holding componentPool_balances (.stays_bind (askKernel_balances hc) fun _ b₃ _ => ?_)
  refine .publish_bind rfl fun _ _ => Step.leads_modify.2 ?_
  exact .post rfl rfl rfl rfl rfl (fun _ _ h => h) (by rintro ⟨⟩ <;> rfl) nofun

theorem createVm_keepsBooks (manager : ComponentId) :
    (createVm manager).KeepsBooks Failure.Ordinary b := by
  refine .stays_bind (componentPool_balances.ask Pool.allocate_shuffles) fun slot b₁ _ => ?_
  refine .holding componentPool_balances (.stays_bind Stays.exact fun number b₂ _ => ?_)
  have hcreate : Stays (Kernel.ObjectMove fun _ => True)
      (Kernel.createVmComponent ⟨number⟩ vmName) := fun k => by
    refine (Kernel.createVmComponent_moves trivial vmName).mono (fun _ _ h => h.1) ?_
    rintro why _ rfl
    exact .refl _
  refine .stays_bind (askKernel_balances hcreate) fun _ b₃ _ => ?_
  refine .publish_bind rfl fun _ _ => Step.Leads.modify_bind ?_
  refine KeepsBooks.after (.stays_bind (log_balances _ _) fun _ _ _ => .pure) ?_
  exact .post rfl rfl rfl rfl rfl (fun _ _ => id) (by rintro ⟨⟩ <;> rfl) nofun

/-! ### Threads -/

theorem createThread_keepsBooks (client sched : ComponentId) :
    (createThread client sched).KeepsBooks Failure.Ordinary b := by
  refine .stays_bind (knownComponent_looks client) fun _ b₁ _ => ?_
  refine .stays_bind (knownComponent_looks sched) fun _ b₂ _ => ?_
  refine .stays_bind (threadPool_balances.ask Pool.allocate_shuffles) fun slot b₃ _ => ?_
  apply KeepsBooks.holding threadPool_balances
  have hcreate : Stays (Kernel.ObjectMove fun _ => False) (Kernel.createThread client) :=
    Kernel.makes_objectMove.createThread client
  refine .stays_bind (askKernel_balances hcreate) fun thread b₄ _ => ?_
  have halias : Stays (Kernel.ObjectMove fun _ => False) (Kernel.aliasThread thread sched) :=
    Kernel.makes_objectMove.aliasThread thread sched
  refine .stays_bind (askKernel_balances halias.attempt) fun aliased b₅ _ => ?_
  cases aliased with
  | ok cap =>
    refine .publish_bind rfl fun _ _ => Step.Leads.modify_bind (Step.leads_pure.2 ?_)
    exact .post rfl rfl rfl rfl rfl (fun _ _ => id) (by rintro ⟨⟩ <;> rfl) nofun
  | error refusal =>
    -- The thread is on record all the same, and the trail says so.
    refine .publish_bind rfl fun _ _ => Step.Leads.modify_bind (Step.Leads.modify_bind ?_)
    refine Step.leads_refuse.2 (.of_balances ?_)
    exact .post rfl rfl rfl rfl rfl (fun _ _ => id) (by rintro ⟨⟩ <;> rfl) nofun

theorem createInitThread_keepsBooks (component : ComponentId) (core : CoreId) :
    (createInitThread component core).KeepsBooks Failure.Ordinary b := by
  refine .stays_bind (knownComponent_looks component) fun _ b₁ _ => ?_
  refine .stays_bind (threadPool_balances.ask Pool.allocate_shuffles) fun slot b₂ _ => ?_
  apply KeepsBooks.holding threadPool_balances
  have hcreate : Stays (Kernel.ObjectMove fun _ => False) (Kernel.createInitThread component) :=
    Kernel.makes_objectMove.newThread component
  refine .stays_bind (askKernel_balances hcreate) fun thread b₃ _ => ?_
  refine .publish_bind rfl fun _ _ => Step.Leads.modify_bind (Step.leads_pure.2 ?_)
  exact .post rfl rfl rfl rfl rfl (fun _ _ => id) (by rintro ⟨⟩ <;> rfl) nofun

/-! ### Receive endpoints -/

theorem createSchedExecution_keepsBooks (component : ComponentId) (core : CoreId) :
    (createSchedExecution component core).KeepsBooks Failure.Ordinary b := by
  refine Step.Leads.get_bind (KeepsBooks.stays_bind Stays.require fun holder b₁ _ => ?_)
  refine .stays_bind (rcvPool_balances.ask Pool.allocate_shuffles) fun slot b₂ _ => ?_
  apply KeepsBooks.holding rcvPool_balances
  have hcreate : Stays (Kernel.ObjectMove fun _ => False)
      (Kernel.createSchedExecution component) := Kernel.makes_objectMove.newRcv component
  refine .stays_bind (askKernel_balances hcreate) fun rcv b₃ _ => ?_
  refine .publish_bind rfl fun handle _ => Step.Leads.modify_bind (Step.Leads.modify_bind ?_)
  refine Step.leads_pure.2 ?_
  refine .post rfl rfl rfl rfl rfl (fun _ _ => id) ?_ nofun
  rintro ⟨⟩
  case components => exact Pool.active_modify holder _
  all_goals rfl

theorem aliasOrRevokeRcv_balances (rcv : Kernel.Rcv) (into : ComponentId) :
    Stays Broker.Balances (aliasOrRevokeRcv rcv into) := by
  have halias : Stays (Kernel.ObjectMove fun _ => False) (Kernel.aliasRcv rcv into) :=
    Kernel.makes_objectMove.aliasRcv rcv into
  refine (askKernel_balances halias.attempt).bind fun aliased => ?_
  cases aliased with
  | ok aliases => exact .pure
  | error refusal =>
    have hrevoke : Stays (Kernel.ObjectMove fun _ => False) (Kernel.revokeRcv rcv) :=
      Kernel.revokeRcv_moves rcv
    exact (askKernel_balances hrevoke).bind fun _ => .refuse

/-- Both records of an endpoint are published, or neither. -/
theorem createReceiveEndpoint_keepsBooks (component : ComponentId) (core : CoreId) :
    (createReceiveEndpoint component core).Leads b
      (fun _ b' => b.Balances b' ∧ 1 ≤ b'.threads.active ∧ 1 ≤ b'.rcvs.active)
      (b.Closes Failure.Ordinary) := by
  refine Step.Leads.bind ((schedulingEndpoint_looks (R := Eq) component core b).mono
    (fun _ _ => id) ?_) ?_
  · rintro why _ rfl
    exact .of_balances (refl_of Broker.Balances b)
  rintro _ _ rfl
  have hrcvs := (Pool.allocate_shuffles b.rcvs).and Pool.allocate_holds
  refine Step.leads_bind.2 (Part.ask_leads (hrcvs.mono ?_ fun why rcvs h =>
    .of_balances (rcvPool_balances b rcvs h.1)))
  rintro rcvSlot rcvs ⟨hrcvs, _, _, _, hkept, _⟩
  refine KeepsBooks.holding_leads rcvPool_balances ?_
  have h₁ := rcvPool_balances b rcvs hrcvs
  refine Step.leads_bind.2 (Part.ask_leads ((Pool.allocate_shuffles b.threads).mono ?_
    fun why threads h => .of_balances (trans_of _ h₁ (threadPool_balances _ threads h))))
  intro threadSlot threads hthreads
  refine KeepsBooks.holding_leads threadPool_balances ?_
  have h₂ := trans_of Broker.Balances h₁ (threadPool_balances _ threads hthreads)
  -- The kernel makes the endpoint, and then its capabilities.
  have hcreate : Stays (Kernel.ObjectMove fun _ => False) (Kernel.createRcv component) :=
    Kernel.makes_objectMove.createRcv component
  refine Step.leads_bind.2 (Part.run_leads (Step.leads_explain.2 ((hcreate b.kernel).mono ?_
    fun why k hk => .of_balances (trans_of _ h₂ (kernelPart_balances _ k hk.nextFrame)))))
  intro rcv k₁ hk₁
  have h₃ := trans_of Broker.Balances h₂ (kernelPart_balances _ k₁ hk₁.nextFrame)
  refine Step.leads_bind.2 (((aliasOrRevokeRcv_balances rcv component _).and
    (aliasOrRevokeRcv_granted rcv component)).mono ?_ fun why b' h =>
      .of_balances (trans_of _ h₃ h.1))
  rintro aliases _ ⟨hbalances, k₂, rfl, _⟩
  have h₄ := trans_of Broker.Balances h₃ hbalances
  -- Both records are published.
  refine Step.leads_bind.2 ((Part.activate_publishes rfl).mono ?_ ?_)
  swap
  · rintro why _ ⟨_, rfl⟩
    exact .of_balances h₄
  rintro thread _ ⟨_, rfl⟩
  refine Step.leads_bind.2 ((Part.activate_publishes rfl).mono ?_ ?_)
  swap
  · rintro why _ ⟨⟨_, hlost⟩, _⟩
    exact absurd hkept hlost
  rintro handle _ ⟨_, rfl⟩
  refine Step.Leads.modify_bind (Step.leads_pure.2 ⟨trans_of Broker.Balances h₄ ?_, ?_, ?_⟩)
  · exact .post rfl rfl rfl rfl rfl (fun _ _ => id) (by rintro ⟨⟩ <;> rfl) nofun
  · exact Nat.succ_pos _
  · exact Nat.succ_pos _

/-- An endpoint that is torn down is taken off the books. -/
theorem revokeReceiveEndpoint_balances (created : RcvCreated) (ht : 1 ≤ b.threads.active)
    (hr : 1 ≤ b.rcvs.active) :
    (revokeReceiveEndpoint created).Leads b (fun _ => b.Balances) (fun _ _ => True) := by
  refine Step.Leads.bind ((knownRcv_looks (R := Eq) created.rcv b).mono (fun _ _ => id)
    fun _ _ _ => trivial) ?_
  rintro rcv _ rfl
  have hsame : ∀ {s : Step Kernel Kernel.Refusal Unit} {b : Broker},
      Stays (Kernel.ObjectMove fun _ => False) s → (askKernel s).Leads b
        (fun _ b' => ∃ k, k.nextFrame = b.kernel.nextFrame ∧ b' = { b with kernel := k })
        (fun _ _ => True) := fun hs =>
    Part.run_leads (Step.leads_explain.2 ((hs _).mono (fun _ k hk => ⟨k, hk.nextFrame, rfl⟩)
      fun _ _ _ => trivial))
  refine Step.Leads.bind (hsame (Kernel.revokeRcvAlias_moves _ _)) ?_
  rintro _ _ ⟨k₁, hk₁, rfl⟩
  refine Step.Leads.bind (hsame (Kernel.revokeRcv_moves _)) ?_
  rintro _ _ ⟨k₂, hk₂, rfl⟩
  refine Step.leads_bind.2 (Part.ask_leads (Pool.free_leads.mono ?_ fun _ _ _ => trivial))
  rintro _ _ ⟨_, rfl⟩
  refine Step.leads_bind.2 (Part.ask_leads (Pool.free_leads.mono ?_ fun _ _ _ => trivial))
  rintro _ _ ⟨_, rfl⟩
  refine Step.leads_modify.2 (.post rfl rfl rfl rfl (hk₂.trans hk₁) (fun _ _ => id) ?_ nofun)
  rintro ⟨⟩
  case threads => exact Nat.sub_add_cancel ht
  case rcvs => exact Nat.sub_add_cancel hr
  all_goals rfl

/-! ### Send endpoints -/

theorem aliasOrRevokeAsnd_balances (asnd : Kernel.Asnd) (into : ComponentId) :
    Stays Broker.Balances (aliasOrRevokeAsnd asnd into) := by
  have halias : Stays (Kernel.ObjectMove fun _ => False) (Kernel.aliasAsnd into) :=
    Kernel.makes_objectMove.aliasAsnd into
  refine (askKernel_balances halias.attempt).bind fun aliased => ?_
  cases aliased with
  | ok cap => exact .pure
  | error refusal =>
    have hrevoke : Stays (Kernel.ObjectMove fun _ => False) (Kernel.revokeAsnd asnd) :=
      Kernel.revokeAsnd_moves asnd
    exact (askKernel_balances hrevoke).bind fun _ => .refuse

theorem createSendEndpoint_keepsBooks {plain : Failure → Prop} (component : ComponentId)
    (target : Handle RcvRecord) : (createSendEndpoint component target).KeepsBooks plain b := by
  refine .stays_bind (knownRcv_looks target) fun rcv b₁ _ => ?_
  refine .stays_bind (asndPool_balances.ask Pool.allocate_shuffles) fun slot b₂ _ => ?_
  apply KeepsBooks.holding asndPool_balances
  have hcreate : Stays (Kernel.ObjectMove fun _ => False) (Kernel.createAsnd rcv.kernel) :=
    Kernel.makes_objectMove.createAsnd rcv.kernel
  refine .stays_bind (askKernel_balances hcreate) fun asnd b₃ _ => ?_
  refine .stays_bind (aliasOrRevokeAsnd_balances asnd component) fun cap b₄ _ => ?_
  refine .publish_bind rfl fun handle _ => Step.Leads.modify_bind (Step.leads_pure.2 ?_)
  exact .post rfl rfl rfl rfl rfl (fun _ _ => id) (by rintro ⟨⟩ <;> rfl) nofun

end CapabilityBroker
