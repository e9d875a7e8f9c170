/-
CapabilityBroker/Proofs/Agreement/Object.lean

Operations on components, threads and endpoints keep what the kernel bears out.

Each of them first asks the kernel for what the record is to say, and then
publishes the record.  What the kernel handed out is live in the state in which
the record is published, and the thread was not there in the state the operation
set out from.  Where an endpoint is taken back, the kernel is no longer what it
was when the endpoint was made, but it extends what it was before that.
-/
import CapabilityBroker.Proofs.Agreement.Basic
import CapabilityBroker.Proofs.Endpoints

namespace CapabilityBroker

open Kernel (Grants MakesRcv)
open Step (Stays StaysFrom)

variable {first b b' : Broker} {α β : Type} {post : β → Broker → Prop}

/-! ### Looking, and keeping slots -/

namespace Broker.Onward

theorem look_bind {s : Operation α} {f : α → Operation β} (h : first.Onward b) (hs : Stays Eq s)
    (hf : ∀ a, (f a).Leads b post (fun _ => first.Onward)) :
    (s >>= f).Leads b post (fun _ => first.Onward) := by
  refine Step.leads_bind.2 ((hs b).mono ?_ fun _ _ heq => heq ▸ h)
  rintro a _ rfl
  exact hf a

theorem allocate {part : Part (Pool α)} {f : Reservation α → Operation β} (h : first.Onward b)
    (hpart : part.Allows Broker.Keeping Pool.Reserves)
    (hf : ∀ slot p, first.Onward (part.put p b) →
      (f slot).Leads (part.put p b) post (fun _ => first.Onward)) :
    (part.ask Pool.allocate >>= fun slot => part.holding slot (f slot)).Leads b post
      (fun _ => first.Onward) := by
  have hallocate := Pool.allocate_stays (C := Eq) (P := fun _ => False) (part.get b)
  refine Step.leads_bind.2 (Part.ask_leads (hallocate.mono ?_ ?_))
  · intro slot p hp
    show (part.holdingAll [slot] (f slot)).Leads _ _ _
    exact hpart.holdingAll_leads (fun _ _ => keeping) (hf slot p (h.keeping (hpart b p hp)))
  · exact fun _ p hp => h.keeping (hpart b p hp)

/-- What is written down does not count. -/
theorem noted {event : Event} (h : first.Onward b) :
    first.Onward { b with trail := b.trail.record event } := h.keeping (keeping_tacit b _ _ _ _)

/-! ### Asking the kernel -/

/-- The kernel makes something, and more is known of its answer. -/
theorem ask {s : Step Kernel Kernel.Refusal α} {mid : α → Kernel → Prop}
    (h : first.Onward b) (hs : Stays Kernel.Builds s)
    (hm : s.Leads b.kernel mid fun _ _ => True) :
    (askKernel s).Leads b
      (fun a b' => ∃ k, b' = { b with kernel := k } ∧ first.Onward b' ∧ b.kernel.Extends k ∧
        mid a k)
      (fun _ => first.Onward) := by
  refine Part.run_leads (Step.leads_explain.2 (((hs b.kernel).and hm).mono ?_ ?_))
  · rintro a k ⟨hk, ha⟩
    exact ⟨k, rfl, h.keeping (.of_builds hk), (hk h.agrees.numbered).2, ha⟩
  · exact fun why k ⟨hk, _⟩ => h.keeping (.of_builds hk)

/-- The record of a thread that was not there in `since` can be published, where no
record came since. -/
theorem publish_thread {since : Broker} {slot : Reservation ThreadRecord}
    {t : ThreadRecord} (h : first.Onward b) (hback : t.Backed b.kernel) (hsince : since.Agrees)
    (hthreads : b.threads = since.threads) (hnone : since.kernel.threadOwner? t.tid = none) :
    (threadPool.ask (Pool.activate slot t)).Leads b
      (fun handle b' => b' = { b with threads := b'.threads } ∧ first.Onward b' ∧
        b'.threads.get? handle = some t)
      (fun _ => first.Onward) := by
  refine Part.ask_leads (Pool.activate_leads.mono ?_ ?_)
  · rintro _ _ ⟨hslot, rfl, rfl⟩
    refine ⟨rfl, ⟨h.agrees.publish_thread hslot hback fun handle t' hget => ?_, h.kernel⟩, ?_⟩
    · exact hsince.tid_ne hnone (hthreads ▸ hget)
    · exact (Pool.get?_publish_eq_some_iff hslot).2 (.inl ⟨rfl, rfl⟩)
  · rintro _ _ ⟨_, _, rfl⟩
    exact h

theorem publish_rcv {slot : Reservation RcvRecord} {r : RcvRecord}
    (h : first.Onward b) (hback : r.Backed b.kernel) :
    (rcvPool.ask (Pool.activate slot r)).Leads b
      (fun handle b' => b' = { b with rcvs := b'.rcvs } ∧ first.Onward b' ∧
        b'.rcvs.get? handle = some r)
      (fun _ => first.Onward) := by
  refine Part.ask_leads (Pool.activate_leads.mono ?_ ?_)
  · rintro _ _ ⟨hslot, rfl, rfl⟩
    refine ⟨rfl, ⟨h.agrees.publish_rcv hslot hback, h.kernel⟩, ?_⟩
    exact (Pool.get?_publish_eq_some_iff hslot).2 (.inl ⟨rfl, rfl⟩)
  · rintro _ _ ⟨_, _, rfl⟩
    exact h

end Broker.Onward

/-! ### Components -/

theorem registerComponent_keeping (id : ComponentId) (name : String) (kind : ComponentKind)
    (resources : Option Kernel.Resources) {create : Step Kernel Kernel.Refusal Unit}
    (hc : Stays Kernel.Builds create) :
    Stays Broker.Keeping (registerComponent id name kind resources create) :=
  registerComponent_walks (C := Eq) componentPool_keeping keeping_tacit.notes _ _ _ _
    (kernelPart_keeping.run hc.explain)

theorem createVm_keeping (manager : ComponentId) : Stays Broker.Keeping (createVm manager) :=
  createVm_walks (C := Eq) componentPool_keeping keeping_tacit.notes _ fun id =>
    kernelPart_keeping.run (Kernel.createVmComponent_builds id vmName).explain

/-! ### Threads -/

theorem createThread_onward (h : b.Agrees) (client sched : ComponentId) :
    (createThread client sched).Leads b
      (fun created b' => b.Onward b' ∧ b'.threads.get? created.1 = some created.2 ∧
        ∃ thread cap, created.2 = ⟨thread, client, sched, .aliased cap⟩)
      (fun _ => b.Onward) := by
  refine Broker.Onward.look_bind (.refl h) (knownComponent_looks client) fun _ => ?_
  refine Broker.Onward.look_bind (.refl h) (knownComponent_looks sched) fun _ => ?_
  refine Broker.Onward.allocate (.refl h) threadPool_keeping fun slot threads h₁ => ?_
  refine Step.leads_bind.2 ((h₁.ask (Kernel.makes_builds.createThread client)
    ((Kernel.createThread_grants h₁.agrees.numbered client).mono (fun _ _ => id)
      fun _ _ _ => trivial)).mono ?_ fun _ _ => id)
  rintro thread _ ⟨k₁, rfl, h₂, -, hgrants, hnone, hthreads⟩
  -- Whether or not the scheduler's table takes it, the thread is there.
  have halias : (Step.attempt (Kernel.aliasThread thread sched) :
      Step Kernel Kernel.Refusal (Except Kernel.Refusal (Cap .thread))).Leads k₁
        (fun result k => ∀ cap, result = .ok cap → k.holds sched cap.slot = true)
        (fun _ _ => True) := by
    refine Step.leads_attempt.2 ((Kernel.aliasThread_grants hgrants.numbered thread sched).mono ?_
      fun _ _ _ => ⟨nofun, fun _ => trivial⟩)
    rintro cap k₂ ⟨hcap, _⟩ _ heq
    obtain rfl := Except.ok.inj heq
    exact hcap.holds (List.mem_singleton_self _)
  refine Step.leads_bind.2 ((h₂.ask
    (Kernel.makes_builds.aliasThread thread sched).attempt halias).mono ?_ fun _ _ => id)
  rintro result _ ⟨k₂, rfl, h₃, he, hheld⟩
  have hback : ∀ held, (∀ cap, held = .aliased cap → k₂.holds sched cap.slot = true) →
      ThreadRecord.Backed ⟨thread, client, sched, held⟩ k₂ := fun held hcap => by
    refine ⟨he.owners _ _ (Kernel.threadOwner?_of_insert hthreads), ?_, hcap⟩
    rw [he.selfId, hgrants.selfId]
    exact he.holds (hgrants.holds (List.mem_singleton_self _))
  cases result with
  | ok cap =>
    have hcap : ∀ cap', ThreadAlias.aliased cap = .aliased cap' →
        k₂.holds sched cap'.slot = true := by
      intro cap' heq
      obtain rfl := ThreadAlias.aliased.inj heq
      exact hheld cap rfl
    refine Step.leads_bind.2 ((h₃.publish_thread (hback _ hcap) h₁.agrees rfl hnone).mono ?_
      fun _ _ => id)
    rintro handle b₄ ⟨_, h₄, hget⟩
    exact Step.Leads.modify_bind (Step.leads_pure.2 ⟨h₄.noted, hget, thread, cap, rfl⟩)
  | error refusal =>
    refine Step.leads_bind.2 ((h₃.publish_thread (hback .failed nofun) h₁.agrees rfl hnone).mono ?_
      fun _ _ => id)
    rintro _ b₄ ⟨_, h₄, _⟩
    refine Step.Leads.modify_bind (Step.Leads.modify_bind (Step.leads_refuse.2 ?_))
    exact h₄.keeping (keeping_tacit b₄ _ _ _ _)

theorem createInitThread_onward (h : b.Agrees) (component : ComponentId) (core : CoreId) :
    (createInitThread component core).Leads b (fun _ => b.Onward) (fun _ => b.Onward) := by
  refine Broker.Onward.look_bind (.refl h) (knownComponent_looks component) fun _ => ?_
  refine Broker.Onward.allocate (.refl h) threadPool_keeping fun slot threads h₁ => ?_
  refine Step.leads_bind.2 ((h₁.ask (Kernel.makes_builds.newThread component)
    ((Kernel.newThread_grants h₁.agrees.numbered component).mono (fun _ _ => id)
      fun _ _ _ => trivial)).mono ?_ fun _ _ => id)
  rintro thread _ ⟨k₁, rfl, h₂, -, hgrants, hnone, hthreads⟩
  have hback : ThreadRecord.Backed ⟨thread, component, .none, .unaliased⟩ k₁ := by
    refine ⟨Kernel.threadOwner?_of_insert hthreads, ?_, fun _ => nofun⟩
    rw [hgrants.selfId]
    exact hgrants.holds (List.mem_singleton_self _)
  refine Step.leads_bind.2 ((h₂.publish_thread hback h₁.agrees rfl hnone).mono ?_ fun _ _ => id)
  rintro handle b₃ ⟨_, h₃, _⟩
  exact Step.Leads.modify_bind (Step.leads_pure.2 h₃.noted)

/-! ### Receive endpoints -/

/-- An endpoint that was made, in a kernel that goes on from there. -/
theorem RcvRecord.backed_of_makes {k k' k'' : Kernel} {rcv : Kernel.Rcv} {owner : ComponentId}
    {cap : Cap .rcv} (h : MakesRcv k k' owner rcv) (he : k'.Extends k'')
    (hcap : cap ≠ .null → k''.holds owner cap.slot = true) :
    RcvRecord.Backed ⟨rcv, owner, cap⟩ k'' := by
  refine ⟨he.owners _ _ (Kernel.threadOwner?_of_insert h.threads), fun slot hslot => ?_, hcap⟩
  rw [he.selfId, h.grants.selfId]
  exact he.holds (h.grants.holds hslot)

theorem createSchedExecution_onward (h : b.Agrees) (component : ComponentId) (core : CoreId) :
    (createSchedExecution component core).Leads b (fun _ => b.Onward) (fun _ => b.Onward) := by
  refine Step.Leads.get_bind (Step.Leads.require_bind (fun holder _ => ?_) fun _ => .refl h)
  refine Broker.Onward.allocate (.refl h) rcvPool_keeping fun slot rcvs h₁ => ?_
  refine Step.leads_bind.2 ((h₁.ask (Kernel.makes_builds.newRcv component)
    ((Kernel.newRcv_makes h₁.agrees.numbered component).mono (fun _ _ => id)
      fun _ _ _ => trivial)).mono ?_ fun _ _ => id)
  rintro rcv _ ⟨k₁, rfl, h₂, -, hmade⟩
  have hback := RcvRecord.backed_of_makes hmade (.refl k₁) fun hnull => absurd rfl hnull
  refine Step.leads_bind.2 ((h₂.publish_rcv hback).mono ?_ fun _ _ => id)
  rintro handle b₃ ⟨_, h₃, _⟩
  refine Step.Leads.modify_bind (Step.Leads.modify_bind (Step.leads_pure.2 ?_))
  exact (h₃.keeping (componentPool_keeping (S := fun _ _ => True) b₃ _ trivial)).noted

/-- The endpoint and its thread are published, and all that the owner was given is
live in its table; or what was made was taken back, up to what stays in nobody's
hands. -/
theorem createReceiveEndpoint_onward (h : b.Agrees) (component : ComponentId) (core : CoreId) :
    (createReceiveEndpoint component core).Leads b
      (fun created b' => b.Onward b' ∧
        (∀ slot ∈ created.aliases.slots, b'.kernel.holds component slot = true) ∧
        ∃ rcv, b'.rcvs.get? created.rcv = some ⟨rcv, component, created.aliases.rcv⟩ ∧
          rcv.thread.tid = created.tid)
      (fun _ => b.Onward) := by
  refine Broker.Onward.look_bind (.refl h) (schedulingEndpoint_looks component core) fun _ => ?_
  refine Broker.Onward.allocate (.refl h) rcvPool_keeping fun rcvSlot rcvs h₁ => ?_
  refine Broker.Onward.allocate h₁ threadPool_keeping fun threadSlot threads h₂ => ?_
  refine Step.leads_bind.2 ((h₂.ask (Kernel.makes_builds.createRcv component)
    ((Kernel.createRcv_makes h₂.agrees.numbered component).mono (fun _ _ => id)
      fun _ _ _ => trivial)).mono ?_ fun _ _ => id)
  rintro rcv _ ⟨k₁, rfl, h₃, -, hmade⟩
  have hobjects : Stays (Broker.ObjectMove fun _ _ => True) (aliasOrRevokeRcv rcv component) :=
    aliasOrRevokeRcv_objects rcv component
  refine Step.leads_bind.2 (((aliasOrRevokeRcv_settles (b := { b with rcvs, threads, kernel := k₁ })
    hmade component).and (hobjects _)).mono ?_ ?_)
  · rintro aliases b₄ ⟨⟨hrest, hgrants, hthreads⟩, -⟩
    obtain ⟨k₂, rfl⟩ : ∃ k, b₄ = { b with rcvs, threads, kernel := k } := ⟨_, hrest⟩
    have he : k₁.Extends k₂ := hgrants.extends hthreads
    have h₄ : b.Onward { b with rcvs, threads, kernel := k₂ } :=
      h₃.keeping (.of_builds fun _ => ⟨hgrants.numbered, he⟩)
    have haliases : ∀ slot ∈ aliases.slots, k₂.holds component slot = true :=
      fun slot hslot => hgrants.holds hslot
    have hrcv : RcvRecord.Backed ⟨rcv, component, aliases.rcv⟩ k₂ :=
      RcvRecord.backed_of_makes hmade he
        fun _ => haliases _ (List.mem_cons_of_mem _ List.mem_cons_self)
    have hthread : ThreadRecord.Backed
        ⟨rcv.thread, component, component, .aliased aliases.thread⟩ k₂ := by
      refine ⟨hrcv.owner, hrcv.caps _ List.mem_cons_self, fun cap heq => ?_⟩
      obtain rfl := ThreadAlias.aliased.inj heq
      exact haliases _ List.mem_cons_self
    -- Both records are published.
    refine Step.leads_bind.2 ((h₄.publish_thread hthread h₂.agrees rfl hmade.fresh).mono ?_
      fun _ _ => id)
    rintro thread b₅ ⟨hrest₅, h₅, -⟩
    have hkernel₅ : b₅.kernel = k₂ := hrest₅ ▸ rfl
    refine Step.leads_bind.2 ((h₅.publish_rcv (hkernel₅ ▸ hrcv)).mono ?_ fun _ _ => id)
    rintro handle b₆ ⟨hrest₆, h₆, hget⟩
    have hkernel₆ : b₆.kernel = b₅.kernel := hrest₆ ▸ rfl
    refine Step.Leads.modify_bind (Step.leads_pure.2
      ⟨h₆.noted, fun slot hslot => ?_, rcv, hget, rfl⟩)
    exact hkernel₆.trans hkernel₅ ▸ haliases slot hslot
  · rintro why b₄ ⟨⟨⟨hrest, he⟩, -⟩, hmove⟩
    rw [hrest]
    exact .of_kernel (b := { b with rcvs, threads }) h₂.agrees
      (hmove.kernel.numbered h₃.agrees.numbered) he rfl

/-! ### Send endpoints -/

/-- The endpoint is published; or what was made was taken back. -/
theorem createSendEndpoint_onward (h : b.Agrees) (component : ComponentId)
    (target : Handle RcvRecord) :
    (createSendEndpoint component target).Leads b
      (fun created b' => b.Onward b' ∧ b'.kernel.holds component created.2.slot = true ∧
        b'.rcvs = b.rcvs)
      (fun _ => b.Onward) := by
  refine Step.leads_bind.2 (Step.Leads.get_bind (Step.leads_require.2 ⟨fun rcv hrcv => ?_,
    fun _ => .refl h⟩))
  refine Broker.Onward.allocate (.refl h) asndPool_keeping fun slot asnds h₁ => ?_
  refine Step.leads_bind.2 ((h₁.ask (Kernel.makes_builds.createAsnd rcv.kernel)
    ((Kernel.createAsnd_grants h₁.agrees.numbered rcv.kernel).mono (fun _ _ => id)
      fun _ _ _ => trivial)).mono ?_ fun _ _ => id)
  rintro asnd _ ⟨k₁, rfl, h₂, -, hasnd, hthreads₁, htarget⟩
  have hobjects : Stays (Broker.ObjectMove fun _ _ => True) (aliasOrRevokeAsnd asnd component) :=
    aliasOrRevokeAsnd_objects asnd component
  refine Step.leads_bind.2 (((aliasOrRevokeAsnd_settles (b := { b with asnds, kernel := k₁ })
    hasnd hthreads₁ component).and (hobjects _)).mono ?_ ?_)
  · rintro cap b₃ ⟨⟨hrest, hgrants, hthreads⟩, -⟩
    obtain ⟨k₂, rfl⟩ : ∃ k, b₃ = { b with asnds, kernel := k } := ⟨_, hrest⟩
    have he : k₁.Extends k₂ := hgrants.extends hthreads
    have h₃ : b.Onward { b with asnds, kernel := k₂ } :=
      h₂.keeping (.of_builds fun _ => ⟨hgrants.numbered, he⟩)
    have hcap : k₂.holds component cap.slot = true := hgrants.holds (List.mem_singleton_self _)
    have hback : AsndRecord.Backed ⟨asnd, component, cap⟩ k₂ := by
      refine ⟨?_, hcap⟩
      rw [he.selfId, hasnd.selfId]
      exact he.holds (hasnd.holds (List.mem_singleton_self _))
    refine Step.leads_bind.2 (Part.ask_leads (Pool.activate_leads.mono ?_ ?_))
    · rintro _ _ ⟨hslot, rfl, rfl⟩
      have h₄ : b.Onward
          { b with asnds := asnds.publish slot ⟨asnd, component, cap⟩, kernel := k₂ } :=
        ⟨h₃.agrees.publish_asnd hslot hback ⟨target, rcv, hrcv, htarget⟩, h₃.kernel⟩
      exact Step.Leads.modify_bind (Step.leads_pure.2 ⟨h₄.noted, hcap, rfl⟩)
    · rintro _ _ ⟨_, _, rfl⟩
      exact h₃
  · rintro why b₃ ⟨⟨⟨hrest, he⟩, -⟩, hmove⟩
    rw [hrest]
    exact .of_kernel (b := { b with asnds }) h₁.agrees
      (hmove.kernel.numbered h₂.agrees.numbered) he rfl

/-! ### Endpoint pairs -/

/-- The owner holds all three capabilities, and the receive endpoint is on
record. -/
structure ReceiveEndpoint.Granted (e : ReceiveEndpoint) (owner : ComponentId) (b : Broker) :
    Prop where
  rcv : b.kernel.holds owner e.rcv.slot = true
  asnd : b.kernel.holds owner e.asnd.slot = true
  thread : b.kernel.holds owner e.thread.slot = true
  record : ∃ handle rcv, b.rcvs.get? handle = some ⟨rcv, owner, e.rcv⟩ ∧ rcv.thread.tid = e.tid

namespace Service

/-- The caller is granted its endpoint; or nothing is left on record. -/
theorem createEndpointPair_onward (h : b.Agrees) (i : Invocation) :
    (createEndpointPair i).Leads b (fun e b' => b.Onward b' ∧ e.Granted i.caller b')
      (fun _ => b.Onward) := by
  have hobjects : (createEndpointPair i).StaysFrom (Broker.ObjectMove fun _ _ => True) b :=
    createEndpointPair_objects b
  suffices hpair : (createEndpointPair i).Leads b
      (fun e b' => b.Onward b' ∧ e.Granted i.caller b')
      (fun _ b' => b.Onward b' ∨ b.Unchanged b' ∧ b'.kernel.objects = b.kernel.objects) by
    refine (hpair.and hobjects).mono (fun _ _ => And.left) ?_
    rintro why b' ⟨honward | ⟨hunchanged, heq⟩, hmove⟩
    · exact honward
    · exact hunchanged.onward h (hmove.kernel.numbered h.numbered)
        (.of_objects hmove.kernel.selfId heq)
  refine Step.leads_bind.2 ((acting_leads i).mono ?_ ?_)
  · rintro _ _ ⟨rfl, rfl, _⟩
    have hmakes := (createReceiveEndpoint_settles h.numbered i.caller i.core).and
      (createReceiveEndpoint_revocable i.caller i.core)
    refine Step.leads_bind.2 (((createReceiveEndpoint_onward h i.caller i.core).and hmakes).mono ?_
      fun _ _ hstop => .inl hstop.1)
    rintro created b₁ ⟨⟨h₁, haliases, rcv, hrcv, htid⟩, ⟨hmade, -⟩, hrevocable⟩
    refine Step.leads_bind.2 (Step.leads_attempt.2
      (((createSendEndpoint_onward h₁.agrees i.caller created.rcv).and
        (hmade.takenBack hrevocable i.caller)).mono ?_ ?_))
    · rintro ⟨asnd, cap⟩ b₂ ⟨⟨h₂, hcap, hrcvs⟩, -⟩
      refine Step.leads_pure.2 ⟨h₁.trans h₂, ?_, hcap, ?_, created.rcv, rcv, ?_, htid⟩
      · exact h₂.kernel.holds (haliases _ (List.mem_cons_of_mem _ List.mem_cons_self))
      · exact h₂.kernel.holds (haliases _ List.mem_cons_self)
      · exact hrcvs ▸ hrcv
    · rintro why b₂ ⟨h₂, htaken⟩
      refine ⟨fun failure hwhy => ?_, fun _ => .inl (h₁.trans h₂)⟩
      refine Step.leads_bind.2 ((htaken failure hwhy).mono ?_ fun _ _ => False.elim)
      exact fun _ b₃ h₃ => Step.leads_refuse.2 (.inr h₃)
  · rintro why _ ⟨rfl, rfl, _⟩
    exact .inl (.refl h)

end Service

end CapabilityBroker
