/-
CapabilityBroker/Proofs/CleanUp.lean

Clean-ups of endpoint pairs.

A request for an endpoint pair can still fail when the kernel has made the
receive endpoint: its capabilities may not be installed, there may be no slot
for a record of the send endpoint, the kernel may refuse the send endpoint, or
its capability may not be installed.  `Breaks` lists these places, with what
the request is refused for there and with the steps by which it then takes back
what it did.  An endpoint that is half taken back could not be taken back
again, so all depends on that no such step fails (`clean_up_never_fails`): then
the failure of that place is the one that is reported.
-/
import CapabilityBroker.Proofs.Endpoints
import CapabilityBroker.Proofs.Ends
import CapabilityBroker.Proofs.Pool.Totals

namespace CapabilityBroker

open Kernel (MakesRcv)

variable {b b' b₁ b₂ : Broker} {component : ComponentId} {core : CoreId} {created : RcvCreated}
variable {failure : Failure} {rcv : RcvRecord}

/-! ### Steps of a clean-up -/

/-- A step by which something is taken back. -/
inductive Undo where
  | revokeAsnd (asnd : Kernel.Asnd)
  | revokeAliases (aliases : Kernel.RcvAliases) (owner : ComponentId)
  | revokeRcv (rcv : Kernel.Rcv)
  | giveUpAsnd (slot : Reservation AsndRecord)
  | giveUpThread (slot : Reservation ThreadRecord)
  | giveUpRcv (slot : Reservation RcvRecord)
  | freeRcv (handle : Handle RcvRecord)
  | freeThread (handle : Handle ThreadRecord)
  | note (event : Event)

/-- Take it. -/
def Undo.step : Undo → Operation Unit
  | revokeAsnd asnd => askKernel (Kernel.revokeAsnd asnd)
  | revokeAliases aliases owner => askKernel (Kernel.revokeRcvAlias aliases owner)
  | revokeRcv rcv => askKernel (Kernel.revokeRcv rcv)
  | giveUpAsnd slot => modify fun b => asndPool.put ((asndPool.get b).unreserve slot) b
  | giveUpThread slot => modify fun b => threadPool.put ((threadPool.get b).unreserve slot) b
  | giveUpRcv slot => modify fun b => rcvPool.put ((rcvPool.get b).unreserve slot) b
  | freeRcv handle => (fun _ => ()) <$> rcvPool.ask (Pool.free handle)
  | freeThread handle => (fun _ => ()) <$> threadPool.ask (Pool.free handle)
  | note event => CapabilityBroker.note event

/-- The steps by which a receive endpoint on record is torn down. -/
def RcvCreated.tearDown (created : RcvCreated) (rcv : RcvRecord) : List Undo :=
  [.revokeAliases created.aliases rcv.owner, .revokeRcv rcv.kernel, .freeRcv created.rcv,
    .freeThread created.thread, .note (.rcvRevoked rcv.owner created.tid)]

theorem knownRcv_of_get? {handle : Handle RcvRecord} (h : b.rcvs.get? handle = some rcv) :
    knownRcv handle b = .ok rcv b := by
  obtain ⟨_, _, hknown, rfl, rfl⟩ := (knownRcv_leads h).exists_ok
  exact hknown

theorem revokeReceiveEndpoint_eq (created : RcvCreated) : revokeReceiveEndpoint created =
    knownRcv created.rcv >>= fun rcv => Step.each Undo.step (created.tearDown rcv) := by
  unfold revokeReceiveEndpoint RcvCreated.tearDown
  simp only [Step.each, Undo.step, map_eq_pure_bind, bind_assoc, pure_bind, bind_pure_unit]

/-! ### Where a request for an endpoint pair can fail -/

/-- A receive endpoint that the kernel has made, with the slots that are kept for
its records. -/
structure RcvOpened where
  rcvSlot : Reservation RcvRecord
  threadSlot : Reservation ThreadRecord
  rcv : Kernel.Rcv

/-- What the creation of a receive endpoint comes to up to there. -/
def openReceiveEndpoint (component : ComponentId) (core : CoreId) : Operation RcvOpened := do
  let _ ← schedulingEndpoint component core
  let rcvSlot ← rcvPool.ask Pool.allocate
  let threadSlot ← threadPool.ask Pool.allocate
  let rcv ← askKernel (Kernel.createRcv component)
  pure ⟨rcvSlot, threadSlot, rcv⟩

/-- Where the creation of a send endpoint can fail, what it is refused for there,
and by which steps it takes back what it did. -/
inductive SendBreaks (component : ComponentId) (rcv : RcvRecord) (b : Broker) :
    Failure → List Undo → Broker → Prop
  /-- There is no slot for its record. -/
  | exhausted {failure : Failure} {b' : Broker}
      (full : asndPool.ask Pool.allocate b = .error (.refused failure) b') :
      SendBreaks component rcv b failure [] b'
  /-- The kernel does not make it. -/
  | refused {failure : Failure} {b₁ b' : Broker} {slot : Reservation AsndRecord}
      (allocated : asndPool.ask Pool.allocate b = .ok slot b₁)
      (refused : askKernel (Kernel.createAsnd rcv.kernel) b₁ = .error (.refused failure) b') :
      SendBreaks component rcv b failure [.giveUpAsnd slot] b'
  /-- Its capability is not installed. -/
  | uninstalled {failure : Failure} {b₁ b₂ b' : Broker} {slot : Reservation AsndRecord}
      {asnd : Kernel.Asnd}
      (allocated : asndPool.ask Pool.allocate b = .ok slot b₁)
      (made : askKernel (Kernel.createAsnd rcv.kernel) b₁ = .ok asnd b₂)
      (refused : askKernel (Kernel.aliasAsnd component) b₂ = .error (.refused failure) b') :
      SendBreaks component rcv b failure [.revokeAsnd asnd, .giveUpAsnd slot] b'

/-- The same for an endpoint pair whose receive endpoint the kernel has made. -/
inductive Breaks (component : ComponentId) (core : CoreId) (b : Broker) :
    Failure → List Undo → Broker → Prop
  /-- The capabilities of the receive endpoint are not installed. -/
  | receive {failure : Failure} {b₁ b' : Broker} {made : RcvOpened}
      (opened : openReceiveEndpoint component core b = .ok made b₁)
      (refused : askKernel (Kernel.aliasRcv made.rcv component) b₁ =
        .error (.refused failure) b') :
      Breaks component core b failure
        [.revokeRcv made.rcv, .giveUpThread made.threadSlot, .giveUpRcv made.rcvSlot] b'
  /-- The receive endpoint is there, and the send endpoint fails. -/
  | send {failure : Failure} {b₁ b' : Broker} {created : RcvCreated} {rcv : RcvRecord}
      {undos : List Undo}
      (made : createReceiveEndpoint component core b = .ok created b₁)
      (known : b₁.rcvs.get? created.rcv = some rcv)
      (breaks : SendBreaks component rcv b₁ failure undos b') :
      Breaks component core b failure (undos ++ created.tearDown rcv) b'

/-! ### The number of records -/

/-- How many receive endpoints, threads and send endpoints are on record. -/
def Broker.published (b : Broker) : Nat × Nat × Nat :=
  (b.rcvs.active, b.threads.active, b.asnds.active)

/-- What a step of a clean-up makes of these numbers. -/
def Undo.released : Undo → Nat × Nat × Nat → Nat × Nat × Nat
  | freeRcv _, (rcvs, threads, asnds) => (rcvs - 1, threads, asnds)
  | freeThread _, (rcvs, threads, asnds) => (rcvs, threads - 1, asnds)
  | _, published => published

section Slots

variable {σ : Type} {part : Part (Pool σ)}

/-- A slot is not counted when it is kept, -/
theorem allocate_published
    (hput : ∀ p, p.active = (part.get b).active → (part.put p b).published = b.published) :
    (part.ask Pool.allocate).Leads b (fun _ b' => b'.published = b.published)
      (fun _ b' => b'.published = b.published) :=
  Part.ask_leads ((Pool.allocate_shuffles _).mono (fun _ p hp => hput p hp.active)
    fun _ p hp => hput p hp.active)

/-- nor when it is given up. -/
theorem giveUp_published (slot : Reservation σ)
    (hput : ∀ p, p.active = (part.get b).active → (part.put p b).published = b.published) :
    (modify fun b => part.put ((part.get b).unreserve slot) b : Operation Unit).Leads b
      (fun _ b' => b'.published = b.published) (fun _ _ => True) :=
  Step.leads_modify.2 (hput _ (Pool.Shuffles.unreserve slot).active)

end Slots

theorem Undo.step_published (undo : Undo) : undo.step.Leads b
    (fun _ b' => b'.published = undo.released b.published) (fun _ _ => True) := by
  have hkernel : ∀ {s : Step Kernel Kernel.Refusal Unit}, (askKernel s).Leads b
      (fun _ b' => b'.published = b.published) (fun _ _ => True) := fun {s} =>
    Part.run_leads (Step.leads_explain.2 (.of_forall (fun _ _ => rfl) fun _ _ => trivial))
  cases undo with
  | revokeAsnd asnd => exact hkernel
  | revokeAliases aliases owner => exact hkernel
  | revokeRcv rcv => exact hkernel
  | giveUpAsnd slot => exact giveUp_published slot fun p hp => congrArg (fun n => (_, _, n)) hp
  | giveUpThread slot => exact giveUp_published slot fun p hp => congrArg (fun n => (_, n, _)) hp
  | giveUpRcv slot => exact giveUp_published slot fun p hp => congrArg (fun n => (n, _, _)) hp
  | freeRcv handle =>
    refine Step.leads_map.2 (Part.ask_leads (Pool.free_leads.mono ?_ fun _ _ _ => trivial))
    rintro _ _ ⟨_, rfl⟩
    rfl
  | freeThread handle =>
    refine Step.leads_map.2 (Part.ask_leads (Pool.free_leads.mono ?_ fun _ _ _ => trivial))
    rintro _ _ ⟨_, rfl⟩
    rfl
  | note event => exact Step.leads_modify.2 rfl

theorem published_of_undone {undos : List Undo} (h : Step.each Undo.step undos b = .ok () b') :
    b'.published = undos.foldl (fun published undo => undo.released published) b.published := by
  induction undos generalizing b with
  | nil =>
    cases h
    rfl
  | cons undo rest ih =>
    obtain ⟨_, b₁, hfirst, hrest⟩ := Step.bind_eq_ok_iff.1 h
    rw [ih hrest, undo.step_published.of_ok hfirst]
    rfl

theorem SendBreaks.published {undos : List Undo} (h : SendBreaks component rcv b failure undos b') :
    b'.published = b.published := by
  have hallocate : (asndPool.ask Pool.allocate).Leads b (fun _ b' => b'.published = b.published)
      (fun _ b' => b'.published = b.published) :=
    allocate_published fun p hp => congrArg (fun n => (_, _, n)) hp
  cases h with
  | exhausted full => exact hallocate.of_error full
  | refused allocated refused =>
    have hkept := hallocate.of_ok allocated
    obtain ⟨_, _, _, _, rfl⟩ := askKernel_eq_refused refused
    exact hkept
  | uninstalled allocated made refused =>
    have hkept := hallocate.of_ok allocated
    obtain ⟨_, _, rfl⟩ := askKernel_eq_ok made
    obtain ⟨_, _, _, _, rfl⟩ := askKernel_eq_refused refused
    exact hkept

/-- The clean-up of a send endpoint frees no record. -/
theorem SendBreaks.released {undos : List Undo} (h : SendBreaks component rcv b failure undos b')
    (published : Nat × Nat × Nat) :
    undos.foldl (fun published undo => undo.released published) published = published := by
  cases h with
  | exhausted => rfl
  | refused => rfl
  | uninstalled => rfl

/-- The kernel makes the endpoint, and nothing is on record yet. -/
theorem openReceiveEndpoint_leads (hk : b.kernel.Numbered) (component : ComponentId)
    (core : CoreId) :
    (openReceiveEndpoint component core).Leads b
      (fun made b₁ => MakesRcv b.kernel b₁.kernel component made.rcv ∧
        b₁.published = b.published)
      (fun _ _ => True) := by
  refine Step.Leads.bind ((schedulingEndpoint_looks (R := Eq) component core b).mono
    (fun _ _ => id) fun _ _ _ => trivial) ?_
  rintro _ _ rfl
  refine Step.leads_bind.2 (Part.ask_leads ((Pool.allocate_shuffles b.rcvs).mono ?_
    fun _ _ _ => trivial))
  intro rcvSlot rcvs hrcvs
  refine Step.leads_bind.2 (Part.ask_leads ((Pool.allocate_shuffles b.threads).mono ?_
    fun _ _ _ => trivial))
  intro threadSlot threads hthreads
  refine Step.leads_bind.2 (Part.run_leads (Step.leads_explain.2
    ((Kernel.createRcv_makes hk component).mono ?_ fun _ _ _ => trivial)))
  intro rcv k hmade
  refine Step.leads_pure.2 ⟨hmade, ?_⟩
  show (rcvs.active, threads.active, b.asnds.active) = _
  rw [hrcvs.active, hthreads.active]
  rfl

/-- A receive endpoint comes with a thread. -/
theorem createReceiveEndpoint_published (component : ComponentId) (core : CoreId) :
    (createReceiveEndpoint component core).Leads b
      (fun _ b' => b'.published = (b.rcvs.active + 1, b.threads.active + 1, b.asnds.active))
      (fun _ _ => True) := by
  refine Step.Leads.bind ((schedulingEndpoint_looks (R := Eq) component core b).mono
    (fun _ _ => id) fun _ _ _ => trivial) ?_
  rintro _ _ rfl
  refine Step.leads_bind.2 (Part.ask_leads ((Pool.allocate_shuffles b.rcvs).mono ?_
    fun _ _ _ => trivial))
  intro rcvSlot rcvs hrcvs
  refine Step.leads_cleanly.2 (Step.leads_bind.2 (Part.ask_leads
    ((Pool.allocate_shuffles b.threads).mono ?_ fun _ _ _ => trivial)))
  intro threadSlot threads hthreads
  refine Step.leads_cleanly.2 (Step.leads_bind.2 (Part.run_leads (Step.leads_explain.2
    (.of_forall (fun rcv k => ?_) fun _ _ => trivial))))
  refine Step.leads_bind.2 ((aliasOrRevokeRcv_granted rcv component).mono ?_ fun _ _ _ => trivial)
  rintro aliases _ ⟨k₂, rfl, _⟩
  refine Step.leads_bind.2 (Part.ask_leads (Pool.activate_leads.mono ?_ fun _ _ _ => trivial))
  rintro thread _ ⟨_, rfl, rfl⟩
  refine Step.leads_bind.2 (Part.ask_leads (Pool.activate_leads.mono ?_ fun _ _ _ => trivial))
  rintro handle _ ⟨_, rfl, rfl⟩
  refine Step.Leads.modify_bind (Step.leads_pure.2 ?_)
  show (rcvs.active + 1, threads.active + 1, b.asnds.active) = _
  rw [hrcvs.active, hthreads.active]

/-! ### What is taken back -/

/-- What the creation of a receive endpoint comes to from there on. -/
def RcvOpened.publish (made : RcvOpened) (component : ComponentId) : Operation RcvCreated := do
  let aliases ← aliasOrRevokeRcv made.rcv component
  let thread ← threadPool.ask (Pool.activate made.threadSlot
    ⟨made.rcv.thread, component, component, .aliased aliases.thread⟩)
  let handle ← rcvPool.ask (Pool.activate made.rcvSlot ⟨made.rcv, component, aliases.rcv⟩)
  note (.rcvCreated component made.rcv.thread.tid)
  pure ⟨handle, thread, aliases, made.rcv.thread.tid⟩

variable {made : RcvOpened} {k : Kernel}

theorem createReceiveEndpoint_of_opened
    (hopened : openReceiveEndpoint component core b = .ok made b₁) :
    createReceiveEndpoint component core b = rcvPool.holding made.rcvSlot
      (threadPool.holding made.threadSlot (made.publish component)) b₁ := by
  obtain ⟨record, b₂, hscheduling, hopened⟩ := Step.bind_eq_ok_iff.1 hopened
  obtain ⟨rcvSlot, b₃, hrcv, hopened⟩ := Step.bind_eq_ok_iff.1 hopened
  obtain ⟨threadSlot, b₄, hthread, hopened⟩ := Step.bind_eq_ok_iff.1 hopened
  obtain ⟨rcv, b₅, hmade, hopened⟩ := Step.bind_eq_ok_iff.1 hopened
  cases hopened
  refine (Step.bind_of_ok hscheduling).trans ((Step.bind_of_ok hrcv).trans ?_)
  refine Step.cleanly_congr ((Step.bind_of_ok hthread).trans ?_)
  exact Step.cleanly_congr (Step.bind_of_ok hmade)

theorem aliasOrRevokeRcv_eq (rcv : Kernel.Rcv) (into : ComponentId) : aliasOrRevokeRcv rcv into =
    askOr (Kernel.aliasRcv rcv into) (Undo.revokeRcv rcv).step := by
  refine bind_congr fun aliased => ?_
  cases aliased with
  | ok aliases => rfl
  | error refusal => rfl

theorem aliasOrRevokeAsnd_eq (asnd : Kernel.Asnd) (into : ComponentId) :
    aliasOrRevokeAsnd asnd into =
      askOr (Kernel.aliasAsnd into) (Undo.revokeAsnd asnd).step := by
  refine bind_congr fun aliased => ?_
  cases aliased with
  | ok cap => rfl
  | error refusal => rfl

/-- Where its capabilities are not installed, the kernel's endpoint can be
revoked, and the slots for its records are given up. -/
theorem receive_cleansUp (hk : b.kernel.Numbered)
    (hopened : openReceiveEndpoint component core b = .ok made b₁)
    (hrefused : askKernel (Kernel.aliasRcv made.rcv component) b₁ =
      .error (.refused failure) b₂) :
    ∃ b', Step.each Undo.step
        [.revokeRcv made.rcv, .giveUpThread made.threadSlot, .giveUpRcv made.rcvSlot] b₂ =
          .ok () b' ∧
      createReceiveEndpoint component core b = .error (.refused failure) b' := by
  obtain ⟨hmade, _⟩ := (openReceiveEndpoint_leads hk component core).of_ok hopened
  obtain ⟨reason, k, halias, _, rfl⟩ := askKernel_eq_refused hrefused
  obtain ⟨⟨taken, hgrants, _⟩, hthreads⟩ :=
    (Kernel.aliasRcv_grants hmade.grants.numbered made.rcv component).of_error halias
  obtain ⟨_, k', hrevoke, _⟩ :=
    (hmade.revoke hgrants.selfId hthreads hgrants.live hgrants.new).exists_ok
  have hrevoke : askKernel (Kernel.revokeRcv made.rcv) { b₁ with kernel := k } =
      .ok () { b₁ with kernel := k' } := askKernel_of_ok hrevoke
  refine ⟨_, Step.bind_of_ok hrevoke, ?_⟩
  rw [createReceiveEndpoint_of_opened hopened]
  refine Step.cleanly_of_error (Step.cleanly_of_error ?_)
  refine Step.bind_of_error ?_
  rw [aliasOrRevokeRcv_eq]
  exact askOr_of_refused hrefused hrevoke

/-- A send endpoint that cannot be made or installed is taken back. -/
theorem SendBreaks.cleansUp {undos : List Undo} {target : Handle RcvRecord}
    (hk : b.kernel.Numbered) (hknown : b.rcvs.get? target = some rcv)
    (h : SendBreaks component rcv b failure undos b₂) :
    ∃ b', Step.each Undo.step undos b₂ = .ok () b' ∧
      createSendEndpoint component target b = .error (.refused failure) b' := by
  have hknown : knownRcv target b = .ok rcv b := knownRcv_of_get? hknown
  cases h with
  | exhausted full =>
    exact ⟨b₂, rfl, (Step.bind_of_ok hknown).trans (Step.bind_of_error full)⟩
  | refused allocated refused =>
    refine ⟨_, rfl, (Step.bind_of_ok hknown).trans ((Step.bind_of_ok allocated).trans ?_)⟩
    exact Step.cleanly_of_error (Step.bind_of_error refused)
  | @uninstalled b₃ b₄ _ slot asnd allocated made refused =>
    have hsame : b₃.kernel = b.kernel := by
      obtain ⟨p, _, rfl⟩ := Step.within_eq_ok_iff.1 allocated
      rfl
    obtain ⟨k₁, hmade, rfl⟩ := askKernel_eq_ok made
    rw [hsame] at hmade
    obtain ⟨hgrants, hthreads, _⟩ := (Kernel.createAsnd_grants hk rcv.kernel).of_ok hmade
    obtain ⟨reason, k₂, halias, _, rfl⟩ := askKernel_eq_refused refused
    obtain ⟨hself, hobjects⟩ :=
      (Kernel.aliasAsnd_objects hgrants.numbered component).of_error halias
    obtain ⟨_, k₃, hrevoke, _⟩ := (hgrants.revokeAsnd hthreads hself hobjects).exists_ok
    have hrevoke : askKernel (Kernel.revokeAsnd asnd) { b₃ with kernel := k₂ } =
        .ok () { b₃ with kernel := k₃ } := askKernel_of_ok hrevoke
    refine ⟨_, Step.bind_of_ok hrevoke, ?_⟩
    refine (Step.bind_of_ok hknown).trans ((Step.bind_of_ok allocated).trans ?_)
    refine Step.cleanly_of_error ((Step.bind_of_ok made).trans ?_)
    refine Step.bind_of_error ?_
    rw [aliasOrRevokeAsnd_eq]
    exact askOr_of_refused refused hrevoke

namespace Service

variable {i : Invocation}

/-- A scheduler on the core is on record. -/
theorem acting_of_scheduling {record : RcvRecord}
    (h : schedulingEndpoint i.caller i.core b = .ok record b₁) :
    acting i b = .ok i.caller b := by
  obtain ⟨found, _, hknown, _⟩ := Step.bind_eq_ok_iff.1 h
  obtain ⟨_, _, hget, hrequire⟩ := Step.bind_eq_ok_iff.1 hknown
  cases hget
  have hfound : b.component? i.caller = some found := (Step.require_eq_ok_iff.1 hrequire).1
  have hacts : b.hasComponent i.caller = true := Option.isSome_iff_exists.2 ⟨found, hfound⟩
  show (if b.hasComponent i.caller then pure i.caller
    else Step.refuse (.unknownComponent i.caller) : Operation ComponentId) b = _
  rw [if_pos hacts]
  rfl

/-- A receive endpoint is torn down where the send endpoint to it fails. -/
theorem send_cleansUp {undos : List Undo} (hk : b.kernel.Numbered)
    (hcreated : createReceiveEndpoint i.caller i.core b = .ok created b₁)
    (hknown : b₁.rcvs.get? created.rcv = some rcv)
    (hbreaks : SendBreaks i.caller rcv b₁ failure undos b₂) :
    ∃ b', Step.each Undo.step (undos ++ created.tearDown rcv) b₂ = .ok () b' ∧
      createEndpointPair i b = .error (.refused failure) b' := by
  obtain ⟨⟨r, k, _, _, _, hgrants, _⟩, _⟩ :=
    (createReceiveEndpoint_settles hk i.caller i.core).of_ok hcreated
  have hrevocable := (createReceiveEndpoint_revocable i.caller i.core).of_ok hcreated
  obtain ⟨b₃, hundone, hsend⟩ := hbreaks.cleansUp hgrants.numbered hknown
  -- Nothing that the second half did stands in the way of the tear-down.
  have hreverts : (createSendEndpoint i.caller created.rcv).Reverts Broker.Unchanged
      (fun _ => True) b₁ b₁ := createSendEndpoint_reverts i.caller created.rcv
  have hunchanged : b₁.Unchanged b₃ := hreverts.of_error hsend trivial
  have habove := (createSendEndpoint_above i.caller created.rcv b₁).of_error hsend
  obtain ⟨_, b', hrevoke, _⟩ := (hrevocable.after hunchanged habove).revoke.exists_ok
  have hstill : knownRcv created.rcv b₃ = .ok rcv b₃ :=
    knownRcv_of_get? ((hunchanged.rcvs.get?_eq _).trans hknown)
  have htorn : Step.each Undo.step (created.tearDown rcv) b₃ = .ok () b' := by
    rw [revokeReceiveEndpoint_eq] at hrevoke
    exact (Step.bind_of_ok hstill).symm.trans hrevoke
  refine ⟨b', ?_, ?_⟩
  · rw [Step.each_append]
    exact (Step.bind_of_ok hundone).trans htorn
  · obtain ⟨record, _, hscheduling, _⟩ := Step.bind_eq_ok_iff.1 hcreated
    refine (Step.bind_of_ok (acting_of_scheduling hscheduling)).trans ?_
    refine (Step.bind_of_ok hcreated).trans ?_
    exact (Step.bind_of_ok (Step.attempt_of_refused hsend)).trans (Step.bind_of_ok hrevoke)

/-- Wherever the request fails, all steps of its clean-up succeed, and what it
reports is why it failed there. -/
theorem breaks_cleansUp {undos : List Undo} (hk : b.kernel.Numbered)
    (h : Breaks i.caller i.core b failure undos b₂) :
    ∃ b', Step.each Undo.step undos b₂ = .ok () b' ∧
      createEndpointPair i b = .error (.refused failure) b' := by
  cases h with
  | receive opened refused =>
    obtain ⟨b', hundone, hcreate⟩ := receive_cleansUp hk opened refused
    obtain ⟨record, _, hscheduling, _⟩ := Step.bind_eq_ok_iff.1 opened
    refine ⟨b', hundone, (Step.bind_of_ok (acting_of_scheduling hscheduling)).trans ?_⟩
    exact Step.bind_of_error hcreate
  | send made known breaks => exact send_cleansUp hk made known breaks

end Service

/-- The records are as many as before. -/
theorem Breaks.published {undos : List Undo} (hk : b.kernel.Numbered)
    (h : Breaks component core b failure undos b₂)
    (hundone : Step.each Undo.step undos b₂ = .ok () b') : b'.published = b.published := by
  rw [published_of_undone hundone]
  cases h with
  | receive opened refused =>
    have hpublished := ((openReceiveEndpoint_leads hk component core).of_ok opened).2
    obtain ⟨_, _, _, _, rfl⟩ := askKernel_eq_refused refused
    exact hpublished
  | send made known breaks =>
    have hcreated := (createReceiveEndpoint_published component core).of_ok made
    rw [List.foldl_append, breaks.released, breaks.published, hcreated]
    rfl

/-! ### There are no other places -/

/-- With its capabilities installed, a receive endpoint is not refused any more. -/
theorem breaks_of_refused_receive (hk : b.kernel.Numbered)
    (hopened : openReceiveEndpoint component core b = .ok made b₁)
    (hrefused : createReceiveEndpoint component core b = .error (.refused failure) b') :
    ∃ undos b₂, Breaks component core b failure undos b₂ := by
  have hpublish := hrefused
  rw [createReceiveEndpoint_of_opened hopened] at hpublish
  obtain ⟨_, hpublish⟩ := Step.exists_of_cleanly_error hpublish
  obtain ⟨_, hpublish⟩ := Step.exists_of_cleanly_error hpublish
  cases halias : askKernel (Kernel.aliasRcv made.rcv component) b₁ with
  | ok aliases b₂ =>
    have hinstalled : aliasOrRevokeRcv made.rcv component b₁ = .ok aliases b₂ := by
      rw [aliasOrRevokeRcv_eq]
      exact askOr_of_ok halias
    have hrest := (Step.bind_of_ok hinstalled).symm.trans hpublish
    refine Step.Certain.absurd ?_ hrest
    refine (certain_activate made.threadSlot _).bind fun _ => ?_
    exact (certain_activate made.rcvSlot _).bind fun _ => (certain_note _).bind fun _ => .pure
  | error why b₂ =>
    cases why with
    | refused reason =>
      obtain ⟨_, _, hcreate⟩ := receive_cleansUp hk hopened halias
      cases hrefused.symm.trans hcreate
      exact ⟨_, _, .receive hopened halias⟩
    | abort =>
      have hstop : aliasOrRevokeRcv made.rcv component b₁ = .error .abort b₂ := by
        rw [aliasOrRevokeRcv_eq]
        exact askOr_of_abort halias
      cases (Step.bind_of_error hstop).symm.trans hpublish

theorem sendBreaks_of_refused {target : Handle RcvRecord} (hk : b.kernel.Numbered)
    (hknown : b.rcvs.get? target = some rcv)
    (hrefused : createSendEndpoint component target b = .error (.refused failure) b') :
    ∃ undos b₂, SendBreaks component rcv b failure undos b₂ := by
  have hfailure : ∀ {reason undos b₂}, SendBreaks component rcv b reason undos b₂ →
      ∃ undos b₂, SendBreaks component rcv b failure undos b₂ := fun {reason undos b₂} h => by
    obtain ⟨_, _, hcreate⟩ := h.cleansUp hk hknown
    cases hrefused.symm.trans hcreate
    exact ⟨undos, b₂, h⟩
  have hrest := (Step.bind_of_ok (knownRcv_of_get? hknown)).symm.trans hrefused
  cases hallocate : asndPool.ask Pool.allocate b with
  | error why b₁ =>
    cases (Step.bind_of_error hallocate).symm.trans hrest
    exact hfailure (.exhausted hallocate)
  | ok slot b₁ =>
    obtain ⟨_, hrest⟩ := Step.exists_of_cleanly_error ((Step.bind_of_ok hallocate).symm.trans hrest)
    cases hmade : askKernel (Kernel.createAsnd rcv.kernel) b₁ with
    | error why b₂ =>
      cases (Step.bind_of_error hmade).symm.trans hrest
      exact hfailure (.refused hallocate hmade)
    | ok asnd b₂ =>
      have hrest := (Step.bind_of_ok hmade).symm.trans hrest
      cases halias : askKernel (Kernel.aliasAsnd component) b₂ with
      | ok cap b₃ =>
        have hinstalled : aliasOrRevokeAsnd asnd component b₂ = .ok cap b₃ := by
          rw [aliasOrRevokeAsnd_eq]
          exact askOr_of_ok halias
        have hrest := (Step.bind_of_ok hinstalled).symm.trans hrest
        refine Step.Certain.absurd ?_ hrest
        exact (certain_activate slot _).bind fun _ => (certain_note _).bind fun _ => .pure
      | error why b₃ =>
        cases why with
        | refused reason => exact hfailure (.uninstalled hallocate hmade halias)
        | abort =>
          have hstop : aliasOrRevokeAsnd asnd component b₂ = .error .abort b₃ := by
            rw [aliasOrRevokeAsnd_eq]
            exact askOr_of_abort halias
          cases (Step.bind_of_error hstop).symm.trans hrest

namespace Service

variable {i : Invocation}

theorem breaks_of_refused (hk : b.kernel.Numbered)
    (hopened : openReceiveEndpoint i.caller i.core b = .ok made b₁)
    (hrefused : createEndpointPair i b = .error (.refused failure) b') :
    ∃ undos b₂, Breaks i.caller i.core b failure undos b₂ := by
  obtain ⟨record, _, hscheduling, _⟩ := Step.bind_eq_ok_iff.1 hopened
  have hrest := (Step.bind_of_ok (acting_of_scheduling hscheduling)).symm.trans hrefused
  cases hcreate : createReceiveEndpoint i.caller i.core b with
  | error why b₂ =>
    cases (Step.bind_of_error hcreate).symm.trans hrest
    exact breaks_of_refused_receive hk hopened hcreate
  | ok created b₂ =>
    have hrest := (Step.bind_of_ok hcreate).symm.trans hrest
    obtain ⟨⟨r, k, hknown, _, _, hgrants, _⟩, _⟩ :=
      (createReceiveEndpoint_settles hk i.caller i.core).of_ok hcreate
    cases hsend : createSendEndpoint i.caller created.rcv b₂ with
    | ok answer b₃ => cases (Step.bind_of_ok (Step.attempt_of_ok hsend)).symm.trans hrest
    | error why b₃ =>
      cases why with
      | refused reason =>
        obtain ⟨undos, b₄, hbreaks⟩ := sendBreaks_of_refused hgrants.numbered hknown hsend
        obtain ⟨_, _, hpair⟩ := send_cleansUp hk hcreate hknown hbreaks
        cases hrefused.symm.trans hpair
        exact ⟨_, _, .send hcreate hknown hbreaks⟩
      | abort => cases (Step.bind_of_error (Step.attempt_of_abort hsend)).symm.trans hrest

/-! ### Along a run -/

variable {s : Setting} {image : Image}

/-- Where the kernel has made the receive endpoint of a pair and the request
fails, it fails at one of the places of `Breaks`; wherever that is, all steps
of its clean-up succeed, what it reports is why it failed there, and as many
endpoints and threads are on record as before it. -/
theorem clean_up_never_fails (h : Reached s image b) (i : Invocation) (entry : EntryIndex)
    (flags : Kernel.RcvFlags)
    (opened : openReceiveEndpoint i.caller i.core b = .ok made b₁) :
    (∀ failure b', perform image i (.createReceiveEndpoint entry flags) b =
        .error (.refused failure) b' →
      ∃ undos b₂, Breaks i.caller i.core b failure undos b₂) ∧
    ∀ failure undos b₂, Breaks i.caller i.core b failure undos b₂ →
      ∃ b', Step.each Undo.step undos b₂ = .ok () b' ∧
        perform image i (.createReceiveEndpoint entry flags) b = .error (.refused failure) b' ∧
        b'.published = b.published := by
  have hperform : ∀ why b', perform image i (.createReceiveEndpoint entry flags) b =
      .error why b' ↔ createEndpointPair i b = .error why b' := fun why b' => by
    show (finishing (Reply.receiveEndpoint <$> createEndpointPair i)) b = _ ↔ _
    unfold finishing
    cases hpair : createEndpointPair i b with
    | ok answer b₂ =>
      rw [Step.map_of_ok (Step.map_of_ok hpair)]
      exact iff_of_false nofun nofun
    | error why' b₂ =>
      rw [Step.map_of_error (Step.map_of_error hpair)]
      exact ⟨fun heq => by cases heq; rfl, fun heq => by cases heq; rfl⟩
  refine ⟨fun failure b' hp => breaks_of_refused h.numbered opened ((hperform _ _).1 hp), ?_⟩
  intro failure undos b₂ hbreaks
  obtain ⟨b', hundone, hpair⟩ := breaks_cleansUp h.numbered hbreaks
  exact ⟨b', hundone, (hperform _ _).2 hpair, hbreaks.published h.numbered hundone⟩

/-- Where the send endpoint cannot be installed, the whole pair is taken back. -/
theorem refused_pair_is_cleaned_up :
    ∃ image b made b₁ undos b₂ b', Reached .withoutAsnd image b ∧
      openReceiveEndpoint ⟨6⟩ ⟨0⟩ b = .ok made b₁ ∧
      Breaks ⟨6⟩ ⟨0⟩ b (.kernel (.rejected "asnd alias failed")) undos b₂ ∧
      Step.each Undo.step undos b₂ = .ok () b' ∧
      perform image ⟨⟨6⟩, ⟨0⟩⟩ endpointPair b =
        .error (.refused (.kernel (.rejected "asnd alias failed"))) b' ∧
      b'.published = b.published := by
  have hrun : (Setting.withoutAsnd.run [.parallelInit ⟨0⟩ true]).any (fun p =>
      ((openReceiveEndpoint ⟨6⟩ ⟨0⟩).stop? p.2).isNone &&
        (refusalOf p.1 ⟨⟨6⟩, ⟨0⟩⟩ endpointPair p.2).any fun r =>
          r.1 = .kernel (.rejected "asnd alias failed")) = true := by decide +kernel
  obtain ⟨image, b, hreached, hshows⟩ := exists_reached hrun
  obtain ⟨hopens, hrefuses⟩ := Bool.and_eq_true_iff.1 hshows
  obtain ⟨made, b₁, hopened⟩ := Step.exists_ok_of_stop? (Option.isNone_iff_eq_none.1 hopens)
  obtain ⟨⟨failure, last⟩, hrefusal, hfailure⟩ := (Option.any_eq_true _ _).1 hrefuses
  obtain rfl := of_decide_eq_true hfailure
  obtain ⟨hbreaks, hcleansUp⟩ :=
    clean_up_never_fails hreached ⟨⟨6⟩, ⟨0⟩⟩ ⟨1⟩ ⟨0⟩ hopened
  obtain ⟨undos, b₂, hbroken⟩ := hbreaks _ _ (of_refusalOf hrefusal)
  obtain ⟨b', hundone, hperform, hpublished⟩ := hcleansUp _ _ _ hbroken
  exact ⟨image, b, made, b₁, undos, b₂, b', hreached, hopened, hbroken, hundone, hperform,
    hpublished⟩

end Service

end CapabilityBroker
