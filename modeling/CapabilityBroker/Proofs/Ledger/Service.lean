/-
CapabilityBroker/Proofs/Ledger/Service.lean

Requests, and the parts that the cores do, keep the books.

A request that is answered keeps them and loses no frame, whether the answer is
what was asked for or the empty reply.  One that aborts keeps them too.  Only of
a request that shows a defect nothing is said (`dispatch_keepsBooks`).
-/
import CapabilityBroker.Proofs.Ledger.Memory
import CapabilityBroker.Proofs.Move.Service

namespace CapabilityBroker

open Step (Stays StaysFrom KeepsBooks)

variable {b b' : Broker} {α β ε ε' : Type}

/-! ### Reasons -/

/-- A reason that is plain stays plain when it is given another form. -/
theorem Step.KeepsBooks.explain {plain : ε → Prop} {plain' : ε' → Prop} {g : ε → ε'}
    {s : Step Broker ε α} (hs : s.KeepsBooks plain b)
    (hplain : ∀ reason, plain' (g reason) → plain reason) :
    (s.explain g).KeepsBooks plain' b := by
  refine Step.leads_explain.2 (hs.mono (fun _ _ => id) fun why b' hclose => ?_)
  cases why with
  | refused reason => exact fun h => hclose (hplain reason h)
  | abort => exact hclose

theorem Step.KeepsBooks.each {plain : ε → Prop} {f : α → Step Broker ε Unit} {l : List α}
    (hf : ∀ a ∈ l, ∀ b, (f a).KeepsBooks plain b) : (Step.each f l).KeepsBooks plain b := by
  induction l generalizing b with
  | nil => exact .pure
  | cons a l ih =>
    refine .bind (hf a List.mem_cons_self b) fun _ b₁ _ => ?_
    exact ih fun a' ha' => hf a' (List.mem_cons_of_mem a ha')

/-! ### Signals -/

theorem balances_ignoresSignals : IgnoresSignals Broker.Balances where
  turn b _ _ _ :=
    .of_quiet rfl rfl rfl rfl rfl (refl_of Pool.Shuffles _) (refl_of Pool.Shuffles _)
  transition b id phase :=
    .post rfl rfl rfl rfl rfl (fun _ _ h => h) (by rintro ⟨⟩ <;> rfl) nofun
  exit b id retval := .post rfl rfl rfl rfl rfl (fun _ _ h => h) (by rintro ⟨⟩ <;> rfl) nofun

namespace Service

variable {i : Invocation}

/-! ### Who asks -/

/-- A caller without a record is refused. -/
theorem acted_keepsBooks {f : ComponentId → Operation α}
    (hf : ∀ caller b, (f caller).KeepsBooks Failure.Ordinary b) :
    (acting i >>= f).KeepsBooks Failure.Ordinary b := by
  have hacting : Stays Broker.Balances (acting i) :=
    .get_bind fun b => .ite (fun _ => Stays.pure b) fun _ => Stays.refuse b
  exact .stays_bind hacting fun caller b₁ _ => hf caller b₁

theorem aligned_keepsBooks {align : Option UInt64} {f : UInt64 → Operation α}
    (hf : ∀ align b, (f align).KeepsBooks Failure.Ordinary b) :
    (alignment align >>= f).KeepsBooks Failure.Ordinary b :=
  .stays_bind (alignment_stays align) fun align b₁ _ => hf align b₁

/-! ### Threads and endpoints -/

theorem deny_balances (caller target : ComponentId) :
    Stays Broker.Balances (deny caller target : Operation α) := by
  refine (log_balances _ _).bind fun _ => Stays.bind (.modify fun b => ?_) fun _ => .refuse
  exact .post rfl rfl rfl rfl rfl (fun _ _ => id) (by rintro ⟨⟩ <;> rfl) nofun

theorem authorize_balances (image : Image) (caller client : ComponentId) :
    Stays Broker.Balances (authorize image caller client) :=
  (knownComponent_looks client).bind fun _ => .ite .pure (deny_balances _ _)

theorem createClientThread_keepsBooks (image : Image) (client : ComponentId) :
    (createClientThread image i client).KeepsBooks Failure.Ordinary b :=
  .stays_bind (authorize_balances _ _ _) fun _ _ _ =>
    (createThread_keepsBooks _ _).bind fun _ _ _ => .pure

theorem createVcpu_keepsBooks (vm : ComponentId) :
    (createVcpu i vm).KeepsBooks Failure.Ordinary b := by
  refine .stays_bind (knownComponent_looks vm) fun machine b₁ _ => ?_
  split
  · exact .refuse
  · refine Step.Leads.ite (fun _ => (deny_balances _ _ _).keepsBooks) fun _ => ?_
    exact (createThread_keepsBooks _ _).bind fun _ _ _ => .pure

/-- The pools of threads and of receive endpoints are the same. -/
def SameEndpoints (b b' : Broker) : Prop := b'.threads = b.threads ∧ b'.rcvs = b.rcvs

instance : IsPreorder Broker SameEndpoints where
  refl _ := ⟨rfl, rfl⟩
  trans _ _ _ h h' := ⟨h'.1.trans h.1, h'.2.trans h.2⟩

theorem createSendEndpoint_sameEndpoints (component : ComponentId) (target : Handle RcvRecord) :
    Stays SameEndpoints (createSendEndpoint component target) := by
  have hask : ∀ {α : Type} {s : Step Kernel Kernel.Refusal α}, Stays SameEndpoints (askKernel s) :=
    fun {_ s} _ => Part.run_leads (Step.leads_explain.2
      (.of_forall (fun _ _ => ⟨rfl, rfl⟩) fun _ _ => ⟨rfl, rfl⟩))
  have hpool : asndPool.Allows SameEndpoints Pool.Reserves := fun _ _ _ => ⟨rfl, rfl⟩
  refine (knownRcv_looks target).bind fun rcv => ?_
  refine (hpool.ask Pool.allocate_stays).bind fun slot b => hpool.holding ?_
  refine Stays.bind hask (fun asnd => ?_) b
  have halias : Stays SameEndpoints (aliasOrRevokeAsnd asnd component) := by
    refine Stays.bind hask fun aliased => ?_
    cases aliased with
    | ok cap => exact .pure
    | error refusal => exact Stays.bind hask fun _ => .refuse
  refine halias.bind fun cap => ?_
  have hactivate : asndPool.Allows SameEndpoints (Pool.Moves Eq fun _ => True) :=
    fun _ _ _ => ⟨rfl, rfl⟩
  refine (hactivate.ask (Pool.activate_stays trivial slot)).bind fun handle => ?_
  exact Stays.bind (.modify fun _ => ⟨rfl, rfl⟩) fun _ => .pure

/-- Where the send endpoint fails, the receive endpoint is taken off the books
again. -/
theorem createEndpointPair_keepsBooks :
    (createEndpointPair i).KeepsBooks Failure.Ordinary b := by
  refine acted_keepsBooks fun caller b => ?_
  refine Step.leads_bind.2 (((createReceiveEndpoint_keepsBooks caller i.core).and
    (createReceiveEndpoint_revocable caller i.core)).mono ?_ fun _ _ h => h.1)
  rintro created b₁ ⟨⟨hkept, hthreads, hrcvs⟩, hrevocable⟩
  have hsend : (createSendEndpoint caller created.rcv).KeepsBooks (fun _ => True) b₁ :=
    createSendEndpoint_keepsBooks caller created.rcv
  have hsame := createSendEndpoint_sameEndpoints caller created.rcv b₁
  have habove := createSendEndpoint_above caller created.rcv b₁
  have hundone : (createSendEndpoint caller created.rcv).Reverts Broker.Unchanged
      (fun _ => True) b₁ b₁ := createSendEndpoint_reverts caller created.rcv
  refine Step.leads_bind.2 (Step.leads_attempt.2
    (((hsend.and hsame).and (habove.and hundone)).mono ?_ ?_))
  · rintro answer b₂ ⟨⟨hbalances, _⟩, _⟩
    exact Step.leads_pure.2 (trans_of Broker.Balances hkept hbalances)
  · rintro why b₂ ⟨⟨hclose, hthreads₂, hrcvs₂⟩, habove, hundone⟩
    refine ⟨?_, ?_⟩
    · rintro failure rfl
      have hrevoked := (hrevocable.after (hundone trivial) habove).revoke
      have hbooks := revokeReceiveEndpoint_balances (b := b₂) created (hthreads₂ ▸ hthreads)
        (hrcvs₂ ▸ hrcvs)
      refine Step.leads_bind.2 ((hbooks.and hrevoked).mono ?_ fun _ _ h => h.2.elim)
      rintro _ b₃ ⟨hbalances, _⟩
      have hsecond := trans_of Broker.Balances (hclose trivial) hbalances
      exact Step.leads_refuse.2 (.of_balances (trans_of Broker.Balances hkept hsecond))
    · rintro rfl
      exact trans_of Broker.Posts hkept.toPosts hclose

/-! ### Memory -/

theorem mapSharedSpanInVm_keepsBooks (vm : ComponentId) (span : Nat) (align : Option UInt64) :
    (mapSharedSpanInVm i vm span align).KeepsBooks Failure.Ordinary b :=
  .stays_bind (knownComponent_looks vm) fun _ _ _ =>
    Step.Leads.ite (fun _ => (deny_balances _ _ _).keepsBooks) fun _ =>
      aligned_keepsBooks fun _ _ => mapSpan_keepsBooks _ _ _

/-! ### Requests -/

theorem perform_keepsBooks (image : Image) (i : Invocation) (request : Request) :
    (perform image i request).KeepsBooks Failure.Ordinary b := by
  cases request with
  | createThread client entry => exact (createClientThread_keepsBooks image client).map.map
  | createThreadThunk entry =>
    refine KeepsBooks.map (.map (acted_keepsBooks fun caller b => ?_))
    exact (createThread_keepsBooks caller caller).bind fun _ _ _ => .pure
  | createInitThread client => exact (createClientThread_keepsBooks image client).map.map
  | createVcpu vm entry => exact (createVcpu_keepsBooks vm).map.map
  | createReceiveEndpoint entry flags => exact createEndpointPair_keepsBooks.map.map
  | createVmComponent =>
    exact .map (.map (acted_keepsBooks fun caller b => createVm_keepsBooks caller))
  | translate vaddr =>
    refine .map (.map (acted_keepsBooks fun caller b => ?_))
    exact (translate_stays (R := Broker.Balances) caller _ b).keepsBooks
  | allocateHeapPages count align =>
    refine KeepsBooks.map (.map (acted_keepsBooks fun caller b => aligned_keepsBooks ?_))
    exact fun _ _ => (allocatePages_keepsBooks _ _ _).bind fun _ _ _ => .pure
  | mapPhysicalRegion paddr size =>
    refine .map (.map (acted_keepsBooks fun caller b => ?_))
    exact (mapPhysical_counts kernelPart_balances caller _ _ b).keepsBooks
  | allocateSharedPages count align =>
    refine KeepsBooks.map (.bind ?_ fun answer b₁ _ => (spanReply_stays answer b₁).keepsBooks)
    exact acted_keepsBooks fun caller b => aligned_keepsBooks fun _ _ =>
      allocateShared_keepsBooks _ _ _
  | mapSharedSpan span align =>
    refine KeepsBooks.map (.bind ?_ fun answer b₁ _ => (mappedReply_stays answer b₁).keepsBooks)
    exact acted_keepsBooks fun caller b => aligned_keepsBooks fun _ _ => mapSpan_keepsBooks _ _ _
  | mapSharedSpanInVm vm span align =>
    refine KeepsBooks.map (.bind ?_ fun answer b₁ _ => (mappedReply_stays answer b₁).keepsBooks)
    exact mapSharedSpanInVm_keepsBooks vm _ align
  | allocateContiguousPages count =>
    exact .map (.map (acted_keepsBooks fun caller b => (carveContig_keepsBooks _ _ _).map))
  | allocateContiguousShared count align =>
    refine KeepsBooks.map (.bind ?_ fun answer b₁ _ => (spanReply_stays answer b₁).keepsBooks)
    exact acted_keepsBooks fun caller b => aligned_keepsBooks fun _ _ =>
      allocateContiguousShared_keepsBooks _ _ _
  | signalInitDone parallel mode =>
    have hs := balances_ignoresSignals.signalDone
    exact .map (acted_keepsBooks fun caller b => (hs caller i.core parallel mode b).keepsBooks)
  | signalInitExit retval =>
    have hs := balances_ignoresSignals.signalExit
    exact .map (.map (acted_keepsBooks fun caller b => (hs caller retval b).keepsBooks))

/-- A request keeps the books unless it shows a defect. -/
theorem dispatch_keepsBooks (image : Image) (i : Invocation) (request : Request) :
    (dispatch image i request).KeepsBooks (fun _ => False) b := by
  refine Step.leads_bind.2 (Step.leads_attempt.2 ((perform_keepsBooks image i request).mono ?_ ?_))
  · exact fun progress b' hbalances => Step.leads_pure.2 hbalances
  · intro why b' hclose
    refine ⟨?_, ?_⟩
    · rintro failure rfl
      dsimp only
      split
      · exact Step.leads_refuse.2 False.elim
      · next hordinary =>
        refine KeepsBooks.after (.stays_bind (log_balances _ _) fun _ _ _ => .pure) ?_
        exact hclose hordinary
    · rintro rfl
      exact hclose

/-! ### Each core's part -/

theorem parallelInit_keepsBooks (image : Image) (core : CoreId) (isInitCore : Bool) :
    (parallelInit image core isInitCore).KeepsBooks (fun _ => False) b := by
  have hlog : ∀ message, Stays Broker.Balances (logFirst isInitCore message) :=
    fun _ => .ite (log_balances _ _) .pure
  refine .stays_bind (hlog _) fun _ b₁ _ => .each fun planned _ b => ?_
  obtain ⟨id, kind⟩ := planned
  refine Step.Leads.ite (fun _ => KeepsBooks.refuse_bind) fun _ => Step.Leads.get_bind ?_
  refine Step.Leads.ite (fun _ => KeepsBooks.refuse_bind) fun _ => ?_
  cases kind with
  | sched =>
    refine KeepsBooks.bind ((createSchedExecution_keepsBooks id core).explain nofun) ?_
    exact fun _ b₁ _ => (hlog _ b₁).keepsBooks
  | init =>
    refine KeepsBooks.bind ((createInitThread_keepsBooks id core).explain nofun) ?_
    exact fun _ b₁ _ => (hlog _ b₁).keepsBooks

theorem parallelMain_balances (image : Image) (core : CoreId) :
    Stays Broker.Balances (parallelMain image core) :=
  .each fun _ _ => (balances_ignoresSignals.beginInit _ _).explain.bind fun _ => .pure

end Service

end CapabilityBroker
