/-
CapabilityBroker/Proofs/Grants/Service.lean

What a request was given stays given.

A reply says what its caller has from now on: a thread on record that it holds, an
endpoint, a virtual machine, a range of addresses, a span.  The state that the
operation leaves bears this out (`perform_granted`).  From there, whatever happens
keeps the records, the live slots and the pages below the frontiers
(`Action.persists`); a rollback takes back only what came after the reply.  So
along any run, under any planned faults, the reply stands
(`Granted.stands`).
-/
import CapabilityBroker.Proofs.Agreement.Service
import CapabilityBroker.Proofs.Grants.Memory
import CapabilityBroker.Proofs.Mapped
import CapabilityBroker.Proofs.Whole

namespace CapabilityBroker

open Step (Stays StaysFrom)

variable {b b' b'' : Broker}

/-! ### What a reply grants -/

/-- The number of pages that a request asks for. -/
def Request.pages : Request → Nat
  | .allocateHeapPages count _ | .allocateSharedPages count _ => count.toNat
  | .allocateContiguousPages count | .allocateContiguousShared count _ => count.toNat
  | .mapPhysicalRegion paddr size => Kernel.devicePages paddr size
  | _ => 0

/-- The component that the pages of an answered request are for. -/
def Request.mapsInto (caller : ComponentId) : Request → ComponentId
  | .mapSharedSpanInVm vm _ _ => vm
  | _ => caller

/-- The state has what the reply gives to the caller. -/
def Reply.Granted (request : Request) (caller : ComponentId) (b : Broker) : Reply → Prop
  | .thread cap tid => ∃ handle t, b.threads.get? handle = some t ∧ t.tid = tid ∧
      t.sched = caller ∧ t.held = .aliased cap
  | .receiveEndpoint e => e.Granted caller b
  | .component vm => ∃ record, b.component? vm = some record ∧ record.manager? = some caller
  | .address vaddr => b.kernel.ShowsPages caller vaddr request.pages
  | .span id vaddr => b.kernel.ShowsPages caller vaddr request.pages ∧
      b.HasSpan id.toNat request.pages
  | .mapped pages vaddr => b.kernel.ShowsPages (request.mapsInto caller) vaddr pages.toNat
  | .physical _ => ∃ vaddr, request = .translate vaddr
  | .initDone _ | .exited => True
  | .refused => False

/-- A virtual machine comes on record under its manager. -/
theorem createVm_leads (manager : ComponentId) :
    (createVm manager).Leads b
      (fun id b' => ∃ record, b'.component? id = some record ∧ record.manager? = some manager)
      (fun _ _ => True) := by
  refine .forget_bind fun slot b₁ => Step.leads_cleanly.2 ?_
  refine Step.Leads.exact_bind (fun number hnumber => ?_) fun _ => trivial
  rw [word64?_eq_some_iff] at hnumber
  refine .forget_bind fun _ b₂ => ?_
  refine Step.leads_bind.2 (Part.ask_leads (Pool.activate_leads.mono ?_ fun _ _ _ => trivial))
  rintro handle _ ⟨hslot, -, rfl⟩
  refine Step.Leads.modify_bind (Step.Leads.modify_bind (Step.leads_pure.2 ?_))
  exact ⟨_, Pool.at?_publish.trans (if_pos hnumber.symm), rfl⟩

namespace Service

variable {image : Image} {i : Invocation} {request : Request} {caller : ComponentId}

theorem acting_answers {α : Type} {f : ComponentId → Operation α} {post : α → Broker → Prop}
    (h : (f i.caller).Leads b post fun _ _ => True) :
    (acting i >>= f).Leads b post (fun _ _ => True) :=
  acting_leads_bind (fun _ => trivial) fun _ => h

theorem finishing_granted {operation : Operation Reply}
    (h : operation.Leads b (fun reply => reply.Granted request caller) fun _ _ => True) :
    (finishing operation).Leads b
      (fun progress => progress.answer.Granted request caller) (fun _ _ => True) :=
  Step.leads_map.2 h

/-- A thread that was made for the caller is on record, and the caller holds it. -/
theorem threadAnswer_granted (h : b.Agrees) (client : ComponentId) :
    (createThread client caller >>= fun created => pure (threadAnswer created.2)).Leads b
      (fun answer => (threadReply answer).Granted request caller) (fun _ _ => True) := by
  refine Step.leads_bind.2 ((createThread_onward h client caller).mono ?_ fun _ _ _ => trivial)
  rintro ⟨handle, _⟩ b' ⟨_, hget, thread, cap, rfl⟩
  exact Step.leads_pure.2 ⟨handle, _, hget, rfl, rfl, rfl⟩

theorem createClientThread_granted (h : b.Agrees) (client : ComponentId) :
    (createClientThread image i client).Leads b
      (fun answer => (threadReply answer).Granted request i.caller) (fun _ _ => True) := by
  refine Step.leads_bind.2 ((authorize_leads image i.caller client).mono ?_ fun _ _ _ => trivial)
  rintro _ _ ⟨rfl, _⟩
  exact threadAnswer_granted h client

theorem createVcpu_granted (h : b.Agrees) (vm : ComponentId) :
    (createVcpu i vm).Leads b
      (fun answer => (threadReply answer).Granted request i.caller) (fun _ _ => True) := by
  refine Step.leads_bind.2 (Step.Leads.get_bind (Step.leads_require.2 ⟨fun machine _ => ?_,
    fun _ => trivial⟩))
  split
  · exact Step.leads_refuse.2 trivial
  · refine Step.Leads.ite (fun _ => ?_) fun _ => threadAnswer_granted h vm
    exact (deny_leads _ _).mono (fun _ _ => False.elim) fun _ _ _ => trivial

/-- Where pages are shown and a span is on record, the reply says so. -/
theorem spanReply_granted {operation : Operation (Nat × Vaddr)}
    (h : operation.Leads b (fun answer b' => b'.kernel.ShowsPages caller answer.2 request.pages ∧
      b'.HasSpan answer.1 request.pages) fun _ _ => True) :
    (operation >>= spanReply).Leads b (fun reply => reply.Granted request caller)
      (fun _ _ => True) := by
  refine Step.Leads.bind h fun answer b' ⟨hshows, hspan⟩ => ?_
  refine Step.Leads.exact_bind (fun id hid => Step.leads_pure.2 ⟨hshows, ?_⟩) fun _ => trivial
  rwa [word32?_eq_some_iff.1 hid]

theorem mappedReply_granted {operation : Operation (Nat × Vaddr)}
    (h : operation.Leads b (fun answer b' =>
      b'.kernel.ShowsPages (request.mapsInto caller) answer.2 answer.1) fun _ _ => True) :
    (operation >>= mappedReply).Leads b (fun reply => reply.Granted request caller)
      (fun _ _ => True) := by
  refine Step.Leads.bind h fun answer b' hshows => ?_
  refine Step.Leads.exact_bind (fun count hcount => Step.leads_pure.2 ?_) fun _ => trivial
  show b'.kernel.ShowsPages _ _ count.toNat
  rwa [word64?_eq_some_iff.1 hcount]

theorem mapSharedSpanInVm_shows {vm : ComponentId} {span : Nat} {align : Option UInt64} :
    (mapSharedSpanInVm i vm span align).Leads b
      (fun answer b' => b'.kernel.ShowsPages vm answer.2 answer.1) (fun _ _ => True) := by
  refine .forget_bind fun machine b₁ => Step.Leads.ite (fun _ => ?_) fun _ => ?_
  · exact (deny_leads _ _).mono (fun _ _ => False.elim) fun _ _ _ => trivial
  · exact .forget_bind fun _ b₂ => mapSpan_shows

/-- The state that an answered operation leaves has what the reply gives. -/
theorem perform_granted (h : b.Agrees) (image : Image) (i : Invocation) (request : Request) :
    (perform image i request).Leads b
      (fun progress => progress.answer.Granted request i.caller) (fun _ _ => True) := by
  cases request with
  | createThread client _ =>
    exact finishing_granted (Step.leads_map.2 (createClientThread_granted h client))
  | createThreadThunk _ =>
    exact finishing_granted (Step.leads_map.2 (acting_answers (threadAnswer_granted h i.caller)))
  | createInitThread client =>
    exact finishing_granted (Step.leads_map.2 (createClientThread_granted h client))
  | createVcpu vm _ => exact finishing_granted (Step.leads_map.2 (createVcpu_granted h vm))
  | createReceiveEndpoint _ _ =>
    refine finishing_granted (Step.leads_map.2 ((createEndpointPair_onward h i).mono ?_ ?_))
    · exact fun _ _ => And.right
    · exact fun _ _ _ => trivial
  | createVmComponent =>
    exact finishing_granted (Step.leads_map.2 (acting_answers (createVm_leads i.caller)))
  | translate vaddr =>
    exact finishing_granted (Step.leads_map.2
      (.of_forall (fun _ _ => ⟨vaddr, rfl⟩) fun _ _ => trivial))
  | allocateHeapPages _ _ =>
    refine finishing_granted (Step.leads_map.2 (acting_answers (.forget_bind fun _ b₁ => ?_)))
    exact Step.Leads.bind allocatePages_shows fun _ b₂ hshows => Step.leads_pure.2 hshows
  | mapPhysicalRegion _ _ =>
    exact finishing_granted (Step.leads_map.2 (acting_answers mapPhysical_shows))
  | allocateSharedPages _ _ =>
    refine finishing_granted (spanReply_granted (acting_answers (.forget_bind fun _ b₁ => ?_)))
    exact allocateShared_shows
  | mapSharedSpan _ _ =>
    refine finishing_granted (mappedReply_granted (acting_answers (.forget_bind fun _ b₁ => ?_)))
    exact mapSpan_shows
  | mapSharedSpanInVm _ _ _ => exact finishing_granted (mappedReply_granted mapSharedSpanInVm_shows)
  | allocateContiguousPages _ =>
    refine finishing_granted (Step.leads_map.2 (acting_answers (Step.leads_map.2 ?_)))
    exact carveContig_shows
  | allocateContiguousShared _ _ =>
    refine finishing_granted (spanReply_granted (acting_answers (.forget_bind fun _ b₁ => ?_)))
    exact allocateContiguousShared_shows
  | signalInitDone _ _ =>
    refine Step.leads_map.2 (.of_forall (fun progress b' => ?_) fun _ _ => trivial)
    rw [Progress.answer_map]
    trivial
  | signalInitExit _ =>
    exact finishing_granted (Step.leads_map.2 (.of_forall (fun _ _ => trivial) fun _ _ => trivial))

end Service

/-! ### What happens later -/

/-- Records, live slots and pages below the frontiers are as they were. -/
structure Broker.Persists (b b' : Broker) : Prop where
  advance : b.Advance .any b'
  kernel : b.kernel.Extends b'.kernel

namespace Broker.Persists

theorem refl (b : Broker) : b.Persists b := ⟨.refl b, .refl _⟩

theorem trans (h : b.Persists b') (h' : b'.Persists b'') : b.Persists b'' :=
  ⟨h.advance.trans h'.advance, h.kernel.trans h'.kernel⟩

theorem thread (h : b.Persists b') {handle : Handle ThreadRecord} {t : ThreadRecord}
    (hget : b.threads.get? handle = some t) : b'.threads.get? handle = some t := by
  obtain ⟨_, rfl, hget'⟩ := h.advance.threads.get? hget
  exact hget'

theorem manager (h : b.Persists b') {id : ComponentId} {record : ComponentRecord}
    (hat : b.component? id = some record) :
    ∃ record', b'.component? id = some record' ∧ record'.manager? = record.manager? := by
  obtain ⟨_, ⟨⟨endpoints, rfl⟩, _⟩, hat'⟩ := h.advance.components.at? hat
  exact ⟨_, hat', rfl⟩

/-- The page is under its handle for good, and keeps its frame. -/
theorem page (h : b.Persists b') {handle : Handle Page} {page : Page}
    (hget : b.pages.get? handle = some page) :
    ∃ page', b'.pages.get? handle = some page' ∧ page'.frame = page.frame := by
  obtain ⟨_, ⟨more, rfl, _⟩, hget'⟩ := h.advance.pages.get? hget
  exact ⟨_, hget', rfl⟩

end Broker.Persists

theorem ReceiveEndpoint.Granted.persists {e : ReceiveEndpoint} {owner : ComponentId}
    (h : e.Granted owner b) (hp : b.Persists b') : e.Granted owner b' where
  rcv := hp.kernel.holds h.rcv
  asnd := hp.kernel.holds h.asnd
  thread := hp.kernel.holds h.thread
  record := by
    obtain ⟨handle, rcv, hget, htid⟩ := h.record
    obtain ⟨_, rfl, hget'⟩ := hp.advance.rcvs.get? hget
    exact ⟨handle, rcv, hget', htid⟩

/-- The span and its pages are the same in both states, frame by frame. -/
def Broker.KeepsSpan (b b' : Broker) (id count : Nat) : Prop :=
  ∃ span, b.spans.at? id = some span ∧ b'.spans.at? id = some span ∧ span.nPages.toNat = count ∧
    ∀ j < count, ∃ handle page page', handle.index = span.pageOff + j ∧
      b.pages.get? handle = some page ∧ b'.pages.get? handle = some page' ∧
      page'.frame = page.frame

theorem Broker.Persists.keepsSpan (h : b.Persists b') (ho : b.Orderly) {id count : Nat}
    (hspan : b.HasSpan id count) : b.KeepsSpan b' id count := by
  obtain ⟨span, hat, hcount⟩ := hspan
  obtain ⟨_, rfl, hat'⟩ := h.advance.spans.at? hat
  obtain ⟨head, hw⟩ := ho.whole id span hat
  refine ⟨span, hat, hat', hcount, fun j hj => ?_⟩
  obtain ⟨page, hpage, _⟩ := hw.pages j (hcount.symm ▸ hj)
  obtain ⟨g, hentry⟩ := Pool.at?_eq_some_iff.1 hpage
  have hget : b.pages.get? ⟨span.pageOff + j, g⟩ = some page := Pool.get?_eq_some_iff.2 hentry
  obtain ⟨page', hget', hframe⟩ := h.page hget
  exact ⟨_, page, page', rfl, hget, hget', hframe⟩

/-! ### Replies stand -/

/-- What the reply gave to the caller in the one state, it still has in the other:
a thread under its id, with its client, and a live capability to it; an endpoint on
record, with live capabilities; a virtual machine to manage; addresses that are
translated as they were; a span of the same pages. -/
def Reply.Stands (request : Request) (caller : ComponentId) (b b' : Broker) : Reply → Prop
  | .thread cap tid => ∃ handle t, b.threadByTid? tid = some (handle, t) ∧
      b'.threadByTid? tid = some (handle, t) ∧ t.sched = caller ∧ t.held = .aliased cap ∧
      b'.kernel.holds caller cap.slot = true
  | .receiveEndpoint e => e.Granted caller b'
  | .component vm => ∃ record, b'.component? vm = some record ∧ record.manager? = some caller
  | .address vaddr => b.kernel.KeepsRange b'.kernel caller vaddr request.pages
  | .span id vaddr => b.kernel.KeepsRange b'.kernel caller vaddr request.pages ∧
      b.KeepsSpan b' id.toNat request.pages
  | .mapped pages vaddr =>
      b.kernel.KeepsRange b'.kernel (request.mapsInto caller) vaddr pages.toNat
  | _ => True

/-- A reply that was borne out stands as long as things persist. -/
theorem Reply.Granted.stands {request : Request} {caller : ComponentId} {reply : Reply}
    (h : reply.Granted request caller b) (ha : b.Agrees) (ha' : b'.Agrees) (ho : b.Orderly)
    (hp : b.Persists b') : reply.Stands request caller b b' := by
  cases reply with
  | thread cap tid =>
    obtain ⟨handle, t, hget, rfl, rfl, hheld⟩ := h
    have hget' := hp.thread hget
    refine ⟨handle, t, ha.threadByTid?_eq hget, ha'.threadByTid?_eq hget', rfl, hheld, ?_⟩
    exact (ha'.threads handle t hget').held cap hheld
  | receiveEndpoint e => exact ReceiveEndpoint.Granted.persists h hp
  | component vm =>
    obtain ⟨record, hat, hmanager⟩ := h
    obtain ⟨record', hat', heq⟩ := hp.manager hat
    exact ⟨record', hat', heq.trans hmanager⟩
  | address vaddr => exact Kernel.ShowsPages.keepsRange h hp.advance.kernel
  | span id vaddr => exact ⟨h.1.keepsRange hp.advance.kernel, hp.keepsSpan ho h.2⟩
  | mapped pages vaddr => exact Kernel.ShowsPages.keepsRange h hp.advance.kernel
  | _ => trivial

namespace Service

variable {s : Setting} {image : Image} {i : Invocation} {request : Request} {reply : Reply}

/-! ### Along a run -/

theorem Action.persists (ha : b.Agrees) (image : Image) (action : Action) :
    b.Persists (action.after image b) := by
  have hadvance : ∃ w, b.Advance w (action.after image b) := action.advance b
  obtain ⟨w, hadv⟩ := hadvance
  exact ⟨hadv.any, (action.keeping image b ha).kernel⟩

/-- Whatever is done after a state of a run, the state persists. -/
theorem Reached.persists (h : Reached s image b) (actions : List Action) :
    b.Persists (actions.foldl (fun b action => action.after image b) b) := by
  induction actions generalizing b with
  | nil => exact .refl b
  | cons action actions ih => exact (action.persists h.agrees image).trans (ih (h.act action))

/-- Grants are permanent. -/
theorem grants_are_permanent (h : Reached s image b)
    (answered : perform image i request b = .ok (.finished reply) b')
    (actions : List Action) :
    dispatch image i request b = .ok (.finished reply) b' ∧
      reply.Stands request i.caller b'
        (actions.foldl (fun b action => action.after image b) b') := by
  have hreached := h.of_answered answered
  have hgranted : reply.Granted request i.caller b' :=
    (perform_granted h.agrees image i request).of_ok answered
  refine ⟨dispatch_of_answered answered, ?_⟩
  exact hgranted.stands hreached.agrees (reached_foldl hreached actions).agrees
    hreached.orderly.1 (hreached.persists actions)

/-- What an operation replies, and the state that it leaves. -/
def replyOf (image : Image) (i : Invocation) (request : Request) (b : Broker) :
    Option (Reply × Broker) :=
  match perform image i request b with
  | .ok (.finished reply) b' => some (reply, b')
  | _ => none

theorem of_replyOf (h : replyOf image i request b = some (reply, b')) :
    perform image i request b = .ok (.finished reply) b' := by
  unfold replyOf at h
  split at h
  · next hend =>
    cases h
    exact hend
  · cases h

/-- A client's thread and span outlast a rollback of its scheduler. -/
theorem grants_outlast_a_rollback :
    ∃ image b b₁ b₂ b₃, Reached .withoutAsnd image b ∧
      perform image ⟨⟨6⟩, ⟨0⟩⟩ (.createInitThread ⟨5⟩) b
        = .ok (.finished (.thread ⟨16⟩ ⟨3⟩)) b₁ ∧
      perform image ⟨⟨5⟩, ⟨0⟩⟩ (.allocateSharedPages 2 none) b₁
        = .ok (.finished (.span 1 ⟨0x40000000⟩)) b₂ ∧
      perform image ⟨⟨6⟩, ⟨0⟩⟩ endpointPair b₂
        = .error (.refused (.kernel (.rejected "asnd alias failed"))) b₃ ∧
      (Reply.thread ⟨16⟩ ⟨3⟩).Stands (.createInitThread ⟨5⟩) ⟨6⟩ b₁
        ((dispatch image ⟨⟨6⟩, ⟨0⟩⟩ endpointPair).final b₂) ∧
      (Reply.span 1 ⟨0x40000000⟩).Stands (.allocateSharedPages 2 none) ⟨5⟩ b₂
        ((dispatch image ⟨⟨6⟩, ⟨0⟩⟩ endpointPair).final b₂) := by
  have hrun : (Setting.withoutAsnd.run [.parallelInit ⟨0⟩ true]).any (fun p =>
      (replyOf p.1 ⟨⟨6⟩, ⟨0⟩⟩ (.createInitThread ⟨5⟩) p.2).any fun thread =>
        thread.1 = .thread ⟨16⟩ ⟨3⟩ &&
          (replyOf p.1 ⟨⟨5⟩, ⟨0⟩⟩ (.allocateSharedPages 2 none) thread.2).any fun span =>
            span.1 = .span 1 ⟨0x40000000⟩ &&
              (refusalOf p.1 ⟨⟨6⟩, ⟨0⟩⟩ endpointPair span.2).any fun r =>
                r.1 = .kernel (.rejected "asnd alias failed")) = true := by decide +kernel
  obtain ⟨image, b, hreached, hshows⟩ := exists_reached hrun
  obtain ⟨⟨thread, b₁⟩, hthread, hshows⟩ := (Option.any_eq_true _ _).1 hshows
  rw [Bool.and_eq_true, decide_eq_true_eq] at hshows
  obtain ⟨rfl, hshows⟩ := hshows
  obtain ⟨⟨span, b₂⟩, hspan, hshows⟩ := (Option.any_eq_true _ _).1 hshows
  rw [Bool.and_eq_true, decide_eq_true_eq] at hshows
  obtain ⟨rfl, hshows⟩ := hshows
  obtain ⟨⟨failure, b₃⟩, hrefusal, hfailure⟩ := (Option.any_eq_true _ _).1 hshows
  obtain rfl := of_decide_eq_true hfailure
  have hthread := of_replyOf hthread
  have hspan := of_replyOf hspan
  obtain ⟨hdispatch, hspan₃⟩ := grants_are_permanent (hreached.of_answered hthread) hspan
    [.request ⟨⟨6⟩, ⟨0⟩⟩ endpointPair]
  have hthread₃ := (grants_are_permanent hreached hthread
    [.request ⟨⟨5⟩, ⟨0⟩⟩ (.allocateSharedPages 2 none), .request ⟨⟨6⟩, ⟨0⟩⟩ endpointPair]).2
  have hafter : (dispatch image ⟨⟨5⟩, ⟨0⟩⟩ (.allocateSharedPages 2 none)).final b₁ = b₂ := by
    unfold Step.final
    rw [hdispatch]
  refine ⟨image, b, b₁, b₂, b₃, hreached, hthread, hspan, of_refusalOf hrefusal, ?_, hspan₃⟩
  exact hafter ▸ hthread₃

end Service

end CapabilityBroker
