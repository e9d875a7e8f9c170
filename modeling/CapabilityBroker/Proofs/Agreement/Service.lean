/-
CapabilityBroker/Proofs/Agreement/Service.lean

Broker and kernel agree on threads and endpoints.

The pools begin without records, and every part of the start and every action
after it keeps the records backed, so that the agreement holds in all states of a
run.  It does so under any planned faults, and however an action ends.  Where
tables begin behind the null slot, a capability that is live is also not null.
-/
import CapabilityBroker.Proofs.Agreement.Object

namespace CapabilityBroker.Service

open Step (Answers Stays)

variable {b b' : Broker} {s : Setting} {image : Image}

/-! ### Every action -/

theorem keeping_of_onward {α : Type} {s : Operation α}
    (h : ∀ b : Broker, b.Agrees → s.Leads b (fun _ => b.Onward) (fun _ => b.Onward)) :
    Stays Broker.Keeping s := fun b => Step.Leads.given (h b)

theorem objects_keeping : AdmitsObjects Broker.Keeping where
  toAdmitsNotes := keeping_tacit.notes
  createThread client sched := keeping_of_onward fun _ h =>
    (createThread_onward h client sched).mono (fun _ _ => And.left) fun _ _ => id
  createInitThread component core := keeping_of_onward fun _ h =>
    createInitThread_onward h component core
  createSchedExecution component core := keeping_of_onward fun _ h =>
    createSchedExecution_onward h component core
  createEndpointPair i := keeping_of_onward fun _ h =>
    (createEndpointPair_onward h i).mono (fun _ _ => And.left) fun _ _ => id
  signals := keeping_tacit.ignoresSignals
  createVm := createVm_keeping

/-- Whatever happens, records stay backed and the kernel is extended. -/
theorem Action.keeping (image : Image) (action : Action) (b : Broker) :
    b.Keeping (action.after image b) :=
  action.stays objects_keeping memory_keeping image b

/-! ### The start -/

theorem adopt_keeping (m : Manifest) (schedulers : Schedulers) (caps : ComponentCaps) :
    Stays Broker.Keeping (adopt m schedulers caps) :=
  adopt_walks keeping_tacit.log fun _ _ _ =>
    registerComponent_keeping _ _ _ _ (Kernel.createComponent_builds _ _ _)

theorem shareUlk_keeping (id : ComponentId) : Stays Broker.Keeping (shareUlk id) :=
  shareUlk_walks (kernelPart_keeping.run (Kernel.mapUlk_builds id).attempt)

/-- With nothing on record, there is nothing to bear out. -/
theorem makePools_agrees {ε : Type} (settings : Settings) (hk : b.kernel.Numbered) :
    (makePools settings : Step Broker ε Unit).Leads b (fun _ => Broker.Agrees)
      (fun _ _ => True) := by
  refine (makePools_made settings).mono ?_ fun _ _ => id
  intro _ made hmade
  have hnone : ∀ {α : Type} {p : Pool α}, (∀ i, (p.entry i).Idle) → ∀ handle o,
      p.get? handle ≠ some o := fun hidle handle o hget =>
    (hidle handle.index).ne (Pool.get?_eq_some_iff.1 hget)
  refine ⟨hmade.kernel ▸ hk, ?_, ?_, ?_, ?_⟩
  · exact fun handle t hget => absurd hget (hnone hmade.threads _ _)
  · exact fun handle _ t _ hget => absurd hget (hnone hmade.threads _ _)
  · exact fun handle r hget => absurd hget (hnone hmade.rcvs _ _)
  · exact fun handle a hget => absurd hget (hnone hmade.asnds _ _)

theorem keeping_admitsBoot (settings : Settings) (manifest : Manifest) :
    AdmitsBoot Broker.Keeping settings manifest where
  log level message := (keeping_tacit.log level message).answers
  adopt _ _ schedulers caps _ := (adopt_keeping manifest schedulers caps).answers
  initUlk := (kernelPart_keeping.run Kernel.initUlk_builds.explain).answers
  shareUlk id := (shareUlk_keeping id).answers
  setAside region := (setAside_memory memory_keeping region).answers
  self := (registerComponent_keeping _ _ _ _ (Kernel.createComponent_builds _ _ _)).answers
  initContig := (memory_keeping.initContig _ _).answers
  barriers b _ := keeping_tacit b _ _ _ _

theorem boot_agrees (settings : Settings) (manifest : Manifest) (hk : b.kernel.Numbered) :
    (boot settings manifest).Leads b (fun _ => Broker.Agrees) (fun _ _ => True) := by
  have hmake : ∀ journal, (makePools settings : Step Broker Defect Unit).Leads { b with journal }
      (fun _ => Broker.Agrees) (fun _ _ => True) := fun journal => makePools_agrees settings hk
  refine (boot_keeps hmake (keeping_admitsBoot settings manifest)).mono ?_ fun _ _ _ => trivial
  rintro _ b' ⟨_, made, hmade, hkeeping⟩
  exact (hkeeping hmade).agrees

/-! ### Along a run -/

theorem Reached.agrees (h : Reached s image b) : b.Agrees := by
  induction h with
  | boot created booted =>
    exact (boot_agrees _ _ (Kernel.numbered_of_create? created)).of_ok booted
  | act action _ ih => exact (action.keeping image _ ih).agrees

/-- In every state of a run the kernel bears all records out: the thread of a record
is found by its id and is its client's, and every capability on record is live in
the table of the component that is said to hold it. -/
theorem kernel_bears_records_out (h : Reached s image b) (hbase : s.layout.captblBase ≠ 0) :
    b.kernel.selfId = s.selfId ∧
    (∀ handle handle' t t', b.threads.get? handle = some t → b.threads.get? handle' = some t' →
      t.tid = t'.tid → handle = handle') ∧
    (∀ handle t, b.threads.get? handle = some t →
      b.threadByTid? t.tid = some (handle, t) ∧ t.Backed b.kernel ∧
        ∀ cap, t.held = .aliased cap → cap ≠ .null) ∧
    (∀ handle r, b.rcvs.get? handle = some r → r.Backed b.kernel) ∧
    ∀ handle a, b.asnds.get? handle = some a → a.Backed b.kernel ∧ b.Targets a := by
  have hagrees := h.agrees
  refine ⟨h.selfId, hagrees.apart, fun handle t hget => ?_, hagrees.rcvs, hagrees.asnds⟩
  have hback := hagrees.threads handle t hget
  refine ⟨hagrees.threadByTid?_eq hget, hback, ?_⟩
  rintro _ hheld rfl
  exact h.rooted.ne_zero (h.layout ▸ hbase) (hback.held _ hheld) rfl

/-- A scheduler starts, makes a thread in its client and an endpoint pair. -/
def Setting.schedulerDay : List Action :=
  [.parallelInit ⟨0⟩ true, .request ⟨⟨6⟩, ⟨0⟩⟩ (.createInitThread ⟨5⟩),
    .request ⟨⟨6⟩, ⟨0⟩⟩ endpointPair]

/-- On such a day a thread, an endpoint and a send endpoint to it come on record, and
all are there. -/
theorem scheduler_records_are_backed :
    ∃ image b, Reached .ordinary image b ∧
      (∃ t, b.threads.get? ⟨2, 0⟩ = some t ∧ b.threadByTid? t.tid = some (⟨2, 0⟩, t) ∧
        t.Backed b.kernel ∧ ∃ cap, t.held = .aliased cap ∧ cap ≠ .null) ∧
      (∃ r, b.rcvs.get? ⟨2, 0⟩ = some r ∧ r.aliasedCap ≠ .null ∧ r.Backed b.kernel) ∧
      ∃ a, b.asnds.get? ⟨1, 0⟩ = some a ∧ a.Backed b.kernel ∧ b.Targets a := by
  have hrun : (Setting.ordinary.run Setting.schedulerDay).any (fun p =>
      (p.2.threads.get? ⟨2, 0⟩).any (fun t => t.schedulerCap ≠ .null) &&
        (p.2.rcvs.get? ⟨2, 0⟩).any (fun r => r.aliasedCap ≠ .null) &&
          (p.2.asnds.get? ⟨1, 0⟩).isSome) = true := by decide +kernel
  obtain ⟨image, b, hreached, hshows⟩ := exists_reached hrun
  rw [Bool.and_eq_true, Bool.and_eq_true] at hshows
  obtain ⟨⟨hthread, hrcv⟩, hasnd⟩ := hshows
  obtain ⟨_, _, hthreads, hrcvs, hasnds⟩ := kernel_bears_records_out hreached (by decide)
  refine ⟨image, b, hreached, ?_, ?_, ?_⟩
  · obtain ⟨t, ht, hcap⟩ := (Option.any_eq_true _ _).1 hthread
    obtain ⟨hfound, hback, hheld⟩ := hthreads _ t ht
    refine ⟨t, ht, hfound, hback, ?_⟩
    unfold ThreadRecord.schedulerCap at hcap
    split at hcap
    · next cap heq => exact ⟨cap, heq, hheld cap heq⟩
    · cases hcap
  · obtain ⟨r, hr, hcap⟩ := (Option.any_eq_true _ _).1 hrcv
    exact ⟨r, hr, of_decide_eq_true hcap, hrcvs _ r hr⟩
  · obtain ⟨a, ha⟩ := Option.isSome_iff_exists.1 hasnd
    exact ⟨a, ha, hasnds _ a ha⟩

end CapabilityBroker.Service
