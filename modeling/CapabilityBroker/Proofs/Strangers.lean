/-
CapabilityBroker/Proofs/Strangers.lean

Strangers get nothing.

A caller without a record is refused whatever it asks for, and nothing happens but
that this is written down.  Most operations ask for the caller's record first.  A
virtual machine obeys its manager only, and managers are on record
(`Reached.staffed`).  A thread may be asked for by whom the manifest names as a
scheduler, on record or not; so here it matters that the creation of a thread asks
for both records before it keeps a slot.
-/
import CapabilityBroker.Proofs.Roster.Service

namespace CapabilityBroker

open Step (Answers Stays StaysFrom)

variable {b b' : Broker} {manager? : Option ComponentId}

/-! ### Who comes on record -/

/-- A record has this manager, or none, and an id of 32 bits. -/
def ComponentRecord.Under (manager? : Option ComponentId) (c : ComponentRecord) : Prop :=
  c.manager? = manager? ∧ c.id.number.toNat < UInt32.size

/-- Components come on record under one manager only; those on record stay under
theirs. -/
structure Broker.Enlists (manager? : Option ComponentId) (b b' : Broker) : Prop where
  moves : b.components.Moves (ComponentRecord.Follows True) (ComponentRecord.Under manager?)
    b'.components
  room : b.components.AsLarge b'.components

instance : IsPreorder Broker (Broker.Enlists manager?) where
  refl _ := ⟨.refl _, rfl⟩
  trans b b' b'' h h' := by
    refine ⟨h.moves.trans ?_ h'.moves, h'.room.trans h.room⟩
    rintro c _ ⟨⟨_, rfl⟩, _⟩ hc
    exact hc

theorem enlists_tacit : Tacit (Broker.Enlists manager?) := fun _ _ _ _ _ => ⟨.refl _, rfl⟩

/-- Whatever leaves the roster alone enlists nobody. -/
theorem Broker.SameRoster.enlists (h : b.SameRoster b') : b.Enlists manager? b' :=
  ⟨h.components.moves, h.components.capacity⟩

theorem componentPool_enlists : componentPool.Allows (Broker.Enlists manager?) fun p p' =>
    p.Moves (ComponentRecord.Follows True) (ComponentRecord.Under manager?) p' ∧ p.AsLarge p' :=
  fun _ _ h => ⟨h.1, h.2⟩

/-- The kernel may do anything. -/
theorem askKernel_enlists {α : Type} (s : Step Kernel Kernel.Refusal α) :
    Stays (Broker.Enlists manager?) (askKernel s) := by
  have hallows : kernelPart.Allows (Broker.Enlists manager?) fun _ _ => True :=
    fun _ _ _ => ⟨.refl _, rfl⟩
  exact hallows.runAny _

/-- A record may be kept while something is done, and given up. -/
theorem holding_enlists {α : Type} {slot : Reservation ComponentRecord} {s : Operation α}
    (h : s.StaysFrom (Broker.Enlists manager?) b) :
    (componentPool.holding slot s).StaysFrom (Broker.Enlists manager?) b :=
  h.cleanly fun b => (⟨.unreserve slot, Pool.capacity_unreserve slot⟩ :
    b.Enlists manager? { b with components := b.components.unreserve slot })

theorem activate_enlists (slot : Reservation ComponentRecord) {c : ComponentRecord}
    (hc : c.Under manager?) :
    Stays (Broker.Enlists manager?) (componentPool.ask (Pool.activate slot c)) :=
  componentPool_enlists.ask fun p =>
    ((Pool.activate_stays hc slot p).and (Pool.activate_asLarge slot c p)).mono
      (fun _ _ h => h) fun _ _ h => h

/-- A component that is registered has no manager, and an id of 32 bits. -/
theorem registerComponent_enlists (id : ComponentId) (name : String) {kind : ComponentKind}
    (hkind : ∀ manager, kind ≠ .virtualMachine manager) (resources : Option Kernel.Resources)
    (create : Step Kernel Kernel.Refusal Unit) :
    Stays (Broker.Enlists none) (registerComponent id name kind resources create) := by
  refine fun b => .require_bind fun index hindex => ?_
  rw [word32?_eq_some_iff] at hindex
  have hallocate : Stays (Broker.Enlists none) (componentPool.ask (Pool.allocateAt index.toNat)) :=
    componentPool_enlists.ask fun p =>
      ((Pool.allocateAt_stays _ p).and (Pool.allocateAt_asLarge _ p)).mono (fun _ _ h => h)
        fun _ _ h => h
  refine hallocate.bind (fun slot b => holding_enlists ?_) b
  refine (askKernel_enlists create).bind (fun _ => ?_) b
  have hunder : ComponentRecord.Under none ⟨id, name, kind, resources, ∅⟩ :=
    ⟨ComponentRecord.manager?_eq_none hkind, hindex ▸ index.toNat_lt⟩
  exact (activate_enlists slot hunder).bind fun _ => enlists_tacit.note _

/-- A virtual machine has the manager it was made for; its id is of 32 bits, as there
are no more slots than that. -/
theorem createVm_enlists (hroom : b.components.capacity < UInt32.size) (manager : ComponentId) :
    (createVm manager).StaysFrom (Broker.Enlists (some manager)) b := by
  have hallocate : (componentPool.ask Pool.allocate).Leads b
      (fun slot b' => b.Enlists (some manager) b' ∧ slot.index < UInt32.size)
      (fun _ => b.Enlists (some manager)) := by
    have hmoves := Pool.allocate_stays (C := ComponentRecord.Follows True)
      (P := ComponentRecord.Under (some manager)) b.components
    refine Part.ask_leads (((hmoves.and (Pool.allocate_asLarge b.components)).and
      Pool.allocate_leads).mono ?_ ?_)
    · rintro slot p ⟨⟨hmoves, hlarge⟩, hfirst, -⟩
      obtain ⟨_, hlt, _⟩ := Pool.firstFree?_eq_some hfirst
      exact ⟨⟨hmoves, hlarge⟩, by omega⟩
    · rintro why p ⟨⟨hmoves, hlarge⟩, -⟩
      exact ⟨hmoves, hlarge⟩
  apply Step.Leads.bind_from (refl_of (Broker.Enlists (some manager)) b) hallocate
  intro slot b₁ h₁ hsmall
  refine StaysFrom.after (holding_enlists (.exact_bind fun number hnumber => ?_)) h₁
  rw [word64?_eq_some_iff] at hnumber
  refine (askKernel_enlists _).bind (fun _ => ?_) b₁
  have hunder : ComponentRecord.Under (some manager)
      ⟨⟨number⟩, vmName, .virtualMachine manager, none, ∅⟩ := ⟨rfl, hnumber ▸ hsmall⟩
  refine (activate_enlists slot hunder).bind fun _ => ?_
  exact (enlists_tacit.note _).bind fun _ => (enlists_tacit.log _ _).bind fun _ => .pure

/-! ### Managers are on record -/

/-- Every manager of a virtual machine is on record, and ids on record are of
32 bits. -/
structure Broker.Staffed (b : Broker) : Prop where
  room : b.components.capacity < UInt32.size
  small : ∀ i c, b.components.at? i = some c → c.id.number.toNat < UInt32.size
  managed : ∀ i c manager, b.components.at? i = some c → c.manager? = some manager →
    b.hasComponent manager = true

theorem Broker.Enlists.hasComponent (h : b.Enlists manager? b') {id : ComponentId}
    (hid : b.hasComponent id = true) : b'.hasComponent id = true := by
  obtain ⟨c, hc⟩ := Option.isSome_iff_exists.1 hid
  obtain ⟨c', _, hc'⟩ := h.moves.at? hc
  exact Option.isSome_iff_exists.2 ⟨c', hc'⟩

theorem Broker.Staffed.enlists (h : b.Staffed) (he : b.Enlists manager? b')
    (hknown : ∀ manager, manager? = some manager → b.hasComponent manager = true) :
    b'.Staffed := by
  refine ⟨he.room ▸ h.room, fun i c hc => ?_, fun i c manager hc hmanager => ?_⟩
  · obtain ⟨g, hg⟩ := Pool.at?_eq_some_iff.1 hc
    rcases he.moves.added i g c hg with ⟨c₀, ⟨⟨_, rfl⟩, _⟩, hold⟩ | hnew
    · exact h.small i c₀ (Pool.at?_eq_some hold)
    · exact hnew.2
  · obtain ⟨g, hg⟩ := Pool.at?_eq_some_iff.1 hc
    refine he.hasComponent ?_
    rcases he.moves.added i g c hg with ⟨c₀, ⟨⟨_, rfl⟩, _⟩, hold⟩ | hnew
    · exact h.managed i c₀ manager (Pool.at?_eq_some hold) hmanager
    · exact hknown manager (hnew.1.symm.trans hmanager)

/-- Who is not on record manages nobody. -/
theorem Broker.Staffed.not_manager (h : b.Staffed) {caller vm : ComponentId}
    (hno : ¬ b.hasComponent caller = true) {record : ComponentRecord}
    (hrecord : b.component? vm = some record) : record.manager? ≠ some caller := fun hmanager =>
  hno (h.managed _ record caller hrecord hmanager)

namespace Service

variable {s : Setting} {image : Image} {i : Invocation} {client vm : ComponentId} {α β : Type}

/-! ### Operations that decline -/

/-- The operation is refused, and nothing happens but that this is written down. -/
def Declines (operation : Operation α) (b : Broker) : Prop :=
  operation.Leads b (fun _ _ => False) fun why b' =>
    (∃ failure, why = .refused failure ∧ failure.defect? = none) ∧ OnlyNotes b b'

theorem Declines.bind {operation : Operation α} {f : α → Operation β}
    (h : Declines operation b) : Declines (operation >>= f) b :=
  Step.leads_bind.2 (h.mono (fun _ _ => False.elim) fun _ _ h => h)

theorem Declines.map {operation : Operation α} {g : α → β} (h : Declines operation b) :
    Declines (g <$> operation) b :=
  Step.leads_map.2 (h.mono (fun _ _ => False.elim) fun _ _ h => h)

theorem deny_declines (caller target : ComponentId) :
    Declines (deny caller target : Operation α) b := by
  refine (deny_leads caller target).mono (fun _ _ => False.elim) ?_
  rintro _ b' ⟨rfl, hnotes⟩
  exact ⟨⟨_, rfl, rfl⟩, hnotes⟩

/-- A record is looked at; if there is none, that is a refusal. -/
theorem knownComponent_declines {id : ComponentId} {f : ComponentRecord → Operation α}
    (h : ∀ record, b.component? id = some record → Declines (f record) b) :
    Declines (knownComponent id >>= f) b :=
  Step.leads_bind.2 (Step.Leads.get_bind (Step.leads_require.2
    ⟨h, fun _ => ⟨⟨_, rfl, rfl⟩, refl_of OnlyNotes b⟩⟩))

theorem acting_declines (hno : ¬ b.hasComponent i.caller = true) : Declines (acting i) b := by
  refine (acting_leads i).mono ?_ ?_
  · rintro _ _ ⟨_, _, hknown⟩
    exact absurd hknown hno
  · rintro _ _ ⟨rfl, rfl, _⟩
    exact ⟨⟨_, rfl, rfl⟩, refl_of OnlyNotes _⟩

/-- Both records are asked for before a slot is kept. -/
theorem createThread_declines (client : ComponentId) {sched : ComponentId}
    (hno : ¬ b.hasComponent sched = true) : Declines (createThread client sched) b :=
  knownComponent_declines fun _ _ => knownComponent_declines fun _ hrecord =>
    absurd (Option.isSome_iff_exists.2 ⟨_, hrecord⟩) hno

theorem createClientThread_declines (hno : ¬ b.hasComponent i.caller = true) :
    Declines (createClientThread image i client) b := by
  refine Step.leads_bind.2 ((authorize_leads image i.caller client).mono ?_ ?_)
  -- A scheduler by the manifest may come as far as this.
  · rintro _ _ ⟨rfl, _⟩
    exact (createThread_declines client hno).bind
  · rintro _ b' ⟨rfl | rfl, hnotes⟩
    · exact ⟨⟨_, rfl, rfl⟩, hnotes⟩
    · exact ⟨⟨_, rfl, rfl⟩, hnotes⟩

theorem createVcpu_declines (h : b.Staffed) (hno : ¬ b.hasComponent i.caller = true) :
    Declines (createVcpu i vm) b := by
  refine knownComponent_declines fun machine hmachine => ?_
  split
  · exact Step.leads_refuse.2 ⟨⟨_, rfl, rfl⟩, refl_of OnlyNotes b⟩
  · next manager hmanager =>
    refine Step.Leads.ite (fun _ => deny_declines _ _) fun hsame => ?_
    rw [Decidable.not_not.1 hsame] at hmanager
    exact absurd hmanager (h.not_manager hno hmachine)

theorem mapSharedSpanInVm_declines (h : b.Staffed) (hno : ¬ b.hasComponent i.caller = true)
    {span : Nat} {align : Option UInt64} : Declines (mapSharedSpanInVm i vm span align) b :=
  knownComponent_declines fun _ hmachine => Step.Leads.ite (fun _ => deny_declines _ _)
    fun hsame => absurd (Decidable.not_not.1 hsame) (h.not_manager hno hmachine)

/-- Whatever a stranger asks for is declined. -/
theorem perform_declines (h : b.Staffed) (hno : ¬ b.hasComponent i.caller = true)
    (request : Request) : Declines (perform image i request) b := by
  have hacting := acting_declines hno
  cases request with
  | createThread client _ => exact (createClientThread_declines hno).map.map
  | createThreadThunk _ => exact hacting.bind.map.map
  | createInitThread client => exact (createClientThread_declines hno).map.map
  | createVcpu vm _ => exact (createVcpu_declines h hno).map.map
  | createReceiveEndpoint _ _ => exact hacting.bind.map.map
  | createVmComponent => exact hacting.bind.map.map
  | translate vaddr => exact hacting.bind.map.map
  | allocateHeapPages count align => exact hacting.bind.map.map
  | mapPhysicalRegion paddr size => exact hacting.bind.map.map
  | allocateSharedPages count align => exact hacting.bind.bind.map
  | mapSharedSpan span align => exact hacting.bind.bind.map
  | mapSharedSpanInVm vm span align => exact (mapSharedSpanInVm_declines h hno).bind.map
  | allocateContiguousPages count => exact hacting.bind.map.map
  | allocateContiguousShared count align => exact hacting.bind.bind.map
  | signalInitDone parallel mode => exact hacting.bind.map
  | signalInitExit retval => exact hacting.bind.map.map

/-- So the reply is the empty one. -/
theorem dispatch_declines (image : Image) (h : b.Staffed) (hno : ¬ b.hasComponent i.caller = true)
    (request : Request) :
    (dispatch image i request).Leads b
      (fun progress b' => progress = .finished (.nullFor request) ∧ OnlyNotes b b')
      (fun _ _ => False) := by
  refine dispatch_walks ((perform_declines h hno request).mono (fun _ _ => False.elim) ?_)
  rintro _ b' ⟨⟨failure, rfl, hplain⟩, hnotes⟩
  refine ⟨fun _ _ _ journal => ⟨rfl, ?_⟩, fun failure' defect hwhy hdefect => ?_, nofun⟩
  · exact trans_of OnlyNotes hnotes ⟨_, journal, rfl⟩
  · obtain rfl := Stop.refused.inj hwhy
    cases hplain.symm.trans hdefect

/-! ### In a run -/

/-- Who keeps the rosters enlists nobody. -/
theorem answers_enlists {ε α : Type} {s : Step Broker ε α} (hs : Stays Broker.SameRoster s) :
    Answers (Broker.Enlists none) s := hs.answers_mono fun _ _ h => h.enlists

theorem enlists_admitsBoot (settings : Settings) (manifest : Manifest) :
    AdmitsBoot (Broker.Enlists none) settings manifest where
  log level message := (enlists_tacit.log level message).answers
  adopt _ _ _ _ _ := (adopt_walks enlists_tacit.log fun _ _ _ =>
    registerComponent_enlists _ _ (fun _ h => by cases h) _ _).answers
  initUlk := answers_enlists (kernelPart_sameRoster.run Kernel.initUlk_sameRoster.explain)
  shareUlk id := answers_enlists (shareUlk_sameRoster id)
  setAside region := answers_enlists (setAside_memory memory_sameRoster region)
  self := (registerComponent_enlists _ _ (fun _ h => by cases h) _ _).answers
  initContig := answers_enlists (memory_sameRoster.initContig _ _)
  barriers b _ := enlists_tacit b _ _ _ _

theorem boot_staffed (settings : Settings) (manifest : Manifest) :
    (boot settings manifest).Leads b (fun _ => Broker.Staffed) (fun _ _ => True) := by
  have hboot := boot_keeps (b := b) (fun journal => makePools_unlisted settings)
    (enlists_admitsBoot settings manifest)
  refine hboot.mono ?_ fun _ _ _ => trivial
  rintro image b' ⟨_, made, ⟨hsmall, hnobody⟩, h⟩
  refine Broker.Staffed.enlists ⟨hsmall, fun i c hc => ?_, fun i c _ hc => ?_⟩ h nofun
  · cases (hnobody i).symm.trans hc
  · cases (hnobody i).symm.trans hc

/-- A machine that is made comes under its caller, who is on record; nothing else
enlists anybody. -/
theorem Action.staffed (h : b.Staffed) (image : Image) (action : Action) :
    (action.after image b).Staffed := by
  by_cases hvm : ∃ i, action = .request i .createVmComponent
  · obtain ⟨i, rfl⟩ := hvm
    by_cases hcaller : b.hasComponent i.caller = true
    · have hperform : (perform image i .createVmComponent).StaysFrom
          (Broker.Enlists (some i.caller)) b :=
        StaysFrom.map (StaysFrom.map (acting_bind (createVm_enlists h.room i.caller)))
      refine h.enlists (dispatch_staysFrom_of (fun _ _ => enlists_tacit.log _ _) hperform).final ?_
      rintro _ ⟨⟩
      exact hcaller
    · obtain ⟨trail, journal, hb'⟩ : OnlyNotes b (Action.after image (.request i _) b) :=
        ((dispatch_declines image h hcaller .createVmComponent).mono (fun _ _ h => h.2)
          fun _ _ => False.elim).final
      rw [hb']
      exact Broker.Staffed.enlists h (show b.Enlists none _ from enlists_tacit b _ _ _ _) nofun
  · refine Broker.Staffed.enlists h (show b.Enlists none _ from ?_) nofun
    exact (action.stays_unless_vm parts_sameRoster.admitsThreads
      sameRoster_tacit.ignoresSignals memory_sameRoster image
      (fun i heq => hvm ⟨i, heq⟩) b).enlists

theorem Reached.staffed (h : Reached s image b) : b.Staffed := by
  induction h with
  | boot _ booted => exact (boot_staffed _ _).of_ok booted
  | act action _ ih => exact action.staffed ih image

/-- Strangers get nothing.  In every state of every run, whatever faults are planned,
a caller without a record gets the empty reply to every request, and nothing happens
but that this is written down: no record, no slot, no barrier, no fault and nothing of
the kernel is spent on it.  No record has the id 0 or an id of more than 32 bits. -/
theorem strangers_get_nothing (h : Reached s image b) :
    (∀ id : ComponentId, id.number = 0 ∨ UInt32.size ≤ id.number.toNat →
      b.hasComponent id = false) ∧
    ∀ (i : Invocation) (request : Request), b.hasComponent i.caller = false →
      ∃ trail journal, dispatch image i request b
        = .ok (.finished (.nullFor request)) { b with trail, journal } := by
  refine ⟨fun id hid => ?_, fun i request hno => ?_⟩
  · refine Bool.eq_false_iff.2 fun hknown => ?_
    obtain ⟨c, hc⟩ := Option.isSome_iff_exists.1 hknown
    rcases hid with hzero | hlarge
    · exact h.fromOne.1.ne_zero_of_at? hc (congrArg UInt64.toNat hzero)
    · obtain ⟨g, hg⟩ := Pool.at?_eq_some_iff.1 hc
      obtain ⟨hplace, _⟩ := h.orderly.2.1 _ g c hg
      have hsmall := h.staffed.small _ c hc
      omega
  · have hends := dispatch_declines image h.staffed (Bool.eq_false_iff.1 hno) request
    rcases hends.ends with ⟨progress, hend, rfl, trail, journal, hb'⟩ | ⟨_, _, hfalse⟩
    · exact ⟨trail, journal, hb' ▸ hend⟩
    · exact hfalse.elim

/-- The manifest names a scheduler of the client that is nowhere on record, and all
faults that can befall a thread are planned. -/
def Setting.dangling : Setting :=
  { Setting.ordinary with
    faults := [.failThreadCreate, .failThreadAlias]
    manifest := (Draft.clientAndScheduler.directlyScheduledBy 5 77).manifest }

/-- By the manifest it may have a thread in the client; it gets none, and no fault is
spent on it. -/
theorem dangling_scheduler_gets_nothing :
    ∃ image b trail journal, Reached .dangling image b ∧
      Setting.dangling.manifest.Schedules ⟨77⟩ ⟨5⟩ ∧
      b.kernel.faults.pending = Setting.dangling.faults ∧
      dispatch image ⟨⟨77⟩, ⟨0⟩⟩ (.createThread ⟨5⟩ .initial) b
        = .ok (.finished (.thread .null ⟨0⟩)) { b with trail, journal } := by
  have hrun : (Setting.dangling.run [.request ⟨⟨7⟩, ⟨0⟩⟩ .createVmComponent]).any (fun p =>
      !p.2.hasComponent ⟨77⟩ && p.2.kernel.faults.pending == Setting.dangling.faults) = true := by
    decide +kernel
  obtain ⟨image, b, h, hshows⟩ := exists_reached hrun
  simp only [Bool.and_eq_true, Bool.not_eq_true', beq_iff_eq] at hshows
  obtain ⟨hno, hpending⟩ := hshows
  obtain ⟨trail, journal, hend⟩ :=
    (strangers_get_nothing h).2 ⟨⟨77⟩, ⟨0⟩⟩ (.createThread ⟨5⟩ .initial) hno
  exact ⟨image, b, trail, journal, h, by decide +kernel, hpending, hend⟩

end Service

end CapabilityBroker
