/-
CapabilityBroker/Proofs/Scheduling.lean

Scheduling endpoints resolve.

The record of a component has a handle for each core on which it is a scheduler.  Only
a core's part of the start writes one, right after it has published the endpoint that
the handle leads to.  Everything else leaves the records of components and the receive
endpoints on record where they are, and a component that comes has no handle yet
(`Broker.KeepsEndpoints`); where a request takes an endpoint back, it takes back one
that it has made itself.

So where every core that did its part came to the end of it (`StartedOn`), the handles
are those that the plan asks for (`Broker.Schedules`), they lead to endpoints, and who
has one for the core is never told that it is no scheduler there.
-/
import CapabilityBroker.Proofs.Boot.Components
import CapabilityBroker.Proofs.Ends
import CapabilityBroker.Proofs.Refused
import CapabilityBroker.Proofs.Roster.Basic
import CapabilityBroker.Proofs.Unchanged.Basic
import CapabilityBroker.Proofs.Whole

namespace CapabilityBroker

open Step (Answers Certain Stays)

variable {b b' : Broker} {core : CoreId} {due due' : ComponentId → CoreId → Prop}

/-! ### What leaves the endpoints alone -/

/-- Records of components and of receive endpoints stay as they are, and a component
that comes is no scheduler yet. -/
structure Broker.KeepsEndpoints (b b' : Broker) : Prop where
  components : b.components.Moves Eq ComponentRecord.IsNew b'.components
  rcvs : b.rcvs.Moves Eq (fun _ => True) b'.rcvs

instance : IsPreorder Broker Broker.KeepsEndpoints where
  refl _ := ⟨.refl _, .refl _⟩
  trans _ _ _ h h' := ⟨h.components.trans (fun _ _ heq => heq ▸ id) h'.components,
    h.rcvs.trans (fun _ _ _ => id) h'.rcvs⟩

theorem keepsEndpoints_tacit : Tacit Broker.KeepsEndpoints := fun _ _ _ _ _ => ⟨.refl _, .refl _⟩

theorem componentPool_keepsEndpoints :
    componentPool.Allows Broker.KeepsEndpoints (Pool.Moves Eq ComponentRecord.IsNew) :=
  fun _ _ h => ⟨h, .refl _⟩

/-- The kernel may do anything. -/
theorem runKernel_keepsEndpoints {ε α : Type} (s : Step Kernel ε α) :
    Stays Broker.KeepsEndpoints (kernelPart.run s) :=
  Part.Allows.runAny (fun _ _ _ => ⟨.refl _, .refl _⟩) s

theorem Broker.MemoryMove.keepsEndpoints (h : b.MemoryMove b') : b.KeepsEndpoints b' :=
  ⟨h.components ▸ .refl _, h.rcvs ▸ .refl _⟩

/-- Where no component comes, and records of components change only while the system
starts, it is enough that the system has started. -/
theorem Broker.SameRoster.keepsEndpoints {w : Warrant} (h : b.SameRoster b') (ha : b.Advance w b')
    (hw : ¬ w.starting) : b.KeepsEndpoints b' := by
  have hkept : ∀ i g c, b.components.entry i = ⟨g, .active c⟩ →
      b'.components.entry i = ⟨g, .active c⟩ := by
    intro i g c hc
    obtain ⟨c', ⟨_, hsame⟩, hc'⟩ := ha.components.kept i g c hc
    exact hsame hw ▸ hc'
  refine ⟨⟨fun i g c hc => ⟨c, rfl, hkept i g c hc⟩, fun i g c' hc' => .inl ⟨c', rfl, ?_⟩,
    ha.components.based⟩, ha.rcvs⟩
  have hadded := (h.components.moves (P := fun _ => False)).added i g c' hc'
  rcases hadded with ⟨c, _, hc⟩ | hnew
  · have hsame := (hkept i g c hc).symm.trans hc'
    rwa [hsame] at hc
  · exact hnew.elim

theorem createVm_keepsEndpoints (manager : ComponentId) :
    Stays Broker.KeepsEndpoints (createVm manager) :=
  createVm_walks componentPool_keepsEndpoints keepsEndpoints_tacit.notes manager
    fun _ => runKernel_keepsEndpoints _

theorem registerComponent_keepsEndpoints (id : ComponentId) (name : String) (kind : ComponentKind)
    (resources : Option Kernel.Resources) (create : Step Kernel Kernel.Refusal Unit) :
    Stays Broker.KeepsEndpoints (registerComponent id name kind resources create) :=
  registerComponent_walks componentPool_keepsEndpoints keepsEndpoints_tacit.notes _ _ _ _
    (runKernel_keepsEndpoints _)

/-- What a started system may do: threads and capabilities for everyone. -/
def Warrant.running : Warrant where
  caps _ := True
  maps _ := True
  starting := False
  threads _ := True

theorem createInitThread_keepsEndpoints (id : ComponentId) (core : CoreId) :
    Stays Broker.KeepsEndpoints (createInitThread id core) := fun b =>
  ((parts_sameRoster.createInitThread id core b).and
    (createInitThread_stays (w := .running) core (fun _ => trivial) b)).mono
    (fun _ _ h => h.1.keepsEndpoints h.2 not_false) fun _ _ h => h.1.keepsEndpoints h.2 not_false

/-! ### Scheduling endpoints on record -/

theorem ComponentRecord.IsNew.schedRcv? {c : ComponentRecord} (h : c.IsNew) (core : CoreId) :
    c.schedRcv? core = none := by
  unfold ComponentRecord.schedRcv?
  rw [h]
  exact Std.ExtTreeMap.getElem?_empty

/-- The components on record are schedulers where they are due to be and nowhere else,
and each has an endpoint of its own there. -/
structure Broker.Schedules (due : ComponentId → CoreId → Prop) (b : Broker) : Prop where
  homed : b.Homed
  known : ∀ id core, due id core → b.hasComponent id = true
  entered : ∀ i c, b.components.at? i = some c →
    ∀ core, (c.schedRcv? core).isSome = true ↔ due c.id core
  resolves : ∀ i c, b.components.at? i = some c → ∀ core handle, c.schedRcv? core = some handle →
    ∃ r, b.rcvs.get? handle = some r ∧ r.owner = c.id ∧ r.aliasedCap = .null

namespace Broker

theorem Homed.index (h : b.Homed) {i : Nat} {c : ComponentRecord}
    (hc : b.components.at? i = some c) : c.id.number.toNat = i := by
  obtain ⟨g, hg⟩ := Pool.at?_eq_some_iff.1 hc
  exact (h i g c hg).1

namespace Schedules

theorem congr (h : b.Schedules due) (hdue : ∀ id core, due id core ↔ due' id core) :
    b.Schedules due' where
  homed := h.homed
  known id core hd := h.known id core ((hdue id core).2 hd)
  entered i c hc core := (h.entered i c hc core).trans (hdue c.id core)
  resolves := h.resolves

/-- Who is new is due to be no scheduler, since who is due to be one is on record. -/
theorem keeps (h : b.Schedules due) (hk : b.KeepsEndpoints b') (hh : b'.Homed) :
    b'.Schedules due := by
  have hcases : ∀ i c, b'.components.at? i = some c →
      b.components.at? i = some c ∨ c.IsNew ∧ ∀ core, ¬ due c.id core := by
    intro i c hc
    cases hold : b.components.at? i with
    | some c₀ =>
      obtain ⟨_, rfl, hc₀⟩ := hk.components.at? hold
      exact .inl (hc₀.symm.trans hc)
    | none =>
      obtain ⟨g, hg⟩ := Pool.at?_eq_some_iff.1 hc
      rcases hk.components.added i g c hg with ⟨_, rfl, hbefore⟩ | hnew
      · cases hold.symm.trans (Pool.at?_eq_some hbefore)
      · refine .inr ⟨hnew, fun core hd => ?_⟩
        have hknown := h.known c.id core hd
        unfold Broker.hasComponent Broker.component? at hknown
        rw [hh.index hc, hold] at hknown
        cases hknown
  refine ⟨hh, fun id core hd => ?_, fun i c hc core => ?_, fun i c hc core handle hhandle => ?_⟩
  · obtain ⟨c, hc⟩ := Option.isSome_iff_exists.1 (h.known id core hd)
    obtain ⟨c', _, hc'⟩ := hk.components.at? hc
    exact Option.isSome_iff_exists.2 ⟨c', hc'⟩
  · rcases hcases i c hc with hold | ⟨hnew, hno⟩
    · exact h.entered i c hold core
    · exact iff_of_false (by simp [hnew.schedRcv? core]) (hno core)
  · rcases hcases i c hc with hold | ⟨hnew, _⟩
    · obtain ⟨r, hr, howner⟩ := h.resolves i c hold core handle hhandle
      obtain ⟨_, rfl, hr'⟩ := hk.rcvs.get? hr
      exact ⟨r, hr', howner⟩
    · cases (hnew.schedRcv? core).symm.trans hhandle

end Schedules

/-- An endpoint was published, and its handle written into the record of a component. -/
structure EntersEndpoint (b : Broker) (id : ComponentId) (core : CoreId)
    (handle : Handle RcvRecord) (b' : Broker) : Prop where
  components : ∃ holder, b.componentHandle? id = some holder ∧
    b'.components = b.components.modify holder fun c =>
      { c with schedRcvs := c.schedRcvs.insert core handle }
  rcvs : b.rcvs.Moves Eq (fun _ => True) b'.rcvs
  endpoint : ∃ rcv, b'.rcvs.get? handle = some ⟨rcv, id, .null⟩

/-- The component is a scheduler on that core now, whether it was one before or not. -/
theorem Schedules.enters {id : ComponentId} {handle : Handle RcvRecord} (h : b.Schedules due)
    (he : b.EntersEndpoint id core handle b') (hh : b'.Homed) :
    b'.Schedules fun d k => due d k ∨ d = id ∧ k = core := by
  obtain ⟨⟨holder, hholder, hcomponents⟩, hrcvs, rcv, hrcv⟩ := he
  have hat : ∀ i, b'.components.at? i = if i = id.number.toNat then
      (b.components.at? i).map fun c => { c with schedRcvs := c.schedRcvs.insert core handle }
      else b.components.at? i := by
    intro i
    rw [hcomponents, Pool.at?_modify hholder]
    split
    · next hi => rw [hi]
    · rfl
  -- A record is the one that was changed, or is as it was.
  have hcases : ∀ i c, b'.components.at? i = some c → ∃ c₀, b.components.at? i = some c₀ ∧
      c.id = c₀.id ∧ ∀ k, c.schedRcv? k =
        if c.id = id ∧ k = core then some handle else c₀.schedRcv? k := by
    intro i c hc
    have hindex := hh.index hc
    rw [hat] at hc
    split at hc
    · next hi =>
      obtain ⟨c₀, hc₀, rfl⟩ := Option.map_eq_some_iff.1 hc
      have hid : c₀.id = id := Service.ComponentId.number_inj (hindex.trans hi)
      refine ⟨c₀, hc₀, rfl, fun k => ?_⟩
      unfold ComponentRecord.schedRcv?
      rw [Std.ExtTreeMap.getElem?_insert]
      simp only [Std.LawfulEqCmp.compare_eq_iff_eq, hid, true_and, eq_comm (b := core)]
    · next hi =>
      refine ⟨c, hc, rfl, fun k => (if_neg fun hk => hi ?_).symm⟩
      rw [← hindex, hk.1]
  refine ⟨hh, fun d k hd => ?_, fun i c hc k => ?_, fun i c hc k handle' hhandle => ?_⟩
  · have hknown : b.hasComponent d = true := by
      rcases hd with hd | ⟨rfl, _⟩
      · exact h.known d k hd
      · obtain ⟨c, hc, _⟩ := Pool.handleAt?_eq_some_iff.1 hholder
        exact Option.isSome_iff_exists.2 ⟨c, Pool.at?_eq_some hc⟩
    unfold Broker.hasComponent Broker.component? at hknown ⊢
    rw [hat]
    split
    · rw [Option.isSome_map]
      exact hknown
    · exact hknown
  · obtain ⟨c₀, hc₀, hid, hentry⟩ := hcases i c hc
    rw [hentry k]
    split
    · next hk => exact iff_of_true rfl (.inr hk)
    · next hk => rw [h.entered i c₀ hc₀ k, hid, or_iff_left (hid ▸ hk)]
  · obtain ⟨c₀, hc₀, hid, hentry⟩ := hcases i c hc
    rw [hentry k] at hhandle
    split at hhandle
    · next hk =>
      cases hhandle
      exact ⟨_, hrcv, hk.1.symm, rfl⟩
    · obtain ⟨r, hr, howner, hcap⟩ := h.resolves i c₀ hc₀ k handle' hhandle
      obtain ⟨_, rfl, hr'⟩ := hrcvs.get? hr
      exact ⟨r, hr', howner.trans hid.symm, hcap⟩

end Broker

theorem createSchedExecution_enters (id : ComponentId) (core : CoreId) :
    (createSchedExecution id core).Leads b (fun handle b' => b.EntersEndpoint id core handle b')
      (fun _ _ => True) := by
  refine Step.Leads.get_bind (Step.Leads.require_bind (fun holder hholder => ?_) fun _ => trivial)
  have hreserve := Pool.allocate_stays (C := Eq) (P := fun _ => True) b.rcvs
  refine Step.leads_bind.2 (Part.ask_leads (hreserve.mono ?_ fun _ _ _ => trivial))
  intro slot rcvs hrcvs
  refine Step.leads_cleanly.2 (Step.leads_bind.2 (Part.run_leads (Step.leads_explain.2
    (.of_forall ?_ fun _ _ => trivial))))
  intro rcv k
  refine Step.leads_bind.2 (Part.ask_leads (Pool.activate_leads.mono ?_ fun _ _ _ => trivial))
  rintro handle _ ⟨hholds, rfl, rfl⟩
  refine Step.Leads.modify_bind (Step.Leads.modify_bind (Step.leads_pure.2 ?_))
  refine ⟨⟨holder, hholder, rfl⟩, ?_, rcv, ?_⟩
  · exact hrcvs.trans (fun _ _ _ _ => trivial) (.publish hholds trivial)
  · exact Pool.get?_eq_some_iff.2 ((Pool.entry_publish _).trans (if_pos rfl))

namespace Service

variable {s : Setting} {image : Image} {i : Invocation}

/-! ### A core's part of the start -/

theorem logFirst_schedules (h : b.Schedules due) (isInitCore : Bool) (message : String) :
    (logFirst isInitCore message).Leads b (fun _ => Broker.Schedules due) (fun _ _ => True) := by
  refine .ite (fun _ => Step.leads_modify.2 ?_) fun _ => Step.leads_pure.2 h
  exact ⟨h.homed, h.known, h.entered, h.resolves⟩

/-- Every execution that a core creates is a step towards the plan. -/
theorem createExecution_schedules (h : b.Schedules due) (selfId : ComponentId) (core : CoreId)
    (isInitCore : Bool) (planned : ComponentId × Execution) :
    (createExecution selfId core isInitCore planned).Leads b
      (fun _ => Broker.Schedules fun d k => due d k ∨ k = core ∧ (d, .sched) = planned)
      (fun _ _ => True) := by
  obtain ⟨id, kind⟩ := planned
  refine .ite (fun _ => .refuse_bind trivial) fun _ => .get_bind ?_
  refine .ite (fun _ => .refuse_bind trivial) fun _ => ?_
  cases kind with
  | sched =>
    have hobjects : Stays (Broker.ObjectMove machinesOnly) (createSchedExecution id core) :=
      createSchedExecution_objects id core
    refine Step.leads_bind.2 (Step.leads_explain.2
      (((createSchedExecution_enters id core).and (hobjects b)).mono ?_ fun _ _ _ => trivial))
    rintro handle b' ⟨henters, hmove⟩
    refine logFirst_schedules ((h.enters henters (hmove.homed h.homed)).congr fun d k => ?_) _ _
    rw [Prod.mk.injEq, and_iff_left rfl, and_comm]
  | init =>
    have hobjects : Stays (Broker.ObjectMove machinesOnly) (createInitThread id core) :=
      createInitThread_objects id core
    refine Step.leads_bind.2 (Step.leads_explain.2
      ((Step.Leads.and (createInitThread_keepsEndpoints id core b) (hobjects b)).mono ?_
        fun _ _ _ => trivial))
    rintro thread b' ⟨hkeeps, hmove⟩
    refine logFirst_schedules ((h.keeps hkeeps (hmove.homed h.homed)).congr fun d k => ?_) _ _
    exact (or_iff_left fun hk => by cases hk.2).symm

/-- When the core is done, all that the plan asks for on it is there. -/
theorem each_createExecution_schedules (h : b.Schedules due) (selfId : ComponentId)
    (core : CoreId) (isInitCore : Bool) (plan : List (ComponentId × Execution)) :
    (Step.each (createExecution selfId core isInitCore) plan).Leads b
      (fun _ => Broker.Schedules fun d k => due d k ∨ k = core ∧ (d, .sched) ∈ plan)
      (fun _ _ => True) := by
  induction plan generalizing b due with
  | nil => exact Step.leads_pure.2 (h.congr fun d k => by simp)
  | cons planned plan ih =>
    refine Step.Leads.bind (createExecution_schedules h selfId core isInitCore planned) ?_
    intro _ b₁ h₁
    refine (ih h₁).mono (fun _ b' h' => h'.congr fun d k => ?_) fun _ _ _ => trivial
    rw [List.mem_cons, or_assoc, ← and_or_left]

theorem parallelInit_schedules {cores : List CoreId}
    (h : b.Schedules fun id core => core ∈ cores ∧ (id, .sched) ∈ image.plan) (core : CoreId)
    (isInitCore : Bool) : (parallelInit image core isInitCore).Leads b
      (fun _ => Broker.Schedules fun id k => k ∈ core :: cores ∧ (id, .sched) ∈ image.plan)
      (fun _ _ => True) := by
  refine Step.Leads.bind (logFirst_schedules h _ _) fun _ b₁ h₁ => ?_
  refine (each_createExecution_schedules h₁ _ core isInitCore image.plan).mono
    (fun _ b' h' => h'.congr fun d k => ?_) fun _ _ _ => trivial
  rw [← or_and_right, List.mem_cons, or_comm]

/-! ### Everything else -/

/-- No request touches a scheduling endpoint: of those on record none changes, and a
machine that is made is no scheduler. -/
theorem dispatch_keepsEndpoints (image : Image) (i : Invocation) (request : Request) (b : Broker) :
    b.KeepsEndpoints ((dispatch image i request).final b) := by
  by_cases hvm : request = .createVmComponent
  · subst hvm
    have hperform : Stays Broker.KeepsEndpoints (perform image i .createVmComponent) :=
      Stays.map (Stays.map fun b => acting_bind (createVm_keepsEndpoints _ b))
    exact (dispatch_stays (fun _ _ => keepsEndpoints_tacit.log _ _) hperform b).final
  · have hsame : b.SameRoster (Action.after image (.request i request) b) :=
      Action.stays_unless_vm parts_sameRoster.admitsThreads sameRoster_tacit.ignoresSignals
        memory_sameRoster image (fun _ heq => hvm (Action.request.inj heq).2) b
    exact hsame.keepsEndpoints (dispatch_staysFrom image i request).final not_false

/-- The action is no core's part of the start. -/
def Action.isService : Action → Bool
  | .parallelInit .. => false
  | _ => true

theorem Action.keepsEndpoints (image : Image) {action : Action} (h : action.isService = true)
    (b : Broker) : b.KeepsEndpoints (action.after image b) := by
  cases action with
  | request i r => exact dispatch_keepsEndpoints image i r b
  | parallelInit core isInitCore => cases h
  | parallelMain core =>
    exact (parallelMain_signals keepsEndpoints_tacit.ignoresSignals image core b).final

theorem keepsEndpoints_admitsBoot (settings : Settings) (manifest : Manifest) :
    AdmitsBoot Broker.KeepsEndpoints settings manifest where
  log level message := (keepsEndpoints_tacit.log level message).answers
  adopt _ _ _ _ _ := (adopt_walks keepsEndpoints_tacit.log fun _ _ _ =>
    registerComponent_keepsEndpoints _ _ _ _ _).answers
  initUlk := (runKernel_keepsEndpoints _).answers
  shareUlk _ := (shareUlk_walks (runKernel_keepsEndpoints _)).answers
  setAside region :=
    (setAside_memory memory_admits region).answers_mono fun _ _ h => h.keepsEndpoints
  self := (registerComponent_keepsEndpoints _ _ _ _ _).answers
  initContig := (memory_admits.initContig _ _).answers_mono fun _ _ h => h.keepsEndpoints
  barriers b _ := keepsEndpoints_tacit b _ _ _ _

/-- Who is on record when the start is over is no scheduler yet. -/
theorem boot_isNew (settings : Settings) (manifest : Manifest) :
    (boot settings manifest).Leads b
      (fun _ b' => ∀ i c, b'.components.at? i = some c → c.IsNew) (fun _ _ => True) := by
  have hboot := boot_keeps (b := b) (fun journal => makePools_unlisted settings)
    (keepsEndpoints_admitsBoot settings manifest)
  refine hboot.mono ?_ fun _ _ _ => trivial
  rintro image b' ⟨_, made, ⟨_, hnobody⟩, h⟩ i c hc
  obtain ⟨g, hg⟩ := Pool.at?_eq_some_iff.1 hc
  rcases h.components.added i g c hg with ⟨c₀, _, hold⟩ | hnew
  · cases (hnobody i).symm.trans (Pool.at?_eq_some hold)
  · exact hnew

/-! ### In a run -/

/-- The states of the runs in a setting in which every core that did its part of the
start came to the end of it, with the cores that did, the last one first. -/
inductive StartedOn (s : Setting) (image : Image) : List CoreId → Broker → Prop where
  | boot {kernel : Kernel} {b : Broker}
      (created : Kernel.create? s.selfId s.layout s.faults = some kernel)
      (booted : boot s.settings s.manifest (.create kernel) = .ok image b) : StartedOn s image [] b
  | start {cores : List CoreId} {b b' : Broker} (core : CoreId) (isInitCore : Bool)
      (before : StartedOn s image cores b)
      (done : parallelInit image core isInitCore b = .ok () b') :
      StartedOn s image (core :: cores) b'
  | serve {cores : List CoreId} {b : Broker} (action : Action) (before : StartedOn s image cores b)
      (service : action.isService = true) : StartedOn s image cores (action.after image b)

namespace StartedOn

variable {cores : List CoreId}

theorem reached (h : StartedOn s image cores b) : Reached s image b := by
  induction h with
  | boot created booted => exact .boot created booted
  | @start cores b b' core isInitCore _ done ih =>
    have hafter : Action.after image (.parallelInit core isInitCore) b = b' :=
      Step.final_of_ok done
    exact hafter ▸ ih.act (.parallelInit core isInitCore)
  | serve action _ _ ih => exact ih.act action

/-- On these cores, and on no other, the planned components are schedulers. -/
theorem schedules (h : StartedOn s image cores b) :
    b.Schedules fun id core => core ∈ cores ∧ (id, .sched) ∈ image.plan := by
  induction h with
  | boot created booted =>
    have hnew := (boot_isNew s.settings s.manifest).of_ok booted
    refine ⟨(Reached.boot created booted).orderly.2.1, nofun, fun i c hc core => ?_,
      fun i c hc core handle hhandle => ?_⟩
    · simp [(hnew i c hc).schedRcv? core]
    · cases ((hnew i c hc).schedRcv? core).symm.trans hhandle
  | start core isInitCore _ done ih => exact (parallelInit_schedules ih core isInitCore).of_ok done
  | @serve cores b action before service ih =>
    exact ih.keeps (action.keepsEndpoints image service b)
      (before.reached.act action).orderly.2.1

end StartedOn

/-! ### Requests for endpoints -/

/-- The failure says that a component is no scheduler on a core. -/
def IsNotScheduler (failure : Failure) : Prop := ∃ id core, failure = .notScheduler id core

/-- The scheduling endpoint is found if the record has a handle that leads to it. -/
theorem schedulingEndpoint_leads {id : ComponentId} {c : ComponentRecord}
    (hc : b.component? id = some c) : (schedulingEndpoint id core).Leads b
      (fun _ _ => c.schedRcv? core ≠ none)
      (fun why b' => b' = b ∧
        (c.schedRcv? core = none ∧ why = .refused (.notScheduler c.id core) ∨
          ∃ handle, c.schedRcv? core = some handle ∧ b.rcvs.get? handle = none)) := by
  refine Step.leads_bind.2 (Step.Leads.get_bind ?_)
  rw [hc]
  refine Step.leads_pure.2 (Step.Leads.require_bind (fun handle hhandle => ?_) fun hnone => ?_)
  · have hsome : c.schedRcv? core ≠ none := by
      rw [hhandle]
      exact nofun
    refine Step.Leads.get_bind (Step.leads_require.2 ⟨fun _ _ => hsome, fun hlost => ?_⟩)
    exact ⟨rfl, .inr ⟨handle, hhandle, hlost⟩⟩
  · exact ⟨rfl, .inl ⟨hnone, rfl⟩⟩

/-- What the kernel or a pool refuses says nothing of schedulers. -/
theorem askKernel_certain {α : Type} (s : Step Kernel Kernel.Refusal α) :
    (askKernel s).Certain IsNotScheduler :=
  .within (.of_explain fun _ => nofun)

theorem ask_certain {σ α : Type} (part : Part (Pool σ)) (s : Step (Pool σ) Pool.Refusal α) :
    (part.ask s).Certain IsNotScheduler :=
  .within (.of_explain fun _ => nofun)

theorem aliasOrRevokeRcv_certain (rcv : Kernel.Rcv) (into : ComponentId) :
    (aliasOrRevokeRcv rcv into).Certain IsNotScheduler := by
  refine (askKernel_certain _).bind fun result => ?_
  cases result with
  | ok aliases => exact .pure
  | error refusal => exact (askKernel_certain _).bind fun _ => .refuse nofun

theorem aliasOrRevokeAsnd_certain (asnd : Kernel.Asnd) (into : ComponentId) :
    (aliasOrRevokeAsnd asnd into).Certain IsNotScheduler := by
  refine (askKernel_certain _).bind fun result => ?_
  cases result with
  | ok cap => exact .pure
  | error refusal => exact (askKernel_certain _).bind fun _ => .refuse nofun

theorem knownRcv_certain (handle : Handle RcvRecord) :
    (knownRcv handle).Certain IsNotScheduler := fun _ =>
  Step.Leads.get_bind (Step.leads_require.2 ⟨fun _ _ => trivial, fun _ _ heq => by
    cases heq
    nofun⟩)

theorem createSendEndpoint_certain (component : ComponentId) (target : Handle RcvRecord) :
    (createSendEndpoint component target).Certain IsNotScheduler := by
  refine (knownRcv_certain target).bind fun rcv => (ask_certain _ _).bind fun slot => .cleanly ?_
  refine (askKernel_certain _).bind fun asnd => (aliasOrRevokeAsnd_certain _ _).bind fun cap => ?_
  exact (ask_certain _ _).bind fun _ => (certain_note _).bind fun _ => .pure

theorem revokeReceiveEndpoint_certain (created : RcvCreated) :
    (revokeReceiveEndpoint created).Certain IsNotScheduler := by
  refine (knownRcv_certain _).bind fun rcv => (askKernel_certain _).bind fun _ => ?_
  refine (askKernel_certain _).bind fun _ => (ask_certain _ _).bind fun _ => ?_
  exact (ask_certain _ _).bind fun _ => certain_note _

/-- A request for an endpoint on a core stops because the component is no scheduler
there, or it is one, and the request stops for something else. -/
def StopsFor (c : ComponentRecord) (core : CoreId) (why : Stop Failure) : Prop :=
  c.schedRcv? core = none ∧ why = .refused (.notScheduler c.id core) ∨
    c.schedRcv? core ≠ none ∧ ∀ failure, why = .refused failure → ¬ IsNotScheduler failure

theorem createReceiveEndpoint_ends {id : ComponentId} (h : b.Schedules due) {c : ComponentRecord}
    (hc : b.component? id = some c) : (createReceiveEndpoint id core).Leads b
      (fun _ _ => c.schedRcv? core ≠ none) (fun why _ => StopsFor c core why) := by
  refine Step.leads_bind.2 ((schedulingEndpoint_leads hc).mono (fun record b₁ hsome => ?_) ?_)
  · -- Once the endpoint is found, nothing is refused for want of it any more.
    refine ((ask_certain rcvPool Pool.allocate).bind fun rcvSlot => ?_ : Certain _ _) b₁ |>.mono
      (fun _ _ _ => hsome) fun _ _ hwhy => .inr ⟨hsome, hwhy⟩
    refine .cleanly ((ask_certain _ _).bind fun threadSlot => .cleanly ?_)
    refine (askKernel_certain _).bind fun rcv => ?_
    refine (aliasOrRevokeRcv_certain _ _).bind fun aliases => ?_
    refine (ask_certain _ _).bind fun thread => (ask_certain _ _).bind fun handle => ?_
    exact (certain_note _).bind fun _ => .pure
  · rintro why _ ⟨rfl, ⟨hnone, rfl⟩ | ⟨handle, hhandle, hlost⟩⟩
    · exact .inl ⟨hnone, rfl⟩
    · obtain ⟨r, hr, -⟩ := h.resolves _ c hc core handle hhandle
      cases hr.symm.trans hlost

theorem createEndpointPair_ends (h : b.Schedules due) {c : ComponentRecord}
    (hc : b.component? i.caller = some c) : (createEndpointPair i).Leads b
      (fun _ _ => c.schedRcv? i.core ≠ none) (fun why _ => StopsFor c i.core why) := by
  have hknown : b.hasComponent i.caller = true := Option.isSome_iff_exists.2 ⟨c, hc⟩
  refine acting_leads_bind (fun hno => absurd hknown hno) fun _ => ?_
  refine Step.Leads.bind (createReceiveEndpoint_ends h hc) fun created b₁ hsome => ?_
  refine ((createSendEndpoint_certain _ _).attempt_bind ?_ ?_ : Certain _ _) b₁ |>.mono
    (fun _ _ _ => hsome) fun _ _ hwhy => .inr ⟨hsome, hwhy⟩
  · exact fun _ => .pure
  · exact fun failure hfailure => (revokeReceiveEndpoint_certain created).bind fun _ =>
      .refuse hfailure

/-! ### The handles and what they lead to -/

/-- Where every core that did its part of the start came to the end of it, a component
is a scheduler on a core exactly if the core did its part and the plan has the
component as one; the endpoint that it has for the core is on record, is its own and
has no capability installed.  And who is on record is told that it is no scheduler on
its core exactly if it has no endpoint for it. -/
theorem scheduling_endpoints_resolve {cores : List CoreId} (h : StartedOn s image cores b) :
    (∀ index c, b.components.at? index = some c → ∀ core,
      ((c.schedRcv? core).isSome = true ↔ core ∈ cores ∧ (c.id, .sched) ∈ image.plan) ∧
      ∀ handle, c.schedRcv? core = some handle →
        ∃ r, b.rcvs.get? handle = some r ∧ r.owner = c.id ∧ r.aliasedCap = .null) ∧
    ∀ i c entry flags, b.component? i.caller = some c →
      ((∃ id core b', perform image i (.createReceiveEndpoint entry flags) b =
        .error (.refused (.notScheduler id core)) b') ↔ c.schedRcv? i.core = none) := by
  have hschedules := h.schedules
  refine ⟨fun index c hc core => ?_, fun i c entry flags hc => ?_⟩
  · exact ⟨hschedules.entered index c hc core, hschedules.resolves index c hc core⟩
  · have hends : (perform image i (.createReceiveEndpoint entry flags)).Leads b
        (fun _ _ => c.schedRcv? i.core ≠ none) (fun why _ => StopsFor c i.core why) :=
      Step.leads_map.2 (Step.leads_map.2 (createEndpointPair_ends hschedules hc))
    refine ⟨fun ⟨id, core, b', hrefused⟩ => ?_, fun hnone => ?_⟩
    · rcases hends.of_error hrefused with ⟨hnone, _⟩ | ⟨_, hother⟩
      · exact hnone
      · exact absurd ⟨id, core, rfl⟩ (hother _ rfl)
    · rcases hends.ends with ⟨_, _, hsome⟩ | ⟨_, hrefused, ⟨_, rfl⟩ | ⟨hsome, _⟩⟩
      · exact absurd hnone hsome
      · exact ⟨_, _, _, hrefused⟩
      · exact absurd hnone hsome

/-- The core that an action starts. -/
def Action.core? : Action → Option CoreId
  | .parallelInit core _ => some core
  | _ => none

/-- Along a list of actions that are all answered, the cores come in their order. -/
theorem startedOn_of_go {cores : List CoreId} {actions : List Action}
    (h : StartedOn s image cores b)
    (hgo : Setting.runWhile.go answered image b actions = some b') :
    StartedOn s image ((actions.filterMap Action.core?).reverse ++ cores) b' := by
  induction actions generalizing b cores with
  | nil => exact Option.some.inj hgo ▸ h
  | cons action actions ih =>
    unfold Setting.runWhile.go at hgo
    split at hgo
    · next hends =>
      cases action with
      | request i r => exact ih (h.serve (.request i r) rfl) hgo
      | parallelMain core => exact ih (h.serve (.parallelMain core) rfl) hgo
      | parallelInit core isInitCore =>
        obtain ⟨_, b₁, hdone⟩ := Step.exists_ok_of_stop? (Option.isNone_iff_eq_none.1 hends)
        have hafter : Action.after image (.parallelInit core isInitCore) b = b₁ :=
          Step.final_of_ok hdone
        rw [hafter] at hgo
        have hlater := ih (h.start core isInitCore hdone) hgo
        have hcons : (Action.parallelInit core isInitCore :: actions).filterMap Action.core? =
          core :: actions.filterMap Action.core? := rfl
        rwa [hcons, List.reverse_cons, List.append_assoc]
    · cases hgo

/-- What a computed run shows is true of a state of a run. -/
theorem exists_startedOn {actions : List Action} {shows : Image × Broker → Bool}
    (h : (s.runWhile answered actions).any shows = true) :
    ∃ image b, StartedOn s image (actions.filterMap Action.core?).reverse b ∧
      shows (image, b) = true := by
  obtain ⟨⟨image, b⟩, hrun, hshows⟩ := (Option.any_eq_true _ _).1 h
  obtain ⟨kernel, hkernel, hrun⟩ := Option.bind_eq_some_iff.1 hrun
  split at hrun
  · next hboot =>
    obtain ⟨b', hgo, heq⟩ := Option.map_eq_some_iff.1 hrun
    cases heq
    refine ⟨image, b, ?_, hshows⟩
    simpa using startedOn_of_go (.boot hkernel hboot) hgo
  · cases hrun

/-- Between the starts of two cores a pair of endpoints is taken back, and another one
and a machine are made. -/
def Setting.secondCore : List Action :=
  [.parallelInit ⟨0⟩ true, .request ⟨⟨6⟩, ⟨0⟩⟩ endpointPair, .request ⟨⟨6⟩, ⟨0⟩⟩ endpointPair,
    .request ⟨⟨6⟩, ⟨0⟩⟩ .createVmComponent, .parallelInit ⟨1⟩ false]

/-- On the second core the scheduler has an endpoint of its own then, and on a third
one it is none. -/
theorem second_core_resolves :
    ∃ image b, StartedOn .withoutAsnd image [⟨1⟩, ⟨0⟩] b ∧
      (∃ c handle r, b.component? ⟨6⟩ = some c ∧ c.schedRcv? ⟨1⟩ = some handle ∧
        b.rcvs.get? handle = some r ∧ r.owner = ⟨6⟩ ∧ r.aliasedCap = .null) ∧
      ∃ id core b', perform image ⟨⟨6⟩, ⟨2⟩⟩ endpointPair b =
        .error (.refused (.notScheduler id core)) b' := by
  have hrun : (Setting.withoutAsnd.runWhile answered Setting.secondCore).any (fun p =>
      (p.2.component? ⟨6⟩).any fun c => c.id = ⟨6⟩ ∧ (⟨6⟩, .sched) ∈ p.1.plan) = true := by
    decide +kernel
  obtain ⟨image, b, hstarted, hshows⟩ := exists_startedOn hrun
  obtain ⟨c, hc, hplanned⟩ := (Option.any_eq_true _ _).1 hshows
  obtain ⟨hid, hplan⟩ := of_decide_eq_true hplanned
  obtain ⟨hentered, hserved⟩ := scheduling_endpoints_resolve hstarted
  have hsecond := hentered _ c hc ⟨1⟩
  obtain ⟨handle, hhandle⟩ := Option.isSome_iff_exists.1
    (hsecond.1.2 ⟨List.mem_cons_self, hid.symm ▸ hplan⟩)
  obtain ⟨r, hr, howner, hcap⟩ := hsecond.2 handle hhandle
  have hthird : c.schedRcv? ⟨2⟩ = none := by
    refine Option.not_isSome_iff_eq_none.1 fun hsome => ?_
    obtain ⟨hcore, _⟩ := (hentered _ c hc ⟨2⟩).1.1 hsome
    revert hcore
    decide
  exact ⟨image, b, hstarted, ⟨c, handle, r, hc, hhandle, hr, howner.trans hid, hcap⟩,
    (hserved ⟨⟨6⟩, ⟨2⟩⟩ c ⟨1⟩ ⟨0⟩ hc).2 hthird⟩

end Service

end CapabilityBroker
