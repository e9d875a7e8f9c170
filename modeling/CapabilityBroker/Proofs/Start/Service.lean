/-
CapabilityBroker/Proofs/Start/Service.lean

Each initialization is begun once, and never goes back.

Whatever is done to a started broker, one call after another, the course of every
component leads to the phase that it is in (`Reached.underway`).  A call to begin
that finds every planned component with a barrier begins those that were not begun,
in the order of the plan (`beginAll_nodup`); who was begun before, or is named
again, is passed over, and so the repetitions in a plan do not matter
(`beginAll_eraseDups`, `run_onceEach`).
-/
import CapabilityBroker.Proofs.Start.Course
import CapabilityBroker.Proofs.Start.Plan

namespace CapabilityBroker

variable {b b₁ b' : Broker} {id d : ComponentId} {ids all : List ComponentId} {core : CoreId}

namespace Broker

/-- Every course leads to its phase, and these components have a barrier. -/
structure Underway (ids : List ComponentId) (b : Broker) : Prop where
  chronicles : b.Chronicles
  known : ∀ id ∈ ids, ∃ phase, b.phase? id = some phase

/-- The initialization of a component was begun. -/
def IsBegun (b : Broker) (id : ComponentId) : Prop :=
  ∃ phase, b.phase? id = some phase ∧ phase ≠ .unregistered

/-- No barrier is lost. -/
theorem Advances.known {old new : Phase} (ha : b.Advances id old new b')
    (h : ∃ phase, b.phase? d = some phase) : ∃ phase, b'.phase? d = some phase := by
  obtain ⟨_, _, _, henters⟩ := ha
  rw [henters.phase d]
  split
  · exact ⟨new, rfl⟩
  · exact h

theorem Advances.isBegun {old : Phase} (ha : b.Advances id old .initializing b')
    (h : b.IsBegun d ∨ d = id) : b'.IsBegun d := by
  obtain ⟨_, _, _, henters⟩ := ha
  unfold IsBegun
  rw [henters.phase d]
  split
  · exact ⟨_, rfl, nofun⟩
  · next hne => exact h.resolve_right hne

theorem Underway.advances {old new : Phase} (h : b.Underway ids) (ha : b.Advances id old new b') :
    b'.Underway ids where
  chronicles := h.chronicles.advances ha
  known d hd := ha.known (h.known d hd)

theorem Underway.proceeds (h : b.Underway ids) (hp : b.Proceeds b') : b'.Underway ids := by
  rcases hp with hs | ⟨id, old, new, -, ha⟩
  · exact ⟨h.chronicles.same hs, fun d hd => by rw [hs.phases d]; exact h.known d hd⟩
  · exact h.advances ha

end Broker

namespace Service

variable {image : Image} {s : Setting}

/-! ### Beginning what is planned -/

/-- Begin the initialization of one component. -/
def begin (core : CoreId) (id : ComponentId) : Step Broker Defect Unit := do
  let _ ← (beginInit id core).explain Defect.ofFailure

/-- Begin the initializations of components, in order. -/
def beginAll (core : CoreId) (ids : List ComponentId) : Step Broker Defect Unit :=
  Step.each (begin core) ids

theorem parallelMain_eq (image : Image) (core : CoreId) :
    parallelMain image core = beginAll core image.planned := by
  unfold parallelMain beginAll Image.planned
  induction image.plan with
  | nil => rfl
  | cons planned rest ih =>
    show (_ >>= fun _ => _) = (_ >>= fun _ => _)
    rw [ih]
    rfl

/-- What one call to begin comes to. -/
theorem begin_eq (core : CoreId) (known : ∃ phase, b.phase? id = some phase) :
    ∃ b', begin core id b = .ok () b' ∧
      (b.phase? id = some .unregistered ∧ b.Advances id .unregistered .initializing b' ∧
          b'.scheduler.trail = b.scheduler.trail.record (.initScheduled id core) ∨
        b.IsBegun id ∧ b' = b) := by
  obtain ⟨phase, hphase⟩ := known
  have hbegin : (begin core id).Leads b (fun _ b' => phase = .unregistered ∧
        b.Advances id .unregistered .initializing b' ∧
        b'.scheduler.trail = b.scheduler.trail.record (.initScheduled id core) ∨
      phase ≠ .unregistered ∧ b' = b) (fun _ _ => False) :=
    Step.Leads.bind (Step.leads_explain.2 (beginInit_course hphase)) fun _ _ h =>
      Step.leads_pure.2 h
  rcases hbegin.ends with ⟨_, hs, h⟩ | ⟨_, _, h⟩
  · refine ⟨_, hs, h.imp (fun ⟨hold, ha, htrail⟩ => ⟨hold ▸ hphase, ha, htrail⟩) ?_⟩
    exact fun ⟨hnew, hsame⟩ => ⟨⟨phase, hphase, hnew⟩, hsame⟩
  · exact h.elim

theorem begin_of_isBegun (h : b.IsBegun id) : begin core id b = .ok () b := by
  obtain ⟨phase, hphase, hnew⟩ := h
  obtain ⟨b', hbegin, ⟨hold, _⟩ | ⟨_, rfl⟩⟩ := begin_eq core ⟨phase, hphase⟩
  · cases hphase.symm.trans hold
    exact absurd rfl hnew
  · exact hbegin

theorem beginAll_cons {rest : List ComponentId} (h : begin core id b = .ok () b₁) :
    beginAll core (id :: rest) b = beginAll core rest b₁ := by
  show EStateM.bind (begin core id) (fun _ => beginAll core rest) b = _
  unfold EStateM.bind
  rw [h]

/-- Who was begun is passed over. -/
theorem beginAll_filter (hbegun : b.IsBegun id)
    (known : ∀ d ∈ ids, ∃ phase, b.phase? d = some phase) :
    beginAll core (ids.filter fun d => !d == id) b = beginAll core ids b := by
  induction ids generalizing b with
  | nil => rfl
  | cons d rest ih =>
    obtain ⟨hd, hrest⟩ := List.forall_mem_cons.1 known
    by_cases heq : d = id
    · subst heq
      rw [List.filter_cons_of_neg (by simp), beginAll_cons (begin_of_isBegun hbegun)]
      exact ih hbegun hrest
    · obtain ⟨b₁, hb₁, hcase⟩ := begin_eq core hd
      rw [List.filter_cons_of_pos (by simpa using heq), beginAll_cons hb₁, beginAll_cons hb₁]
      rcases hcase with ⟨-, ha, -⟩ | ⟨-, rfl⟩
      · exact ih (ha.isBegun (.inl hbegun)) fun d' hd' => ha.known (hrest d' hd')
      · exact ih hbegun hrest

/-- Repetitions in the plan do not matter. -/
theorem beginAll_eraseDups (known : ∀ d ∈ ids, ∃ phase, b.phase? d = some phase) :
    beginAll core ids.eraseDups b = beginAll core ids b := by
  induction ids using filter_induction (fun (id d : ComponentId) => !d == id) generalizing b with
  | nil => rfl
  | cons id rest ih =>
    obtain ⟨hid, hrest⟩ := List.forall_mem_cons.1 known
    obtain ⟨b₁, hb₁, hcase⟩ := begin_eq core hid
    have hafter : b₁.IsBegun id ∧ ∀ d ∈ rest, ∃ phase, b₁.phase? d = some phase := by
      rcases hcase with ⟨-, ha, -⟩ | ⟨hbegun, rfl⟩
      · exact ⟨ha.isBegun (.inr rfl), fun d hd => ha.known (hrest d hd)⟩
      · exact ⟨hbegun, hrest⟩
    rw [List.eraseDups_cons, beginAll_cons hb₁, beginAll_cons hb₁,
      ih fun d hd => hafter.2 d (List.mem_of_mem_filter hd), beginAll_filter hafter.1 hafter.2]

end Service

/-- Of these components those that were not begun are begun in order, from one core. -/
structure Broker.Begins (b : Broker) (core : CoreId) (ids : List ComponentId) (b' : Broker) :
    Prop where
  phase : ∀ d, b'.phase? d =
    if d ∈ ids ∧ b.phase? d = some .unregistered then some .initializing else b.phase? d
  scheduler : b'.scheduler.trail.toList = b.scheduler.trail.toList ++
    (ids.filter fun id => b.phase? id = some .unregistered).map (.initScheduled · core)

namespace Service

variable {image : Image} {s : Setting}

theorem beginAll_nodup (h : b.Underway all) (hsub : ids ⊆ all) (hn : ids.Nodup) :
    ∃ b', beginAll core ids b = .ok () b' ∧ b'.Underway all ∧ b.Begins core ids b' := by
  induction ids generalizing b with
  | nil => exact ⟨b, rfl, h, by simp, by simp⟩
  | cons id rest ih =>
    obtain ⟨hid, hn⟩ := List.nodup_cons.1 hn
    have hrest : rest ⊆ all := fun d hd => hsub (List.mem_cons_of_mem id hd)
    obtain ⟨b₁, hb₁, hcase⟩ := begin_eq core (h.known id (hsub List.mem_cons_self))
    rcases hcase with ⟨hold, ha, htrail⟩ | ⟨⟨phase, hphase, hnew⟩, rfl⟩
    · obtain ⟨b', hb', hunderway, hbegins⟩ := ih (h.advances ha) hrest hn
      obtain ⟨_, _, _, henters⟩ := ha
      refine ⟨b', (beginAll_cons hb₁).trans hb', hunderway, fun d => ?_, ?_⟩
      · rw [hbegins.phase d, henters.phase d]
        by_cases hd : d = id
        · simp [hd, hid, hold]
        · simp [hd]
      · have hfilter : (rest.filter fun d => b₁.phase? d = some .unregistered) =
            rest.filter fun d => b.phase? d = some .unregistered :=
          List.filter_congr fun d hd => by
            rw [henters.phase d, if_neg (ne_of_mem_of_not_mem hd hid)]
        rw [hbegins.scheduler, htrail, Trail.toList_record, hfilter,
          List.filter_cons_of_pos (by simpa using hold), List.map_cons, List.append_assoc]
        rfl
    · obtain ⟨b', hb', hunderway, hbegins⟩ := ih h hrest hn
      have hold : b₁.phase? id ≠ some .unregistered := by
        rw [hphase]
        exact fun heq => hnew (Option.some.inj heq)
      refine ⟨b', (beginAll_cons hb₁).trans hb', hunderway, fun d => ?_, ?_⟩
      · rw [hbegins.phase d]
        by_cases hd : d = id
        · simp [hd, hold]
        · simp [hd]
      · rw [hbegins.scheduler, List.filter_cons_of_neg (by simpa using hold)]

/-- Each core's call begins what is planned and was not begun. -/
theorem parallelMain_begins (h : b.Underway image.planned) (core : CoreId) :
    ∃ b', parallelMain image core b = .ok () b' ∧ b'.Underway image.planned ∧
      b.Begins core image.planned.eraseDups b' := by
  rw [parallelMain_eq, ← beginAll_eraseDups h.known]
  exact beginAll_nodup h (fun _ => List.mem_eraseDups.1) (nodup_eraseDups _)

/-! ### Signals -/

/-- An exit leaves every barrier as it is, and says nothing of the start. -/
theorem exit_sameCourses (image : Image) (i : Invocation) (retval : Int32) (b : Broker) :
    ((dispatch image i (.signalInitExit retval)).final b).barriers = b.barriers ∧
      b.SameCourses ((dispatch image i (.signalInitExit retval)).final b) := by
  refine dispatch_final (P := fun b' => b'.barriers = b.barriers ∧ b.SameCourses b') ?_ ?_
  · exact fun _ _ h => ⟨h.1, h.2.phases, h.2.courses⟩
  · refine Step.leads_map.2 (Step.leads_map.2 ?_)
    refine acting_leads_bind (fun _ => ⟨rfl, fun _ => rfl, fun _ => rfl⟩) fun _ => ?_
    exact signalExit_leads _ _

/-- A signal of a thread that is done takes one component further, or none. -/
theorem done_proceeds (image : Image) (i : Invocation) (parallel : Bool) (mode : MainMode)
    (b : Broker) : b.Proceeds ((dispatch image i (.signalInitDone parallel mode)).final b) := by
  refine dispatch_final ?_ ?_
  · rintro b' journal (hs | ⟨id, old, new, hold, hbefore, phases, hnew, hphase, hcourse⟩)
    · exact .inl ⟨hs.phases, hs.courses⟩
    · exact .inr ⟨id, old, new, hold, hbefore, phases, hnew, hphase, hcourse⟩
  · refine Step.leads_map.2 (acting_leads_bind (fun _ => ?_) fun _ => ?_)
    · exact .inl ⟨fun _ => rfl, fun _ => rfl⟩
    · exact signalDone_proceeds _ _ _ _

/-- Whatever happens but a core's call to begin. -/
theorem Action.proceeds (image : Image) {action : Action}
    (h : ∀ core, action ≠ .parallelMain core) (b : Broker) :
    b.Proceeds (action.after image b) := by
  cases hsignal : action.isSignal with
  | false => exact .inl (action.sameStart image hsignal b).sameCourses
  | true =>
    cases action with
    | request i request =>
      cases request with
      | signalInitDone parallel mode => exact done_proceeds image i parallel mode b
      | signalInitExit retval => exact .inl (exit_sameCourses image i retval b).2
      | _ => cases hsignal
    | parallelInit core isInitCore => cases hsignal
    | parallelMain core => exact absurd rfl (h core)

/-! ### Runs -/

theorem Action.underway (h : b.Underway image.planned) (action : Action) :
    (action.after image b).Underway image.planned := by
  by_cases hmain : ∃ core, action = .parallelMain core
  · obtain ⟨core, rfl⟩ := hmain
    obtain ⟨b', hb', hunderway, _⟩ := parallelMain_begins h core
    have hafter : Action.after image (.parallelMain core) b = b' := Step.final_of_ok hb'
    exact hafter ▸ hunderway
  · exact h.proceeds (action.proceeds image (fun core heq => hmain ⟨core, heq⟩) b)

/-- When the broker has started, no initialization was begun, and every planned
component has a barrier. -/
theorem boot_underway {kernel : Kernel}
    (booted : boot s.settings s.manifest (.create kernel) = .ok image b) :
    b.Underway image.planned ∧ ∀ id phase, b.phase? id = some phase → phase = .unregistered := by
  obtain ⟨hscheduler, htransitions⟩ := (boot_idle s.settings s.manifest).of_ok booted
  have hbarriers := ((boot_barriers s.settings s.manifest).of_ok booted).2
  have hphase : ∀ id, b.phase? id = if id ∈ image.planned then some .unregistered else none := by
    intro id
    unfold Broker.phase? Image.planned
    rw [hbarriers, getElem?_over]
    split
    · rfl
    · rfl
  refine ⟨⟨fun id => ?_, fun id hid => ⟨_, (hphase id).trans (if_pos hid)⟩⟩, fun id phase h => ?_⟩
  · have hcourse : b.course id = .fresh := by
      unfold Broker.course Broker.entered
      rw [hscheduler, htransitions]
      rfl
    rw [hcourse, hphase id]
    split
    · rfl
    · rfl
  · rw [hphase id] at h
    split at h
    · exact (Option.some.inj h).symm
    · cases h

theorem Reached.underway (h : Reached s image b) : b.Underway image.planned := by
  induction h with
  | boot _ booted => exact (boot_underway booted).1
  | act action _ ih => exact action.underway ih

/-- Before the first call to begin, nothing was begun. -/
theorem unregistered_foldl (image : Image) {actions : List Action}
    (hmain : ∀ core, Action.parallelMain core ∉ actions)
    (h : ∀ id phase, b.phase? id = some phase → phase = .unregistered) :
    ∀ id phase, (actions.foldl (fun b action => action.after image b) b).phase? id = some phase →
      phase = .unregistered := by
  induction actions generalizing b with
  | nil => exact h
  | cons action actions ih =>
    refine ih (fun core hmem => hmain core (List.mem_cons_of_mem _ hmem)) fun id phase hphase => ?_
    rcases action.proceeds image (fun core heq => hmain core (heq ▸ List.mem_cons_self)) b with
      hs | ⟨id', old, _, hold, hbefore, _⟩
    · exact h id phase ((hs.phases id).symm.trans hphase)
    · exact absurd (h id' old hbefore) hold

/-! ### Plans without repetitions -/

/-- The setting with the first execution of each component alone. -/
def Setting.onceEach (s : Setting) : Setting := { s with manifest := s.manifest.onceEach }

variable {once : Image}

/-- A signal asks nothing of the image but which components are planned. -/
theorem Action.after_once (h : b.Underway image.planned)
    (honce : once.planned = image.planned.eraseDups) {action : Action}
    (hsignal : action.isSignal = true) : action.after once b = action.after image b := by
  cases action with
  | request i request =>
    cases request with
    | signalInitDone parallel mode => rfl
    | signalInitExit retval => rfl
    | _ => cases hsignal
  | parallelInit core isInitCore => cases hsignal
  | parallelMain core =>
    show (Service.parallelMain once core).final b = (Service.parallelMain image core).final b
    unfold Step.final
    rw [parallelMain_eq, parallelMain_eq, honce, beginAll_eraseDups h.known]

theorem foldl_once (h : b.Underway image.planned) (honce : once.planned = image.planned.eraseDups)
    {actions : List Action} (hsignals : ∀ action ∈ actions, action.isSignal = true) :
    actions.foldl (fun b action => action.after once b) b =
      actions.foldl (fun b action => action.after image b) b := by
  induction actions generalizing b with
  | nil => rfl
  | cons action actions ih =>
    obtain ⟨haction, hrest⟩ := List.forall_mem_cons.1 hsignals
    rw [List.foldl_cons, List.foldl_cons, action.after_once h honce haction]
    exact ih (action.underway h) hrest

/-- The same signals come to the same state when the plan has no repetitions. -/
theorem run_onceEach {actions : List Action} (h : s.run actions = some (image, b))
    (hsignals : ∀ action ∈ actions, action.isSignal = true) :
    ∃ once, s.onceEach.run actions = some (once, b) ∧
      once.planned = image.planned.eraseDups := by
  obtain ⟨kernel, first, hkernel, hboot, rfl⟩ := boot_of_run h
  obtain ⟨once, hboot', honce⟩ := boot_onceEach hboot
  refine ⟨once, ?_, honce⟩
  rw [← foldl_once (boot_underway hboot).1 honce hsignals]
  exact run_of_boot (s := s.onceEach) actions hkernel hboot'

/-! ### The whole of it -/

/-- After any run, every core's call to begin comes to its end and begins, in the
order of the plan, each component that was not begun: all of them if it is the first
such call.  What is on record of a planned component is the beginning of one course
and ends in its phase.  An exit leaves the barriers as they are, and repetitions in
the plan make no difference to a run of signals. -/
theorem starts_once_and_never_goes_back {actions : List Action}
    (h : s.run actions = some (image, b)) :
    (∀ core, ∃ b', parallelMain image core b = .ok () b' ∧
      b.Begins core image.planned.eraseDups b' ∧
      ((∀ core', .parallelMain core' ∉ actions) →
        b'.scheduler.trail.toList = b.scheduler.trail.toList ++
          image.planned.eraseDups.map (.initScheduled · core))) ∧
    (∀ id ∈ image.planned, ∃ phase, b.phase? id = some phase ∧
      b.entered id <+: [.initializing, .parallelInit, .main] ∧
      (b.entered id).getLast?.getD .unregistered = phase ∧
      b.scheduler.timesScheduled id = (if phase = .unregistered then 0 else 1) ∧
      b.scheduler.timesReleased id = if phase = .main then 1 else 0) ∧
    (∀ i retval, ((dispatch image i (.signalInitExit retval)).final b).barriers = b.barriers) ∧
    ((∀ action ∈ actions, action.isSignal = true) → ∃ once,
      s.onceEach.run actions = some (once, b) ∧ once.planned = image.planned.eraseDups) := by
  have hunderway := (reached_of_run h).underway
  refine ⟨fun core => ?_, fun id hid => ?_, fun i retval => ?_, run_onceEach h⟩
  · obtain ⟨b', hb', -, hbegins⟩ := parallelMain_begins hunderway core
    refine ⟨b', hb', hbegins, fun hmain => ?_⟩
    obtain ⟨kernel, first, -, hboot, hb⟩ := boot_of_run h
    have hnew := unregistered_foldl image hmain (boot_underway hboot).2
    have hall : (image.planned.eraseDups.filter fun id => b.phase? id = some .unregistered) =
        image.planned.eraseDups := by
      refine List.filter_eq_self.2 fun id hid => ?_
      obtain ⟨phase, hphase⟩ := hunderway.known id (List.mem_eraseDups.1 hid)
      have hold := hnew id phase (hb ▸ hphase)
      simp [hphase, hold]
    rw [hbegins.scheduler, hall]
  · obtain ⟨phase, hphase⟩ := hunderway.known id hid
    have hcourse : b.course id = .of phase := by
      rw [hunderway.chronicles id, hphase]
      rfl
    have hentered : b.entered id = phase.history :=
      (congrArg Course.entered hcourse).trans (Course.entered_of phase)
    refine ⟨phase, hphase, ?_, ?_, ?_, ?_⟩
    · exact hentered ▸ phase.history_isPrefix
    · exact hentered ▸ phase.getLast?_history
    · exact (congrArg Course.scheduled hcourse).trans (Course.scheduled_of phase)
    · exact (congrArg Course.released hcourse).trans (Course.released_of phase)
  · exact (exit_sameCourses image i retval b).1

/-- The ordinary manifest, which also plans the scheduler a second time. -/
def Setting.repeating : Setting :=
  { Setting.ordinary with manifest := (Draft.clientAndScheduler.execute 6 "init").manifest }

/-- Both cores call to begin, and the client is done on both, and once more; it exits
early, and a stranger makes calls of its own. -/
def bothCores : List Action :=
  [.request ⟨⟨5⟩, ⟨0⟩⟩ (.signalInitDone true .parallel), .parallelMain ⟨1⟩,
    .request ⟨⟨5⟩, ⟨1⟩⟩ (.signalInitExit 7), .request ⟨⟨5⟩, ⟨1⟩⟩ (.signalInitDone true .parallel),
    .request ⟨⟨9⟩, ⟨0⟩⟩ (.signalInitDone true .parallel), .parallelMain ⟨0⟩,
    .request ⟨⟨5⟩, ⟨0⟩⟩ (.signalInitDone false .none),
    .request ⟨⟨5⟩, ⟨0⟩⟩ (.signalInitDone true .parallel)]

/-- There the client starts once, and so it does without the repetition. -/
theorem client_starts_once : ∃ image once b,
    Setting.repeating.run bothCores = some (image, b) ∧
      image.planned = [⟨6⟩, ⟨5⟩, ⟨6⟩] ∧ once.planned = [⟨6⟩, ⟨5⟩] ∧
      Setting.repeating.onceEach.run bothCores = some (once, b) ∧
      b.phase? ⟨5⟩ = some .main ∧ b.entered ⟨5⟩ <+: [.initializing, .parallelInit, .main] ∧
      (b.entered ⟨5⟩).getLast?.getD .unregistered = .main ∧
      b.scheduler.timesScheduled ⟨5⟩ = 1 ∧ b.scheduler.timesReleased ⟨5⟩ = 1 := by
  have hrun : (Setting.repeating.run bothCores).any (fun p =>
      p.1.planned == [⟨6⟩, ⟨5⟩, ⟨6⟩] && p.2.phase? ⟨5⟩ == some .main) = true := by decide +kernel
  obtain ⟨⟨image, b⟩, hrun, hshows⟩ := (Option.any_eq_true _ _).1 hrun
  simp only [Bool.and_eq_true, beq_iff_eq] at hshows
  obtain ⟨hplanned, hmain⟩ := hshows
  obtain ⟨-, hcourses, -, honce⟩ := starts_once_and_never_goes_back hrun
  obtain ⟨phase, hphase, hentered, hlast, hscheduled, hreleased⟩ :=
    hcourses ⟨5⟩ (by rw [hplanned]; decide)
  cases hmain.symm.trans hphase
  obtain ⟨once, hrun', hids⟩ := honce (by decide)
  exact ⟨image, once, b, hrun, hplanned, by rw [hids, hplanned]; decide, hrun', hphase, hentered,
    hlast, hscheduled, hreleased⟩

end Service

end CapabilityBroker
