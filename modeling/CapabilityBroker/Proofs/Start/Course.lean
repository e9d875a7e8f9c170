/-
CapabilityBroker/Proofs/Start/Course.lean

The course of an initialization.

Of a component three things are on record: the phases that the trail says it
entered, and how often the scheduler was asked to run its initialization and to
release it (`Course`).  A course follows a phase if it is what the phases up to
that one leave behind (`Course.of`).

Each signal either leaves every phase and every course as it was
(`Broker.SameCourses`) or takes one component one or two phases further, with the
entries that belong to them (`Broker.Advances`).  Both keep every course in step
with its phase (`Broker.Chronicles`).
-/
import CapabilityBroker.Proofs.Barrier.Accounting
import CapabilityBroker.Proofs.Start.Basic

namespace CapabilityBroker

open Step (Stays)

/-! ### Phases and courses -/

/-- The phases that an initialization has entered when it is in this one. -/
def Phase.history : Phase → List Phase
  | unregistered => []
  | initializing => [.initializing]
  | parallelInit => [.initializing, .parallelInit]
  | main => [.initializing, .parallelInit, .main]

/-- What is on record of an initialization. -/
structure Course where
  entered : List Phase
  /-- How often the scheduler was asked to run it. -/
  scheduled : Nat
  /-- How often the scheduler was asked to release the component. -/
  released : Nat

namespace Course

/-- Of an initialization that was not begun nothing is on record. -/
def fresh : Course := ⟨[], 0, 0⟩

/-- One more phase is entered: the scheduler runs the first, and releases the
component with the last. -/
def enter (c : Course) (phase : Phase) : Course :=
  ⟨c.entered ++ [phase], c.scheduled + (if phase = .initializing then 1 else 0),
    c.released + (if phase = .main then 1 else 0)⟩

/-- The course that leads to a phase. -/
def of (phase : Phase) : Course := phase.history.foldl enter fresh

variable {old new : Phase} {phases : List Phase}

theorem foldl_enter_of (h : new.history = old.history ++ phases) :
    phases.foldl enter (of old) = of new := by
  unfold of
  rw [h, List.foldl_append]

theorem entered_of (phase : Phase) : (of phase).entered = phase.history := by cases phase <;> rfl

theorem scheduled_of (phase : Phase) :
    (of phase).scheduled = if phase = .unregistered then 0 else 1 := by cases phase <;> rfl

theorem released_of (phase : Phase) :
    (of phase).released = if phase = .main then 1 else 0 := by cases phase <;> rfl

end Course

theorem Phase.history_isPrefix (phase : Phase) :
    phase.history <+: [.initializing, .parallelInit, .main] := by
  cases phase <;> decide

theorem Phase.getLast?_history (phase : Phase) :
    phase.history.getLast?.getD .unregistered = phase := by
  cases phase <;> rfl

/-! ### What is on record in a state -/

namespace Scheduler

/-- Whether an event asks to run the initialization of a component. -/
def Event.schedules (id : ComponentId) : Event → Bool
  | initScheduled component _ => component = id
  | _ => false

/-- How often the scheduler was asked to run the initialization of a component. -/
def timesScheduled (s : Scheduler) (id : ComponentId) : Nat := s.trail.count (Event.schedules id)

/-- How often the scheduler was asked to release a component. -/
def timesReleased (s : Scheduler) (id : ComponentId) : Nat := s.trail.count (· = .released id)

variable {s s' : Scheduler} {id id' : ComponentId} {core : CoreId} {event : Event}

@[simp] theorem timesScheduled_scheduleInit : (s.scheduleInit id core).timesScheduled id' =
    s.timesScheduled id' + if id' = id then 1 else 0 := by
  simp [timesScheduled, scheduleInit, record, Event.schedules, eq_comm]

@[simp] theorem timesReleased_scheduleInit :
    (s.scheduleInit id core).timesReleased id' = s.timesReleased id' := by
  simp [timesReleased, scheduleInit, record]

@[simp] theorem timesScheduled_release :
    (s.release id).timesScheduled id' = s.timesScheduled id' := by
  simp [timesScheduled, release, record, Event.schedules]

@[simp] theorem timesReleased_release : (s.release id).timesReleased id' =
    s.timesReleased id' + if id' = id then 1 else 0 := by
  simp [timesReleased, release, record, eq_comm]

/-- Events that say nothing of the start are not counted. -/
theorem counts_eq (h : s'.trail = s.trail.record event) (hs : event.schedules id = false)
    (hr : event ≠ .released id) :
    s'.timesScheduled id = s.timesScheduled id ∧ s'.timesReleased id = s.timesReleased id := by
  unfold timesScheduled timesReleased
  rw [h, Trail.count_record, Trail.count_record, hs]
  simp [hr]

end Scheduler

namespace Broker

/-- The phase of a component that has a barrier. -/
def phase? (b : Broker) (id : ComponentId) : Option Phase := b.barriers[id]?.map Barrier.phase

/-- The phases that the trail says a component entered, in order. -/
def entered (b : Broker) (id : ComponentId) : List Phase :=
  b.transitions.filterMap fun t => if t.1 = id then some t.2 else none

/-- What is on record of the initialization of a component. -/
def course (b : Broker) (id : ComponentId) : Course :=
  ⟨b.entered id, b.scheduler.timesScheduled id, b.scheduler.timesReleased id⟩

variable {b b₁ b' : Broker} {id id' : ComponentId} {old new phase : Phase} {core : CoreId}
variable {phases : List Phase}

theorem phase?_eq_some : b.phase? id = some phase ↔
    ∃ barrier, b.barriers[id]? = some barrier ∧ barrier.phase = phase := Option.map_eq_some_iff

theorem phase?_insert {barrier : Barrier} (h : b'.barriers = b.barriers.insert id barrier)
    (hphase : barrier.phase = phase) :
    b'.phase? id' = if id' = id then some phase else b.phase? id' := by
  unfold phase?
  rw [h, getElem?_insert, ← hphase]
  split
  · rfl
  · rfl

theorem transitions_note (h : b'.trail = b.trail.record (.initTransition id phase)) :
    b'.transitions = b.transitions ++ [(id, phase)] := by
  unfold transitions
  rw [h, Trail.toList_record, List.filterMap_append]
  rfl

theorem entered_append (h : b'.transitions = b.transitions ++ [(id, phase)]) :
    b'.entered id' = if id' = id then b.entered id' ++ [phase] else b.entered id' := by
  unfold entered
  rw [h, List.filterMap_append]
  split
  · next heq => simp [heq]
  · next hne => simp [Ne.symm hne]

theorem course_idle {event : Scheduler.Event} (htransitions : b'.transitions = b.transitions)
    (hscheduler : b'.scheduler.trail = b.scheduler.trail.record event)
    (hs : event.schedules id = false) (hr : event ≠ .released id) :
    b'.course id = b.course id := by
  obtain ⟨hscheduled, hreleased⟩ := Scheduler.counts_eq hscheduler hs hr
  unfold course entered
  rw [htransitions, hscheduled, hreleased]

/-- Neither a phase nor a course changes. -/
structure SameCourses (b b' : Broker) : Prop where
  phases : ∀ id, b'.phase? id = b.phase? id
  courses : ∀ id, b'.course id = b.course id

theorem SameStart.sameCourses (h : b.SameStart b') : b.SameCourses b' where
  phases id := by
    unfold phase?
    rw [h.barriers]
  courses id := by
    unfold course entered
    rw [h.scheduler, h.transitions]

/-- One component has this phase now, and has entered these phases on the way. -/
structure Enters (b : Broker) (id : ComponentId) (phases : List Phase) (phase : Phase)
    (b' : Broker) : Prop where
  phase : ∀ id', b'.phase? id' = if id' = id then some phase else b.phase? id'
  course : ∀ id', b'.course id' =
    if id' = id then phases.foldl Course.enter (b.course id') else b.course id'

/-- One component goes on from one phase to a later one. -/
def Advances (b : Broker) (id : ComponentId) (old new : Phase) (b' : Broker) : Prop :=
  b.phase? id = some old ∧
    ∃ phases, new.history = old.history ++ phases ∧ b.Enters id phases new b'

/-- Every course leads to the phase that its component is in. -/
def Chronicles (b : Broker) : Prop := ∀ id, b.course id = .of ((b.phase? id).getD .unregistered)

theorem Chronicles.same (h : b.Chronicles) (hs : b.SameCourses b') : b'.Chronicles := fun id => by
  rw [hs.courses id, hs.phases id, h id]

theorem Chronicles.advances (h : b.Chronicles) (ha : b.Advances id old new b') :
    b'.Chronicles := fun id' => by
  obtain ⟨hold, phases, hhistory, henters⟩ := ha
  rw [henters.course id', henters.phase id']
  split
  · next heq =>
    subst heq
    rw [h id', hold]
    exact Course.foldl_enter_of hhistory
  · exact h id'

/-- A component has another phase, and nothing is noted. -/
theorem enters_none {event : Scheduler.Event}
    (hphase : ∀ id', b'.phase? id' = if id' = id then some new else b.phase? id')
    (htrail : b'.trail = b.trail)
    (hscheduler : b'.scheduler.trail = b.scheduler.trail.record event)
    (hs : ∀ id', event.schedules id' = false) (hr : ∀ id', event ≠ .released id') :
    b.Enters id [] new b' where
  phase := hphase
  course id' := by
    rw [course_idle (by unfold transitions; rw [htrail]) hscheduler (hs id') (hr id')]
    exact (ite_self _).symm

/-- One transition is noted, and the scheduler is asked for what belongs to it. -/
theorem enters_one
    (hphase : ∀ id', b'.phase? id' = if id' = id then some new else b.phase? id')
    (htransitions : b'.transitions = b.transitions ++ [(id, phase)])
    (hscheduled : ∀ id', b'.scheduler.timesScheduled id' = b.scheduler.timesScheduled id' +
      if id' = id then (if phase = .initializing then 1 else 0) else 0)
    (hreleased : ∀ id', b'.scheduler.timesReleased id' = b.scheduler.timesReleased id' +
      if id' = id then (if phase = .main then 1 else 0) else 0) :
    b.Enters id [phase] new b' where
  phase := hphase
  course id' := by
    unfold Broker.course
    rw [entered_append htransitions, hscheduled id', hreleased id']
    split
    · rfl
    · rfl

/-- A component enters some phases and then others. -/
theorem Enters.trans {more : List Phase} (h : b.Enters id phases phase b₁)
    (h' : b₁.Enters id more new b') : b.Enters id (phases ++ more) new b' where
  phase id' := by
    rw [h'.phase id', h.phase id']
    split
    · rfl
    · rfl
  course id' := by
    rw [h'.course id', h.course id', List.foldl_append]
    split
    · rfl
    · rfl

end Broker

/-! ### What the signals do to them -/

section Signals

variable {b b' : Broker} {id : ComponentId} {phase : Phase} {core : CoreId}

/-- Only the first call begins an initialization; no call goes further. -/
theorem beginInit_course (known : b.phase? id = some phase) :
    (beginInit id core).Leads b
      (fun _ b' => phase = .unregistered ∧ b.Advances id .unregistered .initializing b' ∧
          b'.scheduler.trail = b.scheduler.trail.record (.initScheduled id core) ∨
        phase ≠ .unregistered ∧ b' = b)
      (fun _ _ => False) := by
  obtain ⟨barrier, hb, hphase⟩ := Broker.phase?_eq_some.1 known
  refine beginInit_leads.mono ?_ fun why b' h => by cases hb.symm.trans h.1
  rintro first b' ⟨barrier', hb', ⟨hfresh, -, hbarriers, hscheduler, htrail⟩ | ⟨hbegun, -, rfl⟩⟩
  · cases hb.symm.trans hb'
    have hold : phase = .unregistered := hphase.symm.trans hfresh
    refine .inl ⟨hold, ⟨hold ▸ known, [.initializing], rfl, ?_⟩, by rw [hscheduler]; rfl⟩
    refine Broker.enters_one (fun id' => Broker.phase?_insert hbarriers rfl)
      (Broker.transitions_note htrail) (fun id' => ?_) fun id' => ?_
    · simp [hscheduler]
    · simp [hscheduler]
  · cases hb.symm.trans hb'
    exact .inr ⟨fun h => hbegun (hphase.trans h), rfl⟩

/-- A thread that comes to a barrier opens it or leaves the phase as it is. -/
theorem arriveAt_enters (id : ComponentId) (core : CoreId) (barrier : Barrier) :
    (arriveAt id core barrier).Leads b
      (fun _ b' => b.Enters id [] barrier.phase b' ∨ b.Enters id [.main] .main b')
      (fun _ _ => False) := by
  unfold arriveAt Barrier.arrive
  rcases Nat.lt_trichotomy (barrier.arrived + 1) barrier.expected with hlt | heq | hgt
  · rw [if_neg (Nat.lt_asymm hlt), if_neg (Nat.ne_of_lt hlt)]
    have hwaits : ∀ b' : Broker, b'.barriers = b.barriers.insert id
        { barrier with arrived := barrier.arrived + 1 } → b'.trail = b.trail →
        b'.scheduler = b.scheduler.park id core → b.Enters id [] barrier.phase b' :=
      fun b' hbarriers htrail hscheduler =>
        Broker.enters_none (fun _ => Broker.phase?_insert hbarriers rfl) htrail
          (hscheduler ▸ Scheduler.trail_park) (fun _ => rfl) (fun _ h => by cases h)
    refine Step.Leads.modify_bind (Step.Leads.modify_bind (Step.Leads.get_bind ?_))
    refine .ite (fun _ => Step.leads_pure.2 (.inl ?_)) fun _ => Step.leads_pure.2 (.inl ?_)
    · exact hwaits _ rfl rfl rfl
    · exact hwaits _ rfl rfl rfl
  · rw [if_neg (Nat.not_lt.2 (Nat.le_of_eq heq)), if_pos heq]
    refine Step.Leads.modify_bind (Step.Leads.modify_bind (Step.Leads.modify_bind ?_))
    refine Step.Leads.modify_bind (Step.leads_pure.2 (.inr ?_))
    exact Broker.enters_one (fun _ => Broker.phase?_insert rfl rfl) (Broker.transitions_note rfl)
      (fun _ => by simp) fun _ => by simp
  · rw [if_pos hgt]
    refine Step.Leads.modify_bind (Step.Leads.modify_bind (Step.leads_pure.2 (.inl ?_)))
    exact Broker.enters_none (fun _ => Broker.phase?_insert rfl rfl) rfl rfl (fun _ => rfl) nofun

/-- Nothing changes but what nobody keeps count of, or one component that was begun
goes on. -/
def Broker.Proceeds (b b' : Broker) : Prop :=
  b.SameCourses b' ∨ ∃ id old new, old ≠ .unregistered ∧ b.Advances id old new b'

theorem signalDone_proceeds (id : ComponentId) (core : CoreId) (parallel : Bool)
    (mode : MainMode) : (signalDone id core parallel mode).Leads b
      (fun _ b' => b.Proceeds b') (fun _ b' => b.Proceeds b') := by
  have hsame : b.Proceeds b := .inl ⟨fun _ => rfl, fun _ => rfl⟩
  refine knownBarrier_bind (fun barrier hb => ?_) fun _ => hsame
  have hknown : b.phase? id = some barrier.phase := by
    unfold Broker.phase?
    rw [hb]
    rfl
  cases hphase : barrier.phase with
  | unregistered => exact Step.leads_refuse.2 hsame
  | initializing =>
    rw [hphase] at hknown
    refine Step.Leads.modify_bind ((arriveAt_enters _ _ _).mono ?_ fun _ _ h => h.elim)
    have hnote : b.Enters id [.parallelInit] .initializing
        { b with trail := b.trail.record (.initTransition id .parallelInit) } := by
      refine Broker.enters_one (fun id' => ?_) (Broker.transitions_note rfl) (fun _ => by simp)
        fun _ => by simp
      split
      · next heq => exact heq ▸ hknown
      · rfl
    rintro p b' (h | h)
    · exact .inr ⟨id, .initializing, .parallelInit, nofun, hknown, _, rfl, hnote.trans h⟩
    · exact .inr ⟨id, .initializing, .main, nofun, hknown, _, rfl, hnote.trans h⟩
  | parallelInit =>
    rw [hphase] at hknown
    refine (arriveAt_enters _ _ _).mono ?_ fun _ _ h => h.elim
    rintro p b' (h | h)
    · rw [hphase] at h
      exact .inr ⟨id, .parallelInit, .parallelInit, nofun, hknown, _, rfl, h⟩
    · exact .inr ⟨id, .parallelInit, .main, nofun, hknown, _, rfl, h⟩
  | main =>
    refine Step.Leads.modify_bind (Step.leads_pure.2 (.inl ⟨fun _ => rfl, fun id' => ?_⟩))
    exact Broker.course_idle rfl rfl rfl nofun

/-- An exit is written down, and the barriers stay as they are. -/
theorem signalExit_leads (id : ComponentId) (retval : Int32) :
    (signalExit id retval).Leads b
      (fun _ b' => b'.barriers = b.barriers ∧ b.SameCourses b')
      (fun _ b' => b'.barriers = b.barriers ∧ b.SameCourses b') := by
  refine knownBarrier_bind (fun _ _ => ?_) fun _ => ⟨rfl, fun _ => rfl, fun _ => rfl⟩
  refine Step.Leads.modify_bind (Step.Leads.modify_bind (Step.leads_modify.2 ?_))
  refine ⟨rfl, fun _ => rfl, fun id' => Broker.course_idle ?_ rfl rfl nofun⟩
  exact (sameStart_notes.events b (.componentExited id retval) rfl).transitions

end Signals

end CapabilityBroker
