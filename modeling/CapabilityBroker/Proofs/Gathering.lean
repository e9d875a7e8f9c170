/-
CapabilityBroker/Proofs/Gathering.lean

The barriers keep count.

After any calls of the initialization protocol, made one after another, what
the next call comes to depends on nothing but what its component heard so
far: whether it waits, opens the barrier for those who wait, or comes too
late, and which outcome is heard.  The flags of the first done signal decide;
those of later ones are ignored, and other components do not matter.  The
scheduler's count of parked threads is the number of those who have come to
barriers that are not open.
-/
import Mathlib.Algebra.BigOperators.Group.Finset.Basic
import CapabilityBroker.Proofs.Barrier.Accounting

namespace CapabilityBroker

/-- The threads that have come to the barrier of a component while its threads
gather. -/
def Broker.gathered (b : Broker) (id : ComponentId) : Nat :=
  match b.barriers[id]? with
  | some barrier => if barrier.phase = .parallelInit then barrier.arrived else 0
  | none => 0

namespace Service

variable {image : Image} {cores : Nat} {ids : List ComponentId} {id : ComponentId}
variable {past : ComponentId → Option (List Done)} {h : Hall}

/-! ### Several calls -/

theorem Turns.calls_eq {signal : Signal} {turn : Turn} (ht : Turns cores ids past h signal turn) :
    turn.hall.calls = h.calls + 1 := by
  cases ht <;> rfl

theorem take_turns (image : Image) (ha : h.Accounts cores ids past) (signal : Signal) :
    Turns cores ids past h signal (h.take image signal) := by
  cases signal with
  | begin id core => exact take_begin_turns image ha id core
  | done id core parallel mode => exact take_done_turns image ha id core parallel mode

theorem Hall.Accounts.run (ha : h.Accounts cores ids past) (image : Image)
    (signals : List Signal) :
    (h.run image signals).Accounts cores ids (fun id => heardFrom id h.calls (past id) signals) ∧
      (h.run image signals).calls = h.calls + signals.length := by
  induction signals generalizing h past with
  | nil => exact ⟨ha, rfl⟩
  | cons signal rest ih =>
    have ht := take_turns image ha signal
    obtain ⟨haccounts, hcalls⟩ := ih (ht.accounts ha)
    rw [ht.calls_eq] at haccounts hcalls
    refine ⟨haccounts, hcalls.trans ?_⟩
    rw [List.length_cons, Nat.add_assoc, Nat.add_comm 1]

/-! ### The scheduler's count -/

theorem Hall.Accounts.count_parked (ha : h.Accounts cores ids past) (listed : id ∈ ids) :
    h.broker.scheduler.parked.count id = h.broker.gathered id := by
  obtain ⟨barrier, hb, hstands⟩ := ha.barrier id listed
  have hcount : h.broker.scheduler.parked.count id = (waiting cores (past id)).length := by
    rw [ha.parked, List.count_eq_countP, List.countP_map, List.countP_eq_length_filter]
    refine Eq.trans (congrArg List.length ?_) ((congrArg List.length (ha.callers id)).trans ?_)
    · exact List.filter_congr fun c _ => beq_eq_decide ..
    · rw [if_pos listed]
      exact List.length_map ..
  rw [hcount]
  unfold Broker.gathered waiting
  rw [hb]
  dsimp only
  rw [hstands.phase]
  split
  · next hphase =>
    have harrived := hstands.arrived
    obtain ⟨dones, hpast, _, hlt⟩ := gathering_of_phaseOf hphase
    rw [hpast] at harrived ⊢
    exact (harrived.trans (Nat.min_eq_left (Nat.le_of_lt hlt))).symm
  · rfl

theorem Hall.Accounts.waiting_eq (ha : h.Accounts cores ids past) :
    h.broker.scheduler.waiting = ∑ id ∈ ids.toFinset, h.broker.gathered id := by
  have hlisted : h.broker.scheduler.parked.toFinset ⊆ ids.toFinset := by
    intro id hid
    rw [List.mem_toFinset, ha.parked] at hid
    obtain ⟨c, hc, rfl⟩ := List.mem_map.1 hid
    rw [List.mem_toFinset]
    by_contra hnot
    have hcallers := ha.callers c.component
    rw [if_neg hnot] at hcallers
    exact List.filter_eq_nil_iff.1 hcallers c hc (decide_eq_true rfl)
  calc h.broker.scheduler.waiting
      = ∑ id ∈ h.broker.scheduler.parked.toFinset, h.broker.scheduler.parked.count id :=
        (List.sum_toFinset_count_eq_length _).symm
    _ = ∑ id ∈ ids.toFinset, h.broker.scheduler.parked.count id :=
        Finset.sum_subset hlisted fun id _ hid =>
          List.count_eq_zero.2 fun hmem => hid (List.mem_toFinset.2 hmem)
    _ = ∑ id ∈ ids.toFinset, h.broker.gathered id :=
        Finset.sum_congr rfl fun id hid => ha.count_parked (List.mem_toFinset.1 hid)

/-! ### What a call comes to -/

/-- What a done signal comes to after what its component heard: nothing if no
initialization was begun; then its caller waits, or it opens the barrier for
those who wait, or it leaves. -/
def Counted (cores : Nat) (ids : List ComponentId) (past : List Signal) (hall : Hall)
    (id : ComponentId) (core : CoreId) (parallel : Bool) (mode : MainMode) (turn : Turn) : Prop :=
  match if id ∈ ids then heard id past else none with
  | none =>
    turn = ⟨.stopped (.refused (.initNotStarted id)), [], { hall with calls := hall.calls + 1 }⟩
  | some before =>
    let all := before ++ [⟨past.length, parallel, mode⟩]
    let outcome := Outcome.main (modeOf all)
    let trail := hall.broker.scheduler.trail
    let trail' := turn.hall.broker.scheduler.trail
    if all.length < quota cores all then
      turn.returned = .parked ∧ turn.resumed = [] ∧
        turn.hall.callers = hall.callers ++ [⟨past.length, id, .signal outcome⟩] ∧
        trail' = trail.record (.blocked id core)
    else if all.length = quota cores all then
      turn.returned = .finished outcome ∧
        turn.resumed = before.map (fun d => (d.ticket, .outcome outcome)) ∧
        turn.hall.callers = hall.callers.filter (·.component ≠ id) ∧
        turn.hall.broker.barriers[id]?.map Barrier.phase = some .main ∧
        trail' = trail.record (.released id)
    else
      turn.returned = .finished .exited ∧ turn.resumed = [] ∧ turn.hall.callers = hall.callers ∧
        trail' = trail.record (.threadExited id core)

/-- What a call to begin comes to: only the first is the one that begins, and
nobody goes on because of it. -/
def Begun (ids : List ComponentId) (past : List Signal) (hall : Hall) (id : ComponentId)
    (core : CoreId) (turn : Turn) : Prop :=
  turn.resumed = [] ∧ turn.hall.callers = hall.callers ∧
    if id ∉ ids then
      turn.returned = .stopped (.refused (.initNotStarted id)) ∧
        turn.hall.broker = hall.broker
    else if heard id past = none then
      turn.returned = .begun true ∧
        turn.hall.broker.barriers[id]?.map Barrier.phase = some .initializing ∧
        turn.hall.broker.scheduler.trail =
          hall.broker.scheduler.trail.record (.initScheduled id core)
    else turn.returned = .begun false ∧ turn.hall.broker = hall.broker

variable {signals : List Signal} {core : CoreId} {parallel : Bool} {mode : MainMode} {turn : Turn}

theorem Turns.to_counted
    (ht : Turns cores ids (fun id => heard id signals) h (.done id core parallel mode) turn)
    (hcalls : h.calls = signals.length) :
    Counted cores ids signals h id core parallel mode turn := by
  unfold Counted
  cases ht with
  | unbegun nothing =>
    have hnone : (if id ∈ ids then heard id signals else none) = none := by
      by_cases listed : id ∈ ids
      · rw [if_pos listed, nothing listed]
      · rw [if_neg listed]
    rw [hnone]
  | @waits _ _ _ _ b' barrier dones all listed before after early stands barriers scheduler =>
    rw [if_pos listed, before]
    rw [hcalls] at after
    dsimp only
    rw [← after, if_pos early]
    exact ⟨rfl, rfl, by rw [hcalls], by rw [scheduler, Scheduler.trail_park]⟩
  | @opens _ _ _ _ b' barrier dones all listed before after last stands barriers scheduler =>
    rw [if_pos listed, before]
    rw [hcalls] at after
    dsimp only
    rw [← after, if_neg (Nat.not_lt.2 (Nat.le_of_eq last.symm)), if_pos last]
    refine ⟨rfl, rfl, rfl, ?_, by rw [scheduler]; rfl⟩
    rw [barriers, getElem?_insert, if_pos rfl]
    refine congrArg some (stands.phase.trans ?_)
    rw [after] at last ⊢
    exact phaseOf_append_eq_main (Nat.le_of_eq last.symm)
  | @late _ _ _ _ b' dones all listed before after late barriers scheduler =>
    rw [if_pos listed, before]
    rw [hcalls] at after
    dsimp only
    rw [← after, if_neg (Nat.lt_asymm late), if_neg (Nat.ne_of_gt late)]
    exact ⟨rfl, rfl, rfl, by rw [scheduler]; rfl⟩

theorem Turns.to_begun
    (ht : Turns cores ids (fun id => heard id signals) h (.begin id core) turn) :
    Begun ids signals h id core turn := by
  unfold Begun
  cases ht with
  | unknown unlisted =>
    rw [if_pos unlisted]
    exact ⟨rfl, rfl, rfl, rfl⟩
  | begins listed first stands barriers scheduler =>
    rw [if_neg (not_not.2 listed), if_pos first]
    refine ⟨rfl, rfl, rfl, ?_, ?_⟩
    · rw [barriers, getElem?_insert, if_pos rfl]
      exact congrArg some stands.phase
    · rw [scheduler]
      rfl
  | begun listed again =>
    rw [if_neg (not_not.2 listed), if_neg again]
    exact ⟨rfl, rfl, rfl, rfl⟩

/-- The outcome of every call follows from what its component heard, and the
scheduler counts those who wait. -/
theorem barriers_keep_count (image : Image) (b : Broker) (ids : List ComponentId) (cores : Nat)
    (past : List Signal) :
    let hall := (Hall.opened b ids cores).run image past
    hall.broker.scheduler.waiting = ∑ id ∈ ids.toFinset, hall.broker.gathered id ∧
      (∀ id core parallel mode, Counted cores ids past hall id core parallel mode
        (hall.take image (.done id core parallel mode))) ∧
      ∀ id core, Begun ids past hall id core (hall.take image (.begin id core)) := by
  intro hall
  obtain ⟨ha, hcalls⟩ := (accounts_opened b ids cores).run image past
  have hcalls : hall.calls = past.length := hcalls.trans (Nat.zero_add _)
  have ha : hall.Accounts cores ids fun id => heard id past := ha
  refine ⟨ha.waiting_eq, fun id core parallel mode => ?_, fun id core => ?_⟩
  · exact (take_done_turns image ha id core parallel mode).to_counted hcalls
  · exact (take_begin_turns image ha id core).to_begun

end Service

end CapabilityBroker
