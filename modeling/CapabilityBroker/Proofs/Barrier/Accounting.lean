/-
CapabilityBroker/Proofs/Barrier/Accounting.lean

Who waits at a barrier, and who goes on when.

All that a barrier does follows from what its component heard: nothing before
its initialization was begun, and the done signals in order after that.  The
first of them fixes how many threads the barrier waits for and what all of
them hear; those that come before the number is complete wait, the one that
completes it lets them go on, and later ones leave.

`Hall.Accounts` ties barriers, scheduler and waiting callers to what was
heard.  `Turns` lists what a call can come to in such a hall; the account goes
on after each of them (`Turns.accounts`), and `take_begin_turns` and
`take_done_turns` say that there is nothing else.
-/
import Mathlib.Tactic.ByContra
import CapabilityBroker.Proofs.Barrier.Hall

namespace CapabilityBroker

/-! ### Releases -/

namespace Scheduler

variable {s : Scheduler} {id id' : ComponentId} {core : CoreId}

theorem isReleased_release :
    (s.release id).isReleased id' = true ↔ id' = id ∨ s.isReleased id' = true := by
  show (s.released.insert id).contains id' = true ↔ _
  rw [Std.ExtTreeSet.contains_insert, Bool.or_eq_true, beq_iff_eq,
    Std.LawfulEqCmp.compare_eq_iff_eq, eq_comm (a := id)]
  rfl

theorem isReleased_park : (s.park id core).isReleased id' = s.isReleased id' := by
  unfold park
  dsimp only
  split
  · rfl
  · rfl

theorem trail_park : (s.park id core).trail = s.trail.record (.blocked id core) := by
  unfold park
  dsimp only
  split
  · rfl
  · rfl

theorem park_of_shut (h : s.isReleased id = false) :
    s.park id core = { s.record (.blocked id core) with parked := s.parked ++ [id] } := by
  have hshut : ¬ (s.record (.blocked id core)).isReleased id = true := by
    show ¬ s.isReleased id = true
    rw [h]
    exact Bool.false_ne_true
  exact if_neg hshut

end Scheduler

theorem getElem?_insert (barriers : Barriers) (id id' : ComponentId) (barrier : Barrier) :
    (barriers.insert id barrier)[id']? = if id' = id then some barrier else barriers[id']? := by
  simp only [Std.ExtTreeMap.getElem?_insert, Std.LawfulEqCmp.compare_eq_iff_eq,
    eq_comm (a := id)]

theorem getElem?_over (ids : List ComponentId) (cores : Nat) (id : ComponentId) :
    (Barriers.over ids cores)[id]? = if id ∈ ids then some (.fresh cores) else none := by
  have hfold : ∀ barriers : Barriers,
      (ids.foldl (fun barriers id => barriers.insert id (.fresh cores)) barriers)[id]? =
        if id ∈ ids then some (.fresh cores) else barriers[id]? := by
    induction ids with
    | nil => exact fun _ => rfl
    | cons head rest ih =>
      intro barriers
      rw [List.foldl_cons, ih, getElem?_insert]
      by_cases hrest : id ∈ rest
      · rw [if_pos hrest, if_pos (List.mem_cons_of_mem head hrest)]
      · rw [if_neg hrest]
        by_cases hhead : id = head
        · rw [if_pos hhead, if_pos (hhead ▸ List.mem_cons_self)]
        · rw [if_neg hhead, if_neg (by simp [hrest, hhead])]
  exact hfold ∅

namespace Service

variable {image : Image} {cores : Nat} {ids : List ComponentId} {id : ComponentId}

/-! ### What a component hears -/

/-- A done signal, with the ticket of the call. -/
structure Done where
  ticket : Nat
  parallel : Bool
  mode : MainMode

/-- What a component has heard after one more call: nothing until its
initialization is begun, and then the done signals in order. -/
def hear (id : ComponentId) (calls : Nat) (past : Option (List Done)) :
    Signal → Option (List Done)
  | .begin id' _ => if id' = id then some (past.getD []) else past
  | .done id' _ parallel mode =>
    if id' = id then past.map (· ++ [⟨calls, parallel, mode⟩]) else past

/-- What a component has heard after several calls. -/
def heardFrom (id : ComponentId) : (calls : Nat) → Option (List Done) → List Signal →
    Option (List Done)
  | _, past, [] => past
  | calls, past, signal :: rest => heardFrom id (calls + 1) (hear id calls past signal) rest

/-- What a component has heard in all. -/
def heard (id : ComponentId) (signals : List Signal) : Option (List Done) :=
  heardFrom id 0 none signals

/-- The number of threads that a barrier waits for. -/
def quota (cores : Nat) : List Done → Nat
  | [] => max cores 1
  | first :: _ => if first.parallel then max cores 1 else 1

/-- The mode that all who gather hear of. -/
def modeOf : List Done → MainMode
  | [] => .none
  | first :: _ => first.mode

/-- The phase of a barrier. -/
def phaseOf (cores : Nat) : Option (List Done) → Phase
  | none => .unregistered
  | some [] => .initializing
  | some dones => if dones.length < quota cores dones then .parallelInit else .main

/-- The done signals whose callers wait. -/
def waiting (cores : Nat) (past : Option (List Done)) : List Done :=
  if phaseOf cores past = .parallelInit then past.getD [] else []

/-- The callers that wait for a component. -/
def waitingCallers (cores : Nat) (id : ComponentId) (past : Option (List Done)) : List Caller :=
  (waiting cores past).map fun d => ⟨d.ticket, id, .signal (.main (modeOf (past.getD [])))⟩

theorem quota_pos (cores : Nat) (dones : List Done) : 1 ≤ quota cores dones := by
  cases dones with
  | nil => exact Nat.le_max_right cores 1
  | cons first rest =>
    show 1 ≤ if first.parallel then max cores 1 else 1
    split
    · exact Nat.le_max_right cores 1
    · exact Nat.le_refl 1

theorem quota_append {dones : List Done} (h : dones ≠ []) (more : List Done) :
    quota cores (dones ++ more) = quota cores dones := by
  cases dones with
  | nil => exact absurd rfl h
  | cons first rest => rfl

theorem modeOf_append {dones : List Done} (h : dones ≠ []) (more : List Done) :
    modeOf (dones ++ more) = modeOf dones := by
  cases dones with
  | nil => exact absurd rfl h
  | cons first rest => rfl

theorem phaseOf_of_ne_nil {dones : List Done} (h : dones ≠ []) : phaseOf cores (some dones) =
    if dones.length < quota cores dones then .parallelInit else .main := by
  cases dones with
  | nil => exact absurd rfl h
  | cons first rest => rfl

/-- How a phase comes about. -/
theorem phaseOf_cases (cores : Nat) (past : Option (List Done)) :
    past = none ∧ phaseOf cores past = .unregistered ∨
      past = some [] ∧ phaseOf cores past = .initializing ∨
        ∃ dones, past = some dones ∧ dones ≠ [] ∧
          (dones.length < quota cores dones ∧ phaseOf cores past = .parallelInit ∨
            quota cores dones ≤ dones.length ∧ phaseOf cores past = .main) := by
  rcases past with _ | _ | ⟨first, rest⟩
  · exact .inl ⟨rfl, rfl⟩
  · exact .inr (.inl ⟨rfl, rfl⟩)
  · have hne := List.cons_ne_nil first rest
    refine .inr (.inr ⟨first :: rest, rfl, hne, ?_⟩)
    rw [phaseOf_of_ne_nil hne]
    rcases Nat.lt_or_ge (first :: rest).length (quota cores (first :: rest)) with hlt | hge
    · exact .inl ⟨hlt, if_pos hlt⟩
    · exact .inr ⟨hge, if_neg (Nat.not_lt.2 hge)⟩

theorem eq_none_of_phaseOf {past : Option (List Done)}
    (h : phaseOf cores past = .unregistered) : past = none := by
  rcases phaseOf_cases cores past with
    ⟨hpast, _⟩ | ⟨_, hphase⟩ | ⟨_, _, _, ⟨_, hphase⟩ | ⟨_, hphase⟩⟩
  · exact hpast
  all_goals cases h.symm.trans hphase

theorem eq_some_nil_of_phaseOf {past : Option (List Done)}
    (h : phaseOf cores past = .initializing) : past = some [] := by
  rcases phaseOf_cases cores past with
    ⟨_, hphase⟩ | ⟨hpast, _⟩ | ⟨_, _, _, ⟨_, hphase⟩ | ⟨_, hphase⟩⟩
  · cases h.symm.trans hphase
  · exact hpast
  all_goals cases h.symm.trans hphase

theorem gathering_of_phaseOf {past : Option (List Done)}
    (h : phaseOf cores past = .parallelInit) :
    ∃ dones, past = some dones ∧ dones ≠ [] ∧ dones.length < quota cores dones := by
  rcases phaseOf_cases cores past with
    ⟨_, hphase⟩ | ⟨_, hphase⟩ | ⟨dones, hpast, hne, ⟨hlt, _⟩ | ⟨_, hphase⟩⟩
  · cases h.symm.trans hphase
  · cases h.symm.trans hphase
  · exact ⟨dones, hpast, hne, hlt⟩
  · cases h.symm.trans hphase

theorem complete_of_phaseOf {past : Option (List Done)} (h : phaseOf cores past = .main) :
    ∃ dones, past = some dones ∧ dones ≠ [] ∧ quota cores dones ≤ dones.length := by
  rcases phaseOf_cases cores past with
    ⟨_, hphase⟩ | ⟨_, hphase⟩ | ⟨dones, hpast, hne, ⟨_, hphase⟩ | ⟨hge, _⟩⟩
  · cases h.symm.trans hphase
  · cases h.symm.trans hphase
  · cases h.symm.trans hphase
  · exact ⟨dones, hpast, hne, hge⟩

/-- A barrier is as what was heard makes it. -/
structure Stands (cores : Nat) (past : Option (List Done)) (barrier : Barrier) : Prop where
  phase : barrier.phase = phaseOf cores past
  expected : barrier.expected = quota cores (past.getD [])
  arrived : barrier.arrived = min (past.getD []).length (quota cores (past.getD []))
  mode : barrier.mode = modeOf (past.getD [])

theorem stands_fresh : Stands cores none (.fresh cores) := ⟨rfl, rfl, (Nat.zero_min _).symm, rfl⟩

/-! ### Halls whose accounts are right -/

/-- Barriers, scheduler and callers are as what the components heard makes
them. -/
structure Hall.Accounts (cores : Nat) (ids : List ComponentId)
    (past : ComponentId → Option (List Done)) (h : Hall) : Prop where
  barrier : ∀ id ∈ ids, ∃ barrier, h.broker.barriers[id]? = some barrier ∧
    Stands cores (past id) barrier
  unlisted : ∀ id, id ∉ ids → h.broker.barriers[id]? = none
  released : ∀ id, h.broker.scheduler.isReleased id = true ↔
    id ∈ ids ∧ phaseOf cores (past id) = .main
  parked : h.broker.scheduler.parked = h.callers.map Caller.component
  callers : ∀ id, h.callers.filter (·.component = id) =
    if id ∈ ids then waitingCallers cores id (past id) else []
  tickets : h.callers.Pairwise fun c d => c.ticket < d.ticket
  below : ∀ c ∈ h.callers, c.ticket < h.calls

theorem accounts_opened (b : Broker) (ids : List ComponentId) (cores : Nat) :
    (Hall.opened b ids cores).Accounts cores ids fun _ => none where
  barrier id hid := by
    refine ⟨.fresh cores, ?_, stands_fresh⟩
    show (Barriers.over ids cores)[id]? = _
    rw [getElem?_over, if_pos hid]
  unlisted id hid := by
    show (Barriers.over ids cores)[id]? = _
    rw [getElem?_over, if_neg hid]
  released id := by
    constructor
    · intro h
      cases (show (∅ : Std.ExtTreeSet ComponentId).contains id = true from h).symm.trans
        Std.ExtTreeSet.contains_empty
    · rintro ⟨_, h⟩
      cases h
  parked := rfl
  callers id := (ite_self _).symm
  tickets := List.Pairwise.nil
  below c hc := absurd hc List.not_mem_nil

namespace Hall.Accounts

variable {past : ComponentId → Option (List Done)} {h : Hall}

/-- A barrier that is there is one of those that were opened. -/
theorem stands (ha : h.Accounts cores ids past) {barrier : Barrier}
    (hb : h.broker.barriers[id]? = some barrier) :
    id ∈ ids ∧ Stands cores (past id) barrier := by
  have listed : id ∈ ids := by
    by_contra hid
    cases hb.symm.trans (ha.unlisted id hid)
  obtain ⟨barrier', hb', hstands⟩ := ha.barrier id listed
  cases hb.symm.trans hb'
  exact ⟨listed, hstands⟩

/-- A component is not released while its barrier is not open. -/
theorem shut (ha : h.Accounts cores ids past) (hphase : phaseOf cores (past id) ≠ .main) :
    h.broker.scheduler.isReleased id = false :=
  Bool.eq_false_iff.2 fun hreleased => hphase ((ha.released id).1 hreleased).2

/-- A caller waits for a component whose threads gather. -/
theorem caller (ha : h.Accounts cores ids past) {c : Caller} (hc : c ∈ h.callers) :
    phaseOf cores (past c.component) = .parallelInit ∧ c.pending = .signal c.outcome := by
  have hmem : c ∈ h.callers.filter (·.component = c.component) :=
    List.mem_filter.2 ⟨hc, decide_eq_true rfl⟩
  rw [ha.callers] at hmem
  split at hmem
  · unfold waitingCallers waiting at hmem
    split at hmem
    · next hphase =>
      obtain ⟨d, _, hd⟩ := List.mem_map.1 hmem
      refine ⟨hphase, ?_⟩
      rw [← hd]
      rfl
    · cases hmem
  · cases hmem

theorem not_goes (ha : h.Accounts cores ids past) {c : Caller} (hc : c ∈ h.callers) :
    ¬ c.goes h.broker.scheduler = true := by
  intro hgoes
  have hmain := ((ha.released c.component).1 hgoes).2
  rw [(ha.caller hc).1] at hmain
  cases hmain

theorem signalled (ha : h.Accounts cores ids past) : Signalled h.callers :=
  ⟨fun _ hc => (ha.caller hc).2, ha.tickets⟩

/-- A caller with the next ticket comes last. -/
theorem signalled_append (ha : h.Accounts cores ids past) (id : ComponentId) (outcome : Outcome) :
    Signalled (h.callers ++ [⟨h.calls, id, .signal outcome⟩]) where
  pending c hc := by
    rcases List.mem_append.1 hc with hold | hnew
    · exact (ha.caller hold).2
    · rw [List.mem_singleton.1 hnew]
      rfl
  tickets := by
    refine List.pairwise_append.2 ⟨ha.tickets, List.pairwise_singleton _ _, fun c hc d hd => ?_⟩
    rw [List.mem_singleton.1 hd]
    exact ha.below c hc

end Hall.Accounts

/-! ### What a call comes to -/

/-- What a call can come to where the accounts are right. -/
inductive Turns (cores : Nat) (ids : List ComponentId) (past : ComponentId → Option (List Done))
    (h : Hall) : Signal → Turn → Prop
  | unknown {id : ComponentId} {core : CoreId} (unlisted : id ∉ ids) :
      Turns cores ids past h (.begin id core)
        ⟨.stopped (.refused (.initNotStarted id)), [], { h with calls := h.calls + 1 }⟩
  | begins {id : ComponentId} {core : CoreId} {b' : Broker} {barrier : Barrier}
      (listed : id ∈ ids) (first : past id = none) (stands : Stands cores (some []) barrier)
      (barriers : b'.barriers = h.broker.barriers.insert id barrier)
      (scheduler : b'.scheduler = h.broker.scheduler.scheduleInit id core) :
      Turns cores ids past h (.begin id core) ⟨.begun true, [], ⟨b', h.callers, h.calls + 1⟩⟩
  | begun {id : ComponentId} {core : CoreId} (listed : id ∈ ids) (again : past id ≠ none) :
      Turns cores ids past h (.begin id core) ⟨.begun false, [], { h with calls := h.calls + 1 }⟩
  | unbegun {id : ComponentId} {core : CoreId} {parallel : Bool} {mode : MainMode}
      (nothing : id ∈ ids → past id = none) :
      Turns cores ids past h (.done id core parallel mode)
        ⟨.stopped (.refused (.initNotStarted id)), [], { h with calls := h.calls + 1 }⟩
  | waits {id : ComponentId} {core : CoreId} {parallel : Bool} {mode : MainMode} {b' : Broker}
      {barrier : Barrier} {dones all : List Done} (listed : id ∈ ids)
      (before : past id = some dones) (after : all = dones ++ [⟨h.calls, parallel, mode⟩])
      (early : all.length < quota cores all) (stands : Stands cores (some all) barrier)
      (barriers : b'.barriers = h.broker.barriers.insert id barrier)
      (scheduler : b'.scheduler = h.broker.scheduler.park id core) :
      Turns cores ids past h (.done id core parallel mode)
        ⟨.parked, [], ⟨b', h.callers ++ [⟨h.calls, id, .signal (.main (modeOf all))⟩],
          h.calls + 1⟩⟩
  | opens {id : ComponentId} {core : CoreId} {parallel : Bool} {mode : MainMode} {b' : Broker}
      {barrier : Barrier} {dones all : List Done} (listed : id ∈ ids)
      (before : past id = some dones) (after : all = dones ++ [⟨h.calls, parallel, mode⟩])
      (last : all.length = quota cores all) (stands : Stands cores (some all) barrier)
      (barriers : b'.barriers = h.broker.barriers.insert id barrier)
      (scheduler : b'.scheduler = h.broker.scheduler.release id) :
      Turns cores ids past h (.done id core parallel mode)
        ⟨.finished (.main (modeOf all)),
          dones.map fun d => (d.ticket, .outcome (.main (modeOf all))),
          ⟨b', h.callers.filter (·.component ≠ id), h.calls + 1⟩⟩
  | late {id : ComponentId} {core : CoreId} {parallel : Bool} {mode : MainMode} {b' : Broker}
      {dones all : List Done} (listed : id ∈ ids)
      (before : past id = some dones) (after : all = dones ++ [⟨h.calls, parallel, mode⟩])
      (late : quota cores all < all.length)
      (barriers : b'.barriers = h.broker.barriers)
      (scheduler : b'.scheduler = h.broker.scheduler.exitThread id core) :
      Turns cores ids past h (.done id core parallel mode)
        ⟨.finished .exited, [], ⟨b', h.callers, h.calls + 1⟩⟩

/-- Until the number is complete, the callers of all done signals wait. -/
theorem waitingCallers_of_lt {dones more : List Done}
    (hlt : dones.length < quota cores (dones ++ more)) :
    waitingCallers cores id (some dones) =
      dones.map fun d => ⟨d.ticket, id, .signal (.main (modeOf (dones ++ more)))⟩ := by
  cases dones with
  | nil => rfl
  | cons first rest =>
    rw [quota_append (List.cons_ne_nil first rest)] at hlt
    unfold waitingCallers waiting
    rw [phaseOf_of_ne_nil (List.cons_ne_nil first rest), if_pos hlt, if_pos rfl]
    rfl

theorem waitingCallers_of_ne {past : Option (List Done)} (h : phaseOf cores past ≠ .parallelInit) :
    waitingCallers cores id past = [] := by
  unfold waitingCallers waiting
  rw [if_neg h]
  rfl

namespace Hall.Accounts

variable {past past' : ComponentId → Option (List Done)} {h : Hall}

/-- What is heard by components without a barrier does not count. -/
theorem congr (ha : h.Accounts cores ids past) (hpast : ∀ id ∈ ids, past' id = past id) :
    ({ h with calls := h.calls + 1 } : Hall).Accounts cores ids past' where
  barrier id hid := by
    rw [hpast id hid]
    exact ha.barrier id hid
  unlisted := ha.unlisted
  released id := (ha.released id).trans (and_congr_right fun hid => by rw [hpast id hid])
  parked := ha.parked
  callers id := by
    refine (ha.callers id).trans ?_
    by_cases hid : id ∈ ids
    · rw [if_pos hid, if_pos hid, hpast id hid]
    · rw [if_neg hid, if_neg hid]
  tickets := ha.tickets
  below c hc := Nat.lt_succ_of_lt (ha.below c hc)

/-- A new barrier of one component, and what it heard, leave the others as they
are. -/
theorem insert (ha : h.Accounts cores ids past) {b' : Broker} {callers : List Caller}
    {barrier : Barrier} (listed : id ∈ ids) (hother : ∀ id', id' ≠ id → past' id' = past id')
    (stands : Stands cores (past' id) barrier)
    (barriers : b'.barriers = h.broker.barriers.insert id barrier)
    (released : ∀ id', b'.scheduler.isReleased id' = true ↔
      id' = id ∧ phaseOf cores (past' id) = .main ∨ h.broker.scheduler.isReleased id' = true)
    (before : phaseOf cores (past id) ≠ .main)
    (parked : b'.scheduler.parked = callers.map Caller.component)
    (own : callers.filter (·.component = id) = waitingCallers cores id (past' id))
    (others : ∀ id', id' ≠ id →
      callers.filter (·.component = id') = h.callers.filter (·.component = id'))
    (tickets : callers.Pairwise fun c d => c.ticket < d.ticket)
    (below : ∀ c ∈ callers, c.ticket < h.calls + 1) :
    (⟨b', callers, h.calls + 1⟩ : Hall).Accounts cores ids past' where
  barrier id' hid' := by
    show ∃ barrier, b'.barriers[id']? = some barrier ∧ _
    rw [barriers, getElem?_insert]
    by_cases heq : id' = id
    · subst heq
      exact ⟨barrier, if_pos rfl, stands⟩
    · rw [if_neg heq, hother id' heq]
      exact ha.barrier id' hid'
  unlisted id' hid' := by
    show b'.barriers[id']? = none
    rw [barriers, getElem?_insert, if_neg (by rintro rfl; exact hid' listed)]
    exact ha.unlisted id' hid'
  released id' := by
    refine (released id').trans ?_
    rw [ha.released id']
    by_cases heq : id' = id
    · subst heq
      simp [listed, before]
    · simp [heq, hother id' heq]
  parked := parked
  callers id' := by
    by_cases heq : id' = id
    · subst heq
      rw [if_pos listed]
      exact own
    · refine (others id' heq).trans ?_
      rw [ha.callers id', hother id' heq]
  tickets := tickets
  below := below

end Hall.Accounts

section Turns

variable {past : ComponentId → Option (List Done)} {h : Hall} {signal : Signal} {turn : Turn}

theorem hear_begin {core : CoreId} {calls : Nat} {before : Option (List Done)} :
    hear id calls before (.begin id core) = some (before.getD []) := if_pos rfl

theorem hear_begin_other {core : CoreId} {calls : Nat} {id' : ComponentId} (h : id' ≠ id)
    {before : Option (List Done)} :
    hear id' calls before (.begin id core) = before := if_neg (Ne.symm h)

theorem hear_done {core : CoreId} {parallel : Bool} {mode : MainMode} {calls : Nat}
    {before : Option (List Done)} : hear id calls before (.done id core parallel mode) =
      before.map (· ++ [⟨calls, parallel, mode⟩]) := if_pos rfl

theorem hear_done_other {core : CoreId} {parallel : Bool} {mode : MainMode} {calls : Nat}
    {id' : ComponentId} (h : id' ≠ id) {before : Option (List Done)} :
    hear id' calls before (.done id core parallel mode) = before := if_neg (Ne.symm h)

/-- Before the number is complete, a barrier is not open. -/
theorem phaseOf_ne_main {dones : List Done} (more : List Done)
    (hlt : dones.length < quota cores (dones ++ more)) : phaseOf cores (some dones) ≠ .main := by
  cases dones with
  | nil => exact nofun
  | cons first rest =>
    rw [quota_append (List.cons_ne_nil first rest)] at hlt
    rw [phaseOf_of_ne_nil (List.cons_ne_nil first rest), if_pos hlt]
    exact nofun

/-- All who come to a barrier before it opens are waiting there. -/
theorem waitingCallers_of_early {dones : List Done} (hlt : dones.length < quota cores dones) :
    waitingCallers cores id (some dones) =
      dones.map fun d => ⟨d.ticket, id, .signal (.main (modeOf dones))⟩ := by
  have hmore : dones.length < quota cores (dones ++ []) := by rwa [List.append_nil]
  rw [waitingCallers_of_lt hmore, List.append_nil]

theorem phaseOf_append_eq_main {dones : List Done} {d : Done}
    (hle : quota cores (dones ++ [d]) ≤ (dones ++ [d]).length) :
    phaseOf cores (some (dones ++ [d])) = .main := by
  rw [phaseOf_of_ne_nil (List.append_ne_nil_of_right_ne_nil dones (List.cons_ne_nil d []))]
  exact if_neg (Nat.not_lt.2 hle)

/-- A barrier that is open stays as it is. -/
theorem Stands.append {dones : List Done} {d : Done} {barrier : Barrier}
    (h : Stands cores (some dones) barrier) (hlate : quota cores dones ≤ dones.length) :
    Stands cores (some (dones ++ [d])) barrier := by
  have hne : dones ≠ [] := by
    rintro rfl
    exact absurd (quota_pos cores []) (Nat.not_le.2 (Nat.lt_succ_of_le hlate))
  have hquota : quota cores (dones ++ [d]) = quota cores dones := quota_append hne [d]
  have hlength : (dones ++ [d]).length = dones.length + 1 := List.length_append
  refine ⟨?_, h.expected.trans hquota.symm, ?_, h.mode.trans (modeOf_append hne [d]).symm⟩
  · rw [phaseOf_append_eq_main (by omega), h.phase, phaseOf_of_ne_nil hne,
      if_neg (Nat.not_lt.2 hlate)]
  · have harrived : barrier.arrived = min dones.length (quota cores dones) := h.arrived
    show barrier.arrived = min (dones ++ [d]).length (quota cores (dones ++ [d]))
    omega

/-- One done signal more. -/
theorem hear_done_some {core : CoreId} {parallel : Bool} {mode : MainMode} {calls : Nat}
    {before : Option (List Done)} {dones : List Done} (hbefore : before = some dones) :
    hear id calls before (.done id core parallel mode) =
      some (dones ++ [⟨calls, parallel, mode⟩]) := by
  rw [hear_done, hbefore]
  rfl

end Turns

/-! ### The account goes on -/

namespace Hall.Accounts

variable {past : ComponentId → Option (List Done)} {h : Hall} {b' : Broker} {barrier : Barrier}
  {core : CoreId} {parallel : Bool} {mode : MainMode} {dones : List Done}

theorem next_ticket (ha : h.Accounts cores ids past) {c : Caller} (hc : c ∈ h.callers) :
    c.ticket < h.calls + 1 := Nat.lt_succ_of_lt (ha.below c hc)

theorem begins (ha : h.Accounts cores ids past) (listed : id ∈ ids) (first : past id = none)
    (stands : Stands cores (some []) barrier)
    (barriers : b'.barriers = h.broker.barriers.insert id barrier)
    (scheduler : b'.scheduler = h.broker.scheduler.scheduleInit id core) :
    (⟨b', h.callers, h.calls + 1⟩ : Hall).Accounts cores ids
      fun id' => hear id' h.calls (past id') (.begin id core) := by
  have hnow : hear id h.calls (past id) (.begin id core) = some [] := by
    rw [hear_begin, first]
    rfl
  have hother : ∀ id', id' ≠ id → hear id' h.calls (past id') (.begin id core) = past id' :=
    fun _ hid' => hear_begin_other hid'
  have hparked : b'.scheduler.parked = h.callers.map Caller.component := by
    rw [scheduler]
    exact ha.parked
  have hshut : phaseOf cores (past id) ≠ .main := by
    rw [first]
    exact nofun
  refine ha.insert listed hother (hnow ▸ stands) barriers ?released hshut hparked ?own
    (fun _ _ => rfl) ha.tickets fun _ => ha.next_ticket
  case released =>
    intro id'
    rw [scheduler, hnow]
    exact ⟨.inr, fun hor => hor.resolve_left fun hmain => nomatch hmain.2⟩
  case own =>
    rw [hnow, ha.callers id, if_pos listed, first]
    rfl

/-- One more waits, and the number is not complete. -/
theorem waits (ha : h.Accounts cores ids past) (listed : id ∈ ids) (before : past id = some dones)
    {all : List Done} (after : all = dones ++ [⟨h.calls, parallel, mode⟩])
    (early : all.length < quota cores all) (stands : Stands cores (some all) barrier)
    (barriers : b'.barriers = h.broker.barriers.insert id barrier)
    (scheduler : b'.scheduler = h.broker.scheduler.park id core) :
    (⟨b', h.callers ++ [⟨h.calls, id, .signal (.main (modeOf all))⟩], h.calls + 1⟩ :
      Hall).Accounts cores ids
      fun id' => hear id' h.calls (past id') (.done id core parallel mode) := by
  subst after
  have hnow : hear id h.calls (past id) (.done id core parallel mode) = _ := hear_done_some before
  have hlt : dones.length < quota cores (dones ++ [⟨h.calls, parallel, mode⟩]) :=
    Nat.lt_of_succ_lt (by rwa [List.length_append] at early)
  have hopen : phaseOf cores (past id) ≠ .main := by
    rw [before]
    exact phaseOf_ne_main _ hlt
  have hother : ∀ id', id' ≠ id →
      hear id' h.calls (past id') (.done id core parallel mode) = past id' :=
    fun _ hid' => hear_done_other hid'
  refine ha.insert listed hother (hnow ▸ stands) barriers ?released hopen ?parked ?own ?others
    (ha.signalled_append id _).tickets ?below
  case released =>
    intro id'
    rw [scheduler, Scheduler.isReleased_park, hnow]
    refine ⟨.inr, fun hor => hor.resolve_left fun hmain => ?_⟩
    exact phaseOf_ne_main [] (by rwa [List.append_nil]) hmain.2
  case parked =>
    rw [scheduler, Scheduler.park_of_shut (ha.shut hopen), List.map_append, ← ha.parked]
    rfl
  case own =>
    rw [hnow, List.filter_append, ha.callers id, if_pos listed, before, waitingCallers_of_lt hlt,
      waitingCallers_of_early early, List.filter_cons_of_pos (by simp), List.map_append]
    rfl
  case others =>
    intro id' hid'
    rw [List.filter_append, List.filter_cons_of_neg (by simpa using Ne.symm hid')]
    exact List.append_nil _
  case below =>
    intro c hc
    rcases List.mem_append.1 hc with hold | hnew
    · exact ha.next_ticket hold
    · rw [List.mem_singleton.1 hnew]
      exact Nat.lt_succ_self _

/-- The number is complete, and all who waited for the component go on. -/
theorem opens (ha : h.Accounts cores ids past) (listed : id ∈ ids) (before : past id = some dones)
    {all : List Done} (after : all = dones ++ [⟨h.calls, parallel, mode⟩])
    (last : all.length = quota cores all) (stands : Stands cores (some all) barrier)
    (barriers : b'.barriers = h.broker.barriers.insert id barrier)
    (scheduler : b'.scheduler = h.broker.scheduler.release id) :
    (⟨b', h.callers.filter (·.component ≠ id), h.calls + 1⟩ : Hall).Accounts cores ids
      fun id' => hear id' h.calls (past id') (.done id core parallel mode) := by
  subst after
  have hnow : hear id h.calls (past id) (.done id core parallel mode) = _ := hear_done_some before
  have hlt : dones.length < quota cores (dones ++ [⟨h.calls, parallel, mode⟩]) := by
    rw [← last, List.length_append]
    exact Nat.lt_succ_self _
  have hmain := phaseOf_append_eq_main (Nat.le_of_eq last.symm)
  have hother : ∀ id', id' ≠ id →
      hear id' h.calls (past id') (.done id core parallel mode) = past id' :=
    fun _ hid' => hear_done_other hid'
  have hshut : phaseOf cores (past id) ≠ .main := by
    rw [before]
    exact phaseOf_ne_main _ hlt
  refine ha.insert listed hother (hnow ▸ stands) barriers ?released hshut ?parked ?own ?others
    (ha.tickets.filter _) fun c hc => ha.next_ticket (List.mem_filter.1 hc).1
  case released =>
    intro id'
    rw [scheduler, Scheduler.isReleased_release, hnow, hmain]
    exact or_congr_left (and_iff_left rfl).symm
  case parked =>
    rw [scheduler]
    show h.broker.scheduler.parked.filter (· ≠ id) = _
    rw [ha.parked, List.filter_map]
    rfl
  case own =>
    rw [hnow, waitingCallers_of_ne (by rw [hmain]; exact nofun), List.filter_filter]
    refine List.filter_eq_nil_iff.2 fun c _ => ?_
    simp
  case others =>
    intro id' hid'
    rw [List.filter_filter]
    refine List.filter_congr fun c _ => ?_
    by_cases hc : c.component = id'
    · simp [hc, hid']
    · simp [hc]

/-- Neither the phase nor who waits changes for any component when a thread
comes to a barrier that is open. -/
theorem late (ha : h.Accounts cores ids past) (before : past id = some dones)
    {all : List Done} (after : all = dones ++ [⟨h.calls, parallel, mode⟩])
    (late : quota cores all < all.length) (barriers : b'.barriers = h.broker.barriers)
    (scheduler : b'.scheduler = h.broker.scheduler.exitThread id core) :
    (⟨b', h.callers, h.calls + 1⟩ : Hall).Accounts cores ids
      fun id' => hear id' h.calls (past id') (.done id core parallel mode) := by
  subst after
  have hnow : hear id h.calls (past id) (.done id core parallel mode) = _ := hear_done_some before
  have hne : dones ≠ [] := by
    rintro rfl
    exact absurd (quota_pos cores _) (Nat.not_le.2 late)
  have hlate : quota cores dones ≤ dones.length := by
    rw [quota_append hne, List.length_append] at late
    exact Nat.le_of_lt_succ late
  have hopen : phaseOf cores (past id) = .main := by
    rw [before, phaseOf_of_ne_nil hne, if_neg (Nat.not_lt.2 hlate)]
  have hmain : phaseOf cores (hear id h.calls (past id) (.done id core parallel mode)) = .main := by
    rw [hnow]
    exact phaseOf_append_eq_main (Nat.le_of_lt late)
  refine ⟨?barrier, ?unlisted, ?released, ?parked, ?callers, ha.tickets, fun _ => ha.next_ticket⟩
  case barrier =>
    intro id' hid'
    obtain ⟨barrier, hb, hstands⟩ := ha.barrier id' hid'
    refine ⟨barrier, by rw [← hb, ← barriers], ?_⟩
    by_cases heq : id' = id
    · subst heq
      rw [before] at hstands
      rw [hnow]
      exact hstands.append hlate
    · rw [hear_done_other heq]
      exact hstands
  case unlisted =>
    intro id' hid'
    rw [← ha.unlisted id' hid', ← barriers]
  case released =>
    intro id'
    have hreleased : b'.scheduler.isReleased id' = h.broker.scheduler.isReleased id' := by
      rw [scheduler]
      rfl
    show b'.scheduler.isReleased id' = true ↔ _
    rw [hreleased, ha.released id']
    by_cases heq : id' = id
    · rw [heq, hopen, hmain]
    · rw [hear_done_other heq]
  case parked =>
    show b'.scheduler.parked = _
    rw [scheduler]
    exact ha.parked
  case callers =>
    intro id'
    refine (ha.callers id').trans ?_
    by_cases heq : id' = id
    · rw [heq, waitingCallers_of_ne (by rw [hopen]; exact nofun),
        waitingCallers_of_ne (by rw [hmain]; exact nofun)]
    · rw [hear_done_other heq]

end Hall.Accounts

section Turns

variable {past : ComponentId → Option (List Done)} {h : Hall} {signal : Signal} {turn : Turn}

/-- The account goes on with every call. -/
theorem Turns.accounts (ht : Turns cores ids past h signal turn) (ha : h.Accounts cores ids past) :
    turn.hall.Accounts cores ids fun id => hear id h.calls (past id) signal := by
  cases ht with
  | @unknown id core unlisted =>
    refine ha.congr fun id' hid' => hear_begin_other ?_
    rintro rfl
    exact unlisted hid'
  | begins listed first stands barriers scheduler =>
    exact ha.begins listed first stands barriers scheduler
  | @begun id core listed again =>
    refine ha.congr fun id' _ => ?_
    by_cases hid' : id' = id
    · subst hid'
      obtain ⟨dones, hdones⟩ := Option.ne_none_iff_exists'.1 again
      rw [hear_begin, hdones]
      rfl
    · exact hear_begin_other hid'
  | @unbegun id core parallel mode nothing =>
    refine ha.congr fun id' hlisted => ?_
    by_cases hid' : id' = id
    · subst hid'
      rw [hear_done, nothing hlisted]
      rfl
    · exact hear_done_other hid'
  | waits listed before after early stands barriers scheduler =>
    exact ha.waits listed before after early stands barriers scheduler
  | opens listed before after last stands barriers scheduler =>
    exact ha.opens listed before after last stands barriers scheduler
  | late listed before after late barriers scheduler =>
    exact ha.late before after late barriers scheduler

/-! ### Every call is one of these -/

/-- Where nobody is released, nobody goes on. -/
theorem close_quiet (ha : h.Accounts cores ids past) {returned : Returned} {b' : Broker}
    (hquiet : ∀ id, b'.scheduler.isReleased id = h.broker.scheduler.isReleased id) :
    h.close image returned b' [] = ⟨returned, [], ⟨b', h.callers, h.calls + 1⟩⟩ := by
  have hnone : ∀ c ∈ h.callers, ¬ c.goes b'.scheduler = true := fun c hc hgoes =>
    ha.not_goes hc ((hquiet c.component).symm.trans hgoes)
  rw [Hall.close_eq (by rw [List.append_nil]; exact ha.signalled), List.append_nil,
    settled_of_none hnone]

/-- A caller that comes to wait waits with the others. -/
theorem close_waits (ha : h.Accounts cores ids past) {returned : Returned} {b' : Broker}
    {outcome : Outcome}
    (hquiet : ∀ id, b'.scheduler.isReleased id = h.broker.scheduler.isReleased id)
    (hshut : h.broker.scheduler.isReleased id = false) :
    h.close image returned b' [⟨h.calls, id, .signal outcome⟩] =
      ⟨returned, [], ⟨b', h.callers ++ [⟨h.calls, id, .signal outcome⟩], h.calls + 1⟩⟩ := by
  rw [Hall.close_eq (ha.signalled_append id outcome), settled_of_none]
  intro c hc hgoes
  have hgoes := (hquiet c.component).symm.trans hgoes
  rcases List.mem_append.1 hc with hold | hnew
  · exact ha.not_goes hold hgoes
  · rw [List.mem_singleton.1 hnew] at hgoes
    cases hshut.symm.trans hgoes

/-- When a component is released, those who wait for it go on, and nobody
else. -/
theorem close_release (ha : h.Accounts cores ids past) {returned : Returned} {b' : Broker}
    (hreleased : b'.scheduler = h.broker.scheduler.release id) :
    h.close image returned b' [] =
      ⟨returned, (h.callers.filter (·.component = id)).map Caller.hears,
        ⟨b', h.callers.filter (·.component ≠ id), h.calls + 1⟩⟩ := by
  have hgoes : ∀ c ∈ h.callers, c.goes b'.scheduler = decide (c.component = id) := by
    intro c hc
    refine Bool.eq_iff_iff.2 ?_
    rw [decide_eq_true_iff]
    unfold Caller.goes
    rw [hreleased, Scheduler.isReleased_release]
    exact or_iff_left (ha.not_goes hc)
  have hstays : ∀ c ∈ h.callers, (!c.goes b'.scheduler) = decide (c.component ≠ id) := by
    intro c hc
    rw [hgoes c hc, decide_not]
  rw [Hall.close_eq (by rw [List.append_nil]; exact ha.signalled), List.append_nil]
  unfold settled
  rw [List.filter_congr hgoes, List.filter_congr hstays]

/-- Those who wait for a component hear what the first to come said. -/
theorem hears_waiting (ha : h.Accounts cores ids past) (listed : id ∈ ids) {dones : List Done}
    {d : Done} (before : past id = some dones)
    (hlt : dones.length < quota cores (dones ++ [d])) :
    (h.callers.filter (·.component = id)).map Caller.hears =
      dones.map fun e => (e.ticket, .outcome (.main (modeOf (dones ++ [d])))) := by
  rw [ha.callers id, if_pos listed, before, waitingCallers_of_lt hlt, List.map_map]
  rfl

theorem take_begin_turns (image : Image) (ha : h.Accounts cores ids past) (id : ComponentId)
    (core : CoreId) :
    Turns cores ids past h (.begin id core) (h.take image (.begin id core)) := by
  unfold Hall.take
  dsimp only
  rcases (beginInit_leads (b := h.broker)).ends with
    ⟨first, hs, barrier, hb, hcase⟩ | ⟨why, hs, hnone, rfl, hfinal⟩
  · obtain ⟨listed, hstands⟩ := ha.stands hb
    have hphase := hstands.phase
    rw [hs]
    rcases hcase with ⟨hfresh, rfl, hbarriers, hscheduler, -⟩ | ⟨hbegun, rfl, hfinal⟩
    · rw [hfresh] at hphase
      have hfirst : past id = none := eq_none_of_phaseOf hphase.symm
      rw [hfirst] at hstands
      have hbegun : Stands cores (some []) { barrier with phase := .initializing } :=
        ⟨rfl, hstands.expected, hstands.arrived, hstands.mode⟩
      dsimp only
      rw [close_quiet ha fun _ => by rw [hscheduler]; rfl]
      exact .begins listed hfirst hbegun hbarriers hscheduler
    · dsimp only
      rw [hfinal, close_quiet ha fun _ => rfl]
      refine .begun listed fun hnone => hbegun ?_
      rw [hphase, hnone]
      rfl
  · rw [hs]
    dsimp only
    rw [hfinal, close_quiet ha fun _ => rfl]
    refine .unknown fun listed => ?_
    obtain ⟨barrier, hb, _⟩ := ha.barrier id listed
    cases hb.symm.trans hnone

/-- A thread that gathers with those who came before it. -/
theorem Gathers.turns (ha : h.Accounts cores ids past) (listed : id ∈ ids) {core : CoreId}
    {parallel : Bool} {mode : MainMode} {dones all : List Done} (before : past id = some dones)
    (after : all = dones ++ [⟨h.calls, parallel, mode⟩])
    (hlt : dones.length < quota cores all) {barrier : Barrier}
    (hphase : barrier.phase = .parallelInit) (hexpected : barrier.expected = quota cores all)
    (harrived : barrier.arrived = dones.length) (hmode : barrier.mode = modeOf all)
    {p : Progress Outcome} {b' : Broker} (hg : Gathers h.broker id core barrier p b') :
    Turns cores ids past h (.done id core parallel mode) (h.answered image b' p) := by
  have hlength : all.length = dones.length + 1 := by rw [after]; exact List.length_append
  have hne : all ≠ [] := by rw [after]; exact List.append_ne_nil_of_right_ne_nil dones nofun
  have hshut : h.broker.scheduler.isReleased id = false := by
    refine ha.shut ?_
    rw [before]
    exact phaseOf_ne_main _ (after ▸ hlt)
  cases hg with
  | waits early barriers scheduler =>
    have hearly : all.length < quota cores all := by omega
    have hstands : Stands cores (some all) { barrier with arrived := barrier.arrived + 1 } := by
      refine ⟨?_, hexpected, ?_, hmode⟩
      · rw [phaseOf_of_ne_nil hne, if_pos hearly]
        exact hphase
      · show barrier.arrived + 1 = min all.length (quota cores all)
        omega
    unfold Hall.answered
    dsimp only
    rw [close_waits ha (fun _ => by rw [scheduler, Scheduler.isReleased_park]) hshut, hmode]
    exact .waits listed before after hearly hstands barriers scheduler
  | opens last barriers scheduler =>
    have hlast : all.length = quota cores all := by omega
    have hstands : Stands cores (some all)
        { barrier with arrived := barrier.arrived + 1, phase := .main } := by
      refine ⟨?_, hexpected, ?_, hmode⟩
      · rw [phaseOf_of_ne_nil hne, if_neg (by omega)]
      · show barrier.arrived + 1 = min all.length (quota cores all)
        omega
    subst after
    unfold Hall.answered
    dsimp only
    rw [close_release ha scheduler, hears_waiting ha listed before hlt, hmode]
    exact .opens listed before rfl hlast hstands barriers scheduler
  | leaves late barriers scheduler => omega

theorem take_done_turns (image : Image) (ha : h.Accounts cores ids past) (id : ComponentId)
    (core : CoreId) (parallel : Bool) (mode : MainMode) :
    Turns cores ids past h (.done id core parallel mode)
      (h.take image (.done id core parallel mode)) := by
  have hshut : ∀ barrier, h.broker.barriers[id]? = some barrier → barrier.phase ≠ .main →
      h.broker.scheduler.isReleased id = false := fun barrier hb hphase =>
    ha.shut ((ha.stands hb).2.phase ▸ hphase)
  unfold Hall.take
  dsimp only
  rcases (signalDone_leads hshut core parallel mode).ends with
    ⟨p, hs, barrier, hb, hcase⟩ | ⟨why, hs, hnone, rfl, hfinal⟩
  · obtain ⟨listed, hst⟩ := ha.stands hb
    have hphase := hst.phase
    rw [hs]
    rcases hcase with ⟨hinit, hg⟩ | ⟨hgathering, hg⟩ | ⟨hmain, rfl, hfinal⟩
    · -- The first to come latches the barrier, which nobody has reached before.
      have hbefore : past id = some [] := eq_some_nil_of_phaseOf (hphase.symm.trans hinit)
      rw [hbefore] at hst
      refine Gathers.turns ha listed hbefore rfl (quota_pos cores _) rfl ?_ ?_ rfl hg
      · show (if parallel then barrier.expected else 1) = if parallel then max cores 1 else 1
        rw [show barrier.expected = max cores 1 from hst.expected]
      · exact hst.arrived.trans (Nat.zero_min _)
    · obtain ⟨dones, hbefore, hne, hlt⟩ := gathering_of_phaseOf (hphase.symm.trans hgathering)
      rw [hbefore] at hst
      have hquota : quota cores (dones ++ [⟨h.calls, parallel, mode⟩]) = quota cores dones :=
        quota_append hne _
      refine Gathers.turns ha listed hbefore rfl (by rwa [hquota]) hgathering
        (hst.expected.trans hquota.symm) ?_ (hst.mode.trans (modeOf_append hne _).symm) hg
      exact hst.arrived.trans (Nat.min_eq_left (Nat.le_of_lt hlt))
    · obtain ⟨dones, hbefore, hne, hge⟩ := complete_of_phaseOf (hphase.symm.trans hmain)
      have hclose : h.close image (.finished .exited)
          { h.broker with scheduler := h.broker.scheduler.exitThread id core } [] =
          ⟨.finished .exited, [], ⟨_, h.callers, h.calls + 1⟩⟩ := close_quiet ha fun _ => rfl
      unfold Hall.answered
      dsimp only
      rw [hfinal, hclose]
      refine .late listed hbefore rfl ?_ rfl rfl
      rw [quota_append hne, List.length_append]
      exact Nat.lt_succ_of_le hge
  · rw [hs]
    dsimp only
    rw [hfinal, close_quiet ha fun _ => rfl]
    refine .unbegun fun listed => ?_
    obtain ⟨barrier, hb, hst⟩ := ha.barrier id listed
    exact eq_none_of_phaseOf (hst.phase.symm.trans (hnone barrier hb))

end Turns

end Service

end CapabilityBroker
