/-
CapabilityBroker/Proofs/Barrier/Hall.lean

The initialization protocol in use.

A hall is a broker with the callers that wait at its barriers.  Calls of the
protocol are made one after another: each comes to its end or parks its
caller, and then all callers who can go on do so.  A call is known by its
ticket, the number of calls before it.

`beginInit_leads` and `signalDone_leads` say what the two calls do to the
barriers and to the scheduler.  `settle_signals` says who goes on: of callers
that only wait to hear an outcome, those whose component is released, each
with the outcome that was settled when it parked.
-/
import CapabilityBroker.Proofs.Outcome
import CapabilityBroker.Service.Caller

namespace CapabilityBroker

/-! ### What the calls do -/

variable {b b' : Broker} {id : ComponentId} {core : CoreId} {parallel : Bool} {mode : MainMode}

theorem knownBarrier_bind {α : Type} {f : Barrier → Operation α} {post : α → Broker → Prop}
    {stop : Stop Failure → Broker → Prop}
    (known : ∀ barrier, b.barriers[id]? = some barrier → (f barrier).Leads b post stop)
    (unknown : b.barriers[id]? = none → stop (.refused (.initNotStarted id)) b) :
    (knownBarrier id >>= f).Leads b post stop :=
  Step.leads_bind.2 (Step.Leads.get_bind (Step.leads_require.2 ⟨known, unknown⟩))

/-- Only the first call begins an initialization. -/
theorem beginInit_leads : (beginInit id core).Leads b
    (fun first b' => ∃ barrier, b.barriers[id]? = some barrier ∧
      (barrier.phase = .unregistered ∧ first = true ∧
          b'.barriers = b.barriers.insert id { barrier with phase := .initializing } ∧
          b'.scheduler = b.scheduler.scheduleInit id core ∧
          b'.trail = b.trail.record (.initTransition id .initializing) ∨
        barrier.phase ≠ .unregistered ∧ first = false ∧ b' = b))
    (fun why b' => b.barriers[id]? = none ∧ why = .refused (.initNotStarted id) ∧ b' = b) := by
  refine knownBarrier_bind (fun barrier hb => ?_) fun hb => ⟨hb, rfl, rfl⟩
  cases hphase : barrier.phase with
  | unregistered =>
    refine Step.Leads.modify_bind (Step.Leads.modify_bind (Step.Leads.modify_bind ?_))
    refine Step.Leads.modify_bind (Step.leads_pure.2 ?_)
    exact ⟨barrier, hb, .inl ⟨hphase, rfl, rfl, rfl, rfl⟩⟩
  | _ =>
    refine Step.leads_pure.2 ⟨barrier, hb, .inr ⟨?_, rfl, rfl⟩⟩
    rw [hphase]
    exact nofun

/-- What becomes of a thread that comes to a barrier which is not open yet. -/
inductive Gathers (b : Broker) (id : ComponentId) (core : CoreId) (barrier : Barrier) :
    Progress Outcome → Broker → Prop
  | waits {b' : Broker} (early : barrier.arrived + 1 < barrier.expected)
      (barriers : b'.barriers = b.barriers.insert id { barrier with arrived := barrier.arrived + 1 })
      (scheduler : b'.scheduler = b.scheduler.park id core) :
      Gathers b id core barrier (.parked id (.main barrier.mode)) b'
  | opens {b' : Broker} (last : barrier.arrived + 1 = barrier.expected)
      (barriers : b'.barriers =
        b.barriers.insert id { barrier with arrived := barrier.arrived + 1, phase := .main })
      (scheduler : b'.scheduler = b.scheduler.release id) :
      Gathers b id core barrier (.finished (.main barrier.mode)) b'
  | leaves {b' : Broker} (late : barrier.expected < barrier.arrived + 1)
      (barriers : b'.barriers = b.barriers.insert id { barrier with arrived := barrier.arrived + 1 })
      (scheduler : b'.scheduler = b.scheduler.exitThread id core) :
      Gathers b id core barrier (.finished .exited) b'

theorem arriveAt_leads {barrier : Barrier} (shut : b.scheduler.isReleased id = false) :
    (arriveAt id core barrier).Leads b (Gathers b id core barrier) (fun _ _ => False) := by
  unfold arriveAt Barrier.arrive
  rcases Nat.lt_trichotomy (barrier.arrived + 1) barrier.expected with hlt | heq | hgt
  · rw [if_neg (Nat.lt_asymm hlt), if_neg (Nat.ne_of_lt hlt)]
    refine Step.Leads.modify_bind (Step.Leads.modify_bind (Step.Leads.get_bind ?_))
    refine Step.Leads.ite (fun hopen => ?_) fun _ => Step.leads_pure.2 (.waits hlt rfl rfl)
    have hshut : b.scheduler.isReleased id = true := by
      have hpark : (b.scheduler.park id core).released = b.scheduler.released := by
        unfold Scheduler.park
        dsimp only
        split
        · rfl
        · rfl
      unfold Scheduler.isReleased at hopen ⊢
      rw [← hpark]
      exact hopen
    cases shut.symm.trans hshut
  · rw [if_neg (Nat.not_lt.2 (Nat.le_of_eq heq)), if_pos heq]
    refine Step.Leads.modify_bind (Step.Leads.modify_bind (Step.Leads.modify_bind ?_))
    exact Step.Leads.modify_bind (Step.leads_pure.2 (.opens heq rfl rfl))
  · rw [if_pos hgt]
    exact Step.Leads.modify_bind (Step.Leads.modify_bind (Step.leads_pure.2 (.leaves hgt rfl rfl)))

theorem Gathers.of_eq {b₁ : Broker} {barrier : Barrier} {p : Progress Outcome}
    (h : Gathers b₁ id core barrier p b') (hbarriers : b₁.barriers = b.barriers)
    (hscheduler : b₁.scheduler = b.scheduler) : Gathers b id core barrier p b' := by
  cases h with
  | waits early barriers scheduler =>
    exact .waits early (hbarriers ▸ barriers) (hscheduler ▸ scheduler)
  | opens last barriers scheduler =>
    exact .opens last (hbarriers ▸ barriers) (hscheduler ▸ scheduler)
  | leaves late barriers scheduler =>
    exact .leaves late (hbarriers ▸ barriers) (hscheduler ▸ scheduler)

/-- A thread that is done gathers with the others, or leaves if the barrier is
open; the first one latches it. -/
theorem signalDone_leads
    (shut : ∀ barrier, b.barriers[id]? = some barrier → barrier.phase ≠ .main →
      b.scheduler.isReleased id = false)
    (core : CoreId) (parallel : Bool) (mode : MainMode) :
    (signalDone id core parallel mode).Leads b
      (fun p b' => ∃ barrier, b.barriers[id]? = some barrier ∧
        (barrier.phase = .initializing ∧
            Gathers b id core (barrier.latched core parallel mode) p b' ∨
          barrier.phase = .parallelInit ∧ Gathers b id core barrier p b' ∨
          barrier.phase = .main ∧ p = .finished .exited ∧
            b' = { b with scheduler := b.scheduler.exitThread id core }))
      (fun why b' => (∀ barrier, b.barriers[id]? = some barrier → barrier.phase = .unregistered) ∧
        why = .refused (.initNotStarted id) ∧ b' = b) := by
  refine knownBarrier_bind (fun barrier hb => ?_) fun hb => ⟨fun _ h => ?_, rfl, rfl⟩
  · have hshut := shut barrier hb
    cases hphase : barrier.phase with
    | unregistered =>
      refine Step.leads_refuse.2 ⟨fun barrier' hb' => ?_, rfl, rfl⟩
      cases hb.symm.trans hb'
      exact hphase
    | initializing =>
      have hshut := hshut (by rw [hphase]; exact nofun)
      refine Step.Leads.modify_bind (Step.Leads.mono (arriveAt_leads hshut) ?_ fun _ _ h => h.elim)
      exact fun p b' h => ⟨barrier, hb, .inl ⟨hphase, h.of_eq rfl rfl⟩⟩
    | parallelInit =>
      have hshut := hshut (by rw [hphase]; exact nofun)
      refine (arriveAt_leads hshut).mono ?_ fun _ _ h => h.elim
      exact fun p b' h => ⟨barrier, hb, .inr (.inl ⟨hphase, h⟩)⟩
    | main =>
      refine Step.Leads.modify_bind (Step.leads_pure.2 ?_)
      exact ⟨barrier, hb, .inr (.inr ⟨hphase, rfl, rfl⟩)⟩
  · cases hb.symm.trans h

namespace Service

/-! ### Who goes on -/

variable {image : Image} {callers : List Caller}

/-- The outcome that a caller waits to hear. -/
def Caller.outcome (c : Caller) : Outcome :=
  match c.pending with
  | .signal outcome => outcome
  | _ => .exited

/-- Callers that only wait to hear an outcome, in the order they came. -/
structure Signalled (callers : List Caller) : Prop where
  pending : ∀ c ∈ callers, c.pending = .signal c.outcome
  tickets : callers.Pairwise fun c d => c.ticket < d.ticket

/-- Whether the component of a caller is released. -/
def Caller.goes (s : Scheduler) (c : Caller) : Bool := s.isReleased c.component

/-- How a caller that waits for an outcome ends. -/
def Caller.hears (c : Caller) : Nat × Answer := (c.ticket, .outcome c.outcome)

theorem Signalled.resume {c : Caller} (h : Signalled callers) (hc : c ∈ callers) :
    c.resume image = pure (.inl (.outcome c.outcome)) := by
  unfold Caller.resume
  rw [h.pending c hc]

theorem Signalled.sublist {others : List Caller} (h : Signalled callers)
    (hsub : others.Sublist callers) : Signalled others :=
  ⟨fun c hc => h.pending c (hsub.subset hc), h.tickets.sublist hsub⟩

/-- A caller is told from the others by its ticket. -/
theorem Signalled.filter_ticket {before after : List Caller} {c : Caller}
    (h : Signalled (before ++ c :: after)) :
    (before ++ c :: after).filter (fun d => d.ticket != c.ticket) = before ++ after := by
  obtain ⟨_, hafter, hcross⟩ := List.pairwise_append.1 h.tickets
  rw [List.filter_append, List.filter_cons_of_neg (by simp)]
  congr 1
  · refine List.filter_eq_self.2 fun d hd => ?_
    have hlt := hcross d hd c List.mem_cons_self
    exact bne_iff_ne.2 (Nat.ne_of_lt hlt)
  · refine List.filter_eq_self.2 fun d hd => ?_
    have hlt := (List.pairwise_cons.1 hafter).1 d hd
    exact bne_iff_ne.2 (Nat.ne_of_gt hlt)

/-- The callers who can go on, as they end, and the others. -/
def settled (s : Scheduler) (callers : List Caller) : List (Nat × Answer) × List Caller :=
  ((callers.filter (Caller.goes s)).map Caller.hears, callers.filter fun c => !c.goes s)

theorem settled_of_none {s : Scheduler} (h : ∀ c ∈ callers, ¬ c.goes s = true) :
    settled s callers = ([], callers) := by
  have hall : callers.filter (fun c => !c.goes s) = callers :=
    List.filter_eq_self.2 fun c hc => by simpa using h c hc
  unfold settled
  rw [List.filter_eq_nil_iff.2 h, hall]
  rfl

/-- Letting one caller go on leaves the rest to be settled. -/
theorem settled_cons {s : Scheduler} {before after : List Caller} {c : Caller}
    (hc : c.goes s = true) (hbefore : ∀ d ∈ before, ¬ d.goes s = true) :
    settled s (before ++ c :: after) =
      (c.hears :: (settled s (before ++ after)).1, (settled s (before ++ after)).2) := by
  unfold settled
  rw [List.filter_append, List.filter_append, List.filter_append, List.filter_append,
    List.filter_eq_nil_iff.2 hbefore, List.filter_cons_of_pos hc,
    List.filter_cons_of_neg (by rw [hc]; exact Bool.false_ne_true)]
  rfl

/-- With fuel for all who can go on, each of them does, and the state stays as
it is. -/
theorem settleWithin_signals {fuel : Nat} (h : Signalled callers)
    (hfuel : callers.countP (Caller.goes b.scheduler) ≤ fuel) :
    (settleWithin image fuel callers).run b = (settled b.scheduler callers, b) := by
  induction fuel generalizing callers with
  | zero =>
    rw [settled_of_none (List.countP_eq_zero.1 (Nat.eq_zero_of_le_zero hfuel))]
    rfl
  | succ fuel ih =>
    simp only [settleWithin, StateT.run_bind, StateT.run_get, pure_bind]
    cases hfind : callers.find? (Caller.goes b.scheduler) with
    | none =>
      rw [settled_of_none (List.find?_eq_none.1 hfind)]
      unfold Caller.goes at hfind
      rw [hfind]
      rfl
    | some c =>
      obtain ⟨hgoes, before, after, rfl, hbefore⟩ := List.find?_eq_some_iff_append.1 hfind
      have hbefore : ∀ d ∈ before, ¬ d.goes b.scheduler = true := fun d hd => by
        simpa using hbefore d hd
      have hrest : Signalled (before ++ after) :=
        h.sublist (List.Sublist.append_left (List.sublist_cons_self c after) before)
      rw [List.countP_append, List.countP_cons_of_pos hgoes] at hfuel
      have hih := ih hrest (by rw [List.countP_append]; omega)
      unfold Caller.goes at hfind
      rw [hfind, settled_cons hgoes hbefore]
      dsimp only
      rw [h.filter_ticket, h.resume (List.mem_append_right before List.mem_cons_self), pure_bind]
      dsimp only
      rw [StateT.run_bind, hih]
      rfl

/-- Settling lets exactly those go on whose component is released. -/
theorem settle_signals (h : Signalled callers) :
    (settle image callers).run b = (settled b.scheduler callers, b) := by
  have hfuel : callers.countP (Caller.goes b.scheduler) ≤
      callers.foldl (fun n c => n + 1 + c.remaining) 0 := by
    have hsum : ∀ n, n + callers.length ≤ callers.foldl (fun n c => n + 1 + c.remaining) n := by
      induction callers with
      | nil => exact fun n => Nat.le_refl n
      | cons c rest ih =>
        intro n
        have hrest := ih (h.sublist (List.sublist_cons_self c rest)) (n + 1 + c.remaining)
        rw [List.foldl_cons, List.length_cons]
        omega
    have hlength := hsum 0
    have hcount : callers.countP (Caller.goes b.scheduler) ≤ callers.length :=
      List.countP_le_length
    omega
  have hsorted : ((settled b.scheduler callers).1.mergeSort fun a b => a.1 ≤ b.1) =
      (settled b.scheduler callers).1 := by
    refine List.mergeSort_of_pairwise ?_
    refine List.pairwise_map.2 ((h.tickets.filter _).imp fun hlt => ?_)
    exact decide_eq_true (Nat.le_of_lt hlt)
  unfold settle
  rw [StateT.run_bind, settleWithin_signals h hfuel]
  show ((((settled b.scheduler callers).1.mergeSort fun a b => a.1 ≤ b.1), _), b) = _
  rw [hsorted]
  rfl

/-! ### Halls -/

/-- A call of the initialization protocol. -/
inductive Signal where
  | begin (id : ComponentId) (core : CoreId)
  | done (id : ComponentId) (core : CoreId) (parallel : Bool) (mode : MainMode)

/-- What a call comes to at once. -/
inductive Returned where
  /-- Whether it was the one that began the initialization. -/
  | begun (first : Bool)
  | finished (outcome : Outcome)
  | parked
  | stopped (why : Stop Failure)

/-- A broker with the callers that wait at its barriers. -/
structure Hall where
  broker : Broker
  callers : List Caller
  /-- The number of calls so far, which is the ticket of the next. -/
  calls : Nat

/-- What a call comes to, who went on because of it, and the hall afterwards. -/
structure Turn where
  returned : Returned
  resumed : List (Nat × Answer)
  hall : Hall

namespace Hall

/-- Let all who can go on do so, those who came to wait just now included. -/
def close (image : Image) (h : Hall) (returned : Returned) (b : Broker) (more : List Caller) :
    Turn :=
  let ((resumed, callers), broker) := (settle image (h.callers ++ more)).run b
  ⟨returned, resumed, ⟨broker, callers, h.calls + 1⟩⟩

/-- What a done signal that is answered comes to. -/
def answered (image : Image) (h : Hall) (b : Broker) : Progress Outcome → Turn
  | .finished outcome => h.close image (.finished outcome) b []
  | .parked component outcome => h.close image .parked b [⟨h.calls, component, .signal outcome⟩]

/-- Make a call. -/
def take (image : Image) (h : Hall) : Signal → Turn
  | .begin id core =>
    match beginInit id core h.broker with
    | .ok first b => h.close image (.begun first) b []
    | .error why b => h.close image (.stopped why) b []
  | .done id core parallel mode =>
    match signalDone id core parallel mode h.broker with
    | .ok progress b => h.answered image b progress
    | .error why b => h.close image (.stopped why) b []

/-- The hall after several calls. -/
def run (image : Image) (h : Hall) (signals : List Signal) : Hall :=
  signals.foldl (fun h signal => (h.take image signal).hall) h

/-- A hall with fresh barriers, before any call. -/
def opened (b : Broker) (ids : List ComponentId) (cores : Nat) : Hall :=
  ⟨{ b with barriers := .over ids cores, scheduler := .empty }, [], 0⟩

theorem close_eq {h : Hall} {returned : Returned} {b : Broker} {more : List Caller}
    (hsignalled : Signalled (h.callers ++ more)) : h.close image returned b more =
      ⟨returned, (settled b.scheduler (h.callers ++ more)).1,
        ⟨b, (settled b.scheduler (h.callers ++ more)).2, h.calls + 1⟩⟩ := by
  unfold close
  rw [settle_signals hsignalled]

end Hall

end Service

end CapabilityBroker
