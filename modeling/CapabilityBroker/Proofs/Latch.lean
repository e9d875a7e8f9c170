/-
CapabilityBroker/Proofs/Latch.lean

The core that initialized a component.

The first done signal of a component that is answered fixes the core that it
comes from; no call before it and none after it touches what is fixed there
(`take_latches`).  What the latch holds before the first signal is itself the
id of a core, and a first signal from that core is lost: the component then
gathers its threads and never learns who initialized it
(`first_core_is_lost`).  From every other core the latch is right, for good
(`init_core_is_latched`).
-/
import CapabilityBroker.Proofs.Arrivals

namespace CapabilityBroker

variable {b b' : Broker} {id : ComponentId} {first : Option CoreId}

/-! ### What the latch holds -/

/-- The latch of a component holds the core of the first signal, and before
that the core that stands for none; its threads gather from the first signal
on. -/
def Latches (id : ComponentId) (first : Option CoreId) (b : Broker) : Prop :=
  match b.barriers[id]? with
  | none => first = none
  | some barrier => barrier.latch = first.getD .unassigned ∧
      (first = none ↔ barrier.phase = .unregistered ∨ barrier.phase = .initializing)

theorem Latches.of_barrier {barrier : Barrier} (hb : b.barriers[id]? = some barrier)
    (hlatch : barrier.latch = first.getD .unassigned)
    (hphase : first = none ↔ barrier.phase = .unregistered ∨ barrier.phase = .initializing) :
    Latches id first b := by
  unfold Latches
  rw [hb]
  exact ⟨hlatch, hphase⟩

theorem Latches.barrier {barrier : Barrier} (hl : Latches id first b)
    (hb : b.barriers[id]? = some barrier) : barrier.latch = first.getD .unassigned ∧
      (first = none ↔ barrier.phase = .unregistered ∨ barrier.phase = .initializing) := by
  unfold Latches at hl
  rwa [hb] at hl

/-- From the first signal on there is a core that is latched. -/
theorem Latches.latched {barrier : Barrier} (hl : Latches id first b)
    (hb : b.barriers[id]? = some barrier) (hbegun : barrier.phase ≠ .unregistered)
    (hdone : barrier.phase ≠ .initializing) : first = some barrier.latch := by
  obtain ⟨hlatch, hphase⟩ := hl.barrier hb
  cases first with
  | none => exact ((hphase.1 rfl).elim hbegun hdone).elim
  | some core => rw [hlatch, Option.getD_some]

theorem Latches.of_eq (hl : Latches id first b)
    (heq : b'.barriers[id]? = b.barriers[id]?) : Latches id first b' := by
  unfold Latches
  rw [heq]
  exact hl

/-- Threads that gather keep what is latched. -/
theorem Gathers.latches {core latched : CoreId} {barrier : Barrier} {p : Progress Outcome}
    (hg : Gathers b id core barrier p b') (hlatch : barrier.latch = latched)
    (hphase : barrier.phase = .parallelInit) : Latches id (some latched) b' := by
  have hinsert : ∀ after : Barrier, b'.barriers = b.barriers.insert id after →
      b'.barriers[id]? = some after := fun after hafter => by
    rw [hafter, getElem?_insert, if_pos rfl]
  cases hg with
  | waits early barriers scheduler =>
    exact .of_barrier (hinsert _ barriers) hlatch (iff_of_false nofun (by simp [hphase]))
  | opens last barriers scheduler =>
    exact .of_barrier (hinsert _ barriers) hlatch (iff_of_false nofun (by simp))
  | leaves late barriers scheduler =>
    exact .of_barrier (hinsert _ barriers) hlatch (iff_of_false nofun (by simp [hphase]))

/-- They gather at one barrier. -/
theorem Gathers.others {core : CoreId} {barrier : Barrier} {p : Progress Outcome}
    (hg : Gathers b id core barrier p b') {id' : ComponentId} (hne : id' ≠ id) :
    b'.barriers[id']? = b.barriers[id']? := by
  cases hg with
  | waits early barriers scheduler => rw [barriers, getElem?_insert, if_neg hne]
  | opens last barriers scheduler => rw [barriers, getElem?_insert, if_neg hne]
  | leaves late barriers scheduler => rw [barriers, getElem?_insert, if_neg hne]

namespace Service

variable {image : Image} {cores : Nat} {ids : List ComponentId}
variable {past : ComponentId → Option (List Done)} {h : Hall}

/-! ### Signals that are heeded -/

/-- Whether a call was answered, at once or later. -/
def Returned.isAnswer : Returned → Bool
  | stopped _ => false
  | _ => true

namespace Hall

/-- The core of a done signal of a component, if the signal is answered. -/
def heeds? (image : Image) (h : Hall) (id : ComponentId) : Signal → Option CoreId
  | .begin .. => none
  | .done id' core parallel mode =>
    if id' = id ∧ (h.take image (.done id' core parallel mode)).returned.isAnswer then some core
    else none

/-- The core of the first done signal of a component that is answered. -/
def firstCore? (image : Image) (id : ComponentId) : Hall → List Signal → Option CoreId
  | _, [] => none
  | h, signal :: rest =>
    (h.heeds? image id signal).or (firstCore? image id (h.take image signal).hall rest)

/-- The core that initialized a component, as its barrier tells. -/
def initCore? (h : Hall) (id : ComponentId) : Option CoreId :=
  h.broker.barriers[id]?.bind Barrier.initCore?

/-- Once there is a first signal, it stays the first. -/
theorem firstCore?_append (image : Image) (id : ComponentId) (h : Hall)
    (signals more : List Signal) : h.firstCore? image id (signals ++ more) =
      (h.firstCore? image id signals).or ((h.run image signals).firstCore? image id more) := by
  induction signals generalizing h with
  | nil => rfl
  | cons signal rest ih =>
    show (h.heeds? image id signal).or _ = ((h.heeds? image id signal).or _).or _
    rw [List.append_eq, ih, Option.or_assoc]
    rfl

end Hall

/-! ### One call -/

theorem latches_opened (b : Broker) (ids : List ComponentId) (cores : Nat) (id : ComponentId) :
    Latches id none (Hall.opened b ids cores).broker := by
  by_cases listed : id ∈ ids
  · exact .of_barrier ((getElem?_over ids cores id).trans (if_pos listed)) rfl
      (iff_of_true rfl (.inl rfl))
  · unfold Latches
    rw [show (Hall.opened b ids cores).broker.barriers[id]? = none from
      (getElem?_over ids cores id).trans (if_neg listed)]

theorem initCore?_of_latches (hl : Latches id first h.broker) :
    h.initCore? id = first.filter (· ≠ .unassigned) := by
  unfold Hall.initCore?
  unfold Latches at hl
  split at hl
  · next hb =>
    rw [hb, hl]
    rfl
  · next barrier hb =>
    rw [hb, Option.bind_some]
    unfold Barrier.initCore?
    rw [hl.1]
    cases first with
    | none => rfl
    | some core =>
      rw [Option.getD_some, Option.filter_some]
      by_cases hcore : core = .unassigned <;> simp [hcore]

theorem Hall.Accounts.quiet (ha : h.Accounts cores ids past) : Signalled (h.callers ++ []) := by
  rw [List.append_nil]
  exact ha.signalled

/-- Who goes on changes nothing. -/
theorem close_keeps (image : Image) (b : Broker) (returned : Returned) {more : List Caller}
    (hsignalled : Signalled (h.callers ++ more)) :
    (h.close image returned b more).hall.broker = b ∧
      (h.close image returned b more).returned = returned := by
  rw [Hall.close_eq hsignalled]
  exact ⟨rfl, rfl⟩

theorem take_done_of_ok (image : Image) (ha : h.Accounts cores ids past) {core : CoreId}
    {parallel : Bool} {mode : MainMode} {p : Progress Outcome}
    (hs : signalDone id core parallel mode h.broker = .ok p b) :
    (h.take image (.done id core parallel mode)).hall.broker = b ∧
      (h.take image (.done id core parallel mode)).returned.isAnswer = true := by
  have htake : h.take image (.done id core parallel mode) = h.answered image b p := by
    unfold Hall.take
    dsimp only
    rw [hs]
  rw [htake]
  cases p with
  | finished outcome =>
    obtain ⟨hbroker, hreturned⟩ := close_keeps image b (.finished outcome) ha.quiet
    exact ⟨hbroker, congrArg Returned.isAnswer hreturned⟩
  | parked component outcome =>
    have hsignalled := ha.signalled_append component outcome
    obtain ⟨hbroker, hreturned⟩ := close_keeps image b .parked hsignalled
    exact ⟨hbroker, congrArg Returned.isAnswer hreturned⟩

theorem take_done_of_error (image : Image) (ha : h.Accounts cores ids past) {core : CoreId}
    {parallel : Bool} {mode : MainMode} {why : Stop Failure}
    (hs : signalDone id core parallel mode h.broker = .error why b) :
    (h.take image (.done id core parallel mode)).hall.broker = b ∧
      (h.take image (.done id core parallel mode)).returned.isAnswer = false := by
  have htake : h.take image (.done id core parallel mode) =
      h.close image (.stopped why) b [] := by
    unfold Hall.take
    dsimp only
    rw [hs]
  rw [htake]
  obtain ⟨hbroker, hreturned⟩ := close_keeps image b (.stopped why) ha.quiet
  exact ⟨hbroker, congrArg Returned.isAnswer hreturned⟩

theorem heeds?_done_other (image : Image) {id' : ComponentId} (hne : id' ≠ id) (core : CoreId)
    (parallel : Bool) (mode : MainMode) :
    h.heeds? image id (.done id' core parallel mode) = none := if_neg fun hand => hne hand.1

/-- A call to begin an initialization latches nothing. -/
theorem beginInit_latches (hl : Latches id first b) (id' : ComponentId) (core : CoreId) :
    (beginInit id' core).Leads b (fun _ b' => Latches id first b')
      (fun _ b' => Latches id first b') := by
  refine beginInit_leads.mono ?_ ?_
  · rintro began b' ⟨barrier, hb, ⟨hfresh, -, hbarriers, -, -⟩ | ⟨-, -, rfl⟩⟩
    · by_cases hid : id = id'
      · subst hid
        obtain ⟨hlatch, hphase⟩ := hl.barrier hb
        have hbegun : b'.barriers[id]? = some { barrier with phase := .initializing } := by
          rw [hbarriers, getElem?_insert, if_pos rfl]
        exact .of_barrier hbegun hlatch (iff_of_true (hphase.2 (.inl hfresh)) (.inr rfl))
      · exact hl.of_eq (by rw [hbarriers, getElem?_insert, if_neg hid])
    · exact hl
  · rintro why _ ⟨-, -, rfl⟩
    exact hl

/-- A done signal that is answered latches the core that it comes from, if it is the first
of its component. -/
theorem signalDone_latches (hl : Latches id first b)
    (shut : ∀ barrier, b.barriers[id]? = some barrier → barrier.phase ≠ .main →
      b.scheduler.isReleased id = false)
    (core : CoreId) (parallel : Bool) (mode : MainMode) :
    (signalDone id core parallel mode).Leads b (fun _ b' => Latches id (first.or (some core)) b')
      (fun _ b' => Latches id first b') := by
  refine (signalDone_leads shut core parallel mode).mono ?_ ?_
  · rintro p b' ⟨barrier, hb, ⟨hinit, hg⟩ | ⟨hgathering, hg⟩ | ⟨hmain, -, rfl⟩⟩
    · rw [(hl.barrier hb).2.2 (.inr hinit)]
      exact hg.latches rfl rfl
    · rw [hl.latched hb (by simp [hgathering]) (by simp [hgathering])]
      exact hg.latches rfl hgathering
    · obtain rfl := hl.latched hb (by simp [hmain]) (by simp [hmain])
      exact hl.of_eq rfl
  · rintro why _ ⟨-, -, rfl⟩
    exact hl

/-- A signal of another component latches nothing. -/
theorem signalDone_others (hl : Latches id first b) {id' : ComponentId} (hne : id ≠ id')
    (shut : ∀ barrier, b.barriers[id']? = some barrier → barrier.phase ≠ .main →
      b.scheduler.isReleased id' = false)
    (core : CoreId) (parallel : Bool) (mode : MainMode) :
    (signalDone id' core parallel mode).Leads b (fun _ b' => Latches id first b')
      (fun _ b' => Latches id first b') := by
  refine (signalDone_leads shut core parallel mode).mono ?_ ?_
  · rintro p b' ⟨barrier, hb, ⟨-, hg⟩ | ⟨-, hg⟩ | ⟨-, -, rfl⟩⟩
    · exact hl.of_eq (hg.others hne)
    · exact hl.of_eq (hg.others hne)
    · exact hl.of_eq rfl
  · rintro why _ ⟨-, -, rfl⟩
    exact hl

theorem take_begin_latches (image : Image) (ha : h.Accounts cores ids past)
    (hl : Latches id first h.broker) (id' : ComponentId) (core : CoreId) :
    Latches id first (h.take image (.begin id' core)).hall.broker := by
  unfold Hall.take
  dsimp only
  rcases (beginInit_latches hl id' core).ends with ⟨began, hs, hbegun⟩ | ⟨why, hs, hstopped⟩
  · rw [hs]
    exact (close_keeps image _ _ ha.quiet).1 ▸ hbegun
  · rw [hs]
    exact (close_keeps image _ _ ha.quiet).1 ▸ hstopped

theorem take_done_latches (image : Image) (ha : h.Accounts cores ids past)
    (hl : Latches id first h.broker) (id' : ComponentId) (core : CoreId) (parallel : Bool)
    (mode : MainMode) :
    Latches id (first.or (h.heeds? image id (.done id' core parallel mode)))
      (h.take image (.done id' core parallel mode)).hall.broker := by
  have hshut : ∀ barrier, h.broker.barriers[id']? = some barrier → barrier.phase ≠ .main →
      h.broker.scheduler.isReleased id' = false := fun barrier hb hphase =>
    ha.shut ((ha.stands hb).2.phase ▸ hphase)
  by_cases hid : id' = id
  · subst hid
    rcases (signalDone_latches hl hshut core parallel mode).ends with
      ⟨p, hs, hlatched⟩ | ⟨why, hs, hstopped⟩
    · obtain ⟨hbroker, hanswer⟩ := take_done_of_ok image ha hs
      have hheeds : h.heeds? image id' (.done id' core parallel mode) = some core :=
        if_pos ⟨rfl, hanswer⟩
      rw [hbroker, hheeds]
      exact hlatched
    · obtain ⟨hbroker, hanswer⟩ := take_done_of_error image ha hs
      have hheeds : h.heeds? image id' (.done id' core parallel mode) = none :=
        if_neg fun hand => Bool.false_ne_true (hanswer.symm.trans hand.2)
      rw [hbroker, hheeds, Option.or_none]
      exact hstopped
  · rw [heeds?_done_other image hid, Option.or_none]
    rcases (signalDone_others hl (Ne.symm hid) hshut core parallel mode).ends with
      ⟨p, hs, hkept⟩ | ⟨why, hs, hkept⟩
    · exact (take_done_of_ok image ha hs).1 ▸ hkept
    · exact (take_done_of_error image ha hs).1 ▸ hkept

theorem take_latches (image : Image) (ha : h.Accounts cores ids past)
    (hl : Latches id first h.broker) (signal : Signal) :
    Latches id (first.or (h.heeds? image id signal)) (h.take image signal).hall.broker := by
  cases signal with
  | begin id' core =>
    show Latches id (first.or none) _
    rw [Option.or_none]
    exact take_begin_latches image ha hl id' core
  | done id' core parallel mode => exact take_done_latches image ha hl id' core parallel mode

/-! ### Several calls -/

theorem run_latches (image : Image) (ha : h.Accounts cores ids past)
    (hl : Latches id first h.broker) (signals : List Signal) :
    Latches id (first.or (h.firstCore? image id signals)) (h.run image signals).broker := by
  induction signals generalizing h past first with
  | nil =>
    show Latches id (first.or none) h.broker
    rw [Option.or_none]
    exact hl
  | cons signal rest ih =>
    have hrest := ih ((take_turns image ha signal).accounts ha) (take_latches image ha hl signal)
    rw [Option.or_assoc] at hrest
    exact hrest

/-- What the barrier of a component tells after any calls: the core of the first
done signal that was answered, unless it is the one that stands for none. -/
theorem initCore?_run (image : Image) (b : Broker) (ids : List ComponentId) (cores : Nat)
    (id : ComponentId) (signals : List Signal) :
    ((Hall.opened b ids cores).run image signals).initCore? id =
      ((Hall.opened b ids cores).firstCore? image id signals).filter (· ≠ .unassigned) :=
  initCore?_of_latches
    (run_latches image (accounts_opened b ids cores) (latches_opened b ids cores id) signals)

/-- The init core of a component is latched once and for all: it is that of the
first done signal that is answered, it is not known before, and no later call
changes it. -/
theorem init_core_is_latched (image : Image) (b : Broker) (ids : List ComponentId) (cores : Nat)
    (id : ComponentId) (signals : List Signal)
    (unmarked : (Hall.opened b ids cores).firstCore? image id signals ≠ some .unassigned) :
    ((Hall.opened b ids cores).run image signals).initCore? id =
        (Hall.opened b ids cores).firstCore? image id signals ∧
      ∀ core, (Hall.opened b ids cores).firstCore? image id signals = some core →
        ∀ more, ((Hall.opened b ids cores).run image (signals ++ more)).initCore? id =
          some core := by
  have hkeeps : ∀ first : Option CoreId, first ≠ some .unassigned →
      first.filter (· ≠ .unassigned) = first := fun first hne => by
    cases first with
    | none => rfl
    | some core => simpa using hne
  refine ⟨(initCore?_run ..).trans (hkeeps _ unmarked), fun core hfirst more => ?_⟩
  have hstill : (Hall.opened b ids cores).firstCore? image id (signals ++ more) = some core := by
    rw [Hall.firstCore?_append, hfirst, Option.some_or]
  rw [initCore?_run, hstill]
  exact hkeeps _ (hfirst ▸ unmarked)

/-! ### Which signals are answered -/

/-- Of a component with a barrier, the done signals are answered once its
initialization was begun. -/
theorem heeds?_eq (image : Image) (ha : h.Accounts cores ids past) (listed : id ∈ ids)
    (signal : Signal) : h.heeds? image id signal =
      if (past id).isSome then (signal.arrival? id).map Prod.fst else none := by
  cases signal with
  | begin id' core => exact (ite_self none).symm
  | done id' core parallel mode =>
    by_cases hid : id' = id
    · subst hid
      have harrival : Signal.arrival? id' (.done id' core parallel mode) = some (core, parallel) :=
        if_pos rfl
      have ht := take_turns image ha (.done id' core parallel mode)
      unfold Hall.heeds?
      dsimp only
      rw [harrival]
      generalize h.take image (.done id' core parallel mode) = turn at ht
      cases ht with
      | unbegun nothing => rw [nothing listed]; exact if_neg nofun
      | waits _ before => rw [before]; exact if_pos ⟨rfl, rfl⟩
      | opens _ before => rw [before]; exact if_pos ⟨rfl, rfl⟩
      | late _ before => rw [before]; exact if_pos ⟨rfl, rfl⟩
    · have harrival : Signal.arrival? id (.done id' core parallel mode) = none := if_neg hid
      rw [heeds?_done_other image hid, harrival]
      exact (ite_self none).symm

theorem isSome_hear (id : ComponentId) (calls : Nat) (past : Option (List Done))
    (signal : Signal) : (hear id calls past signal).isSome = (past.isSome || signal.begins id) := by
  cases signal with
  | begin id' core => by_cases hid : id' = id <;> simp [hear, Signal.begins, hid]
  | done id' core parallel mode => by_cases hid : id' = id <;> simp [hear, Signal.begins, hid]

theorem firstCore?_eq (image : Image) (ha : h.Accounts cores ids past) (listed : id ∈ ids)
    (signals : List Signal) : h.firstCore? image id signals =
      if (past id).isSome then ((signals.filterMap (Signal.arrival? id)).map Prod.fst).head?
      else (arrivedCores id signals).head? := by
  induction signals generalizing h past with
  | nil => exact (ite_self none).symm
  | cons signal rest ih =>
    have hrest := ih ((take_turns image ha signal).accounts ha)
    rw [isSome_hear] at hrest
    show (h.heeds? image id signal).or _ = _
    rw [heeds?_eq image ha listed, hrest]
    cases hpast : (past id).isSome with
    | true =>
      cases harrival : signal.arrival? id with
      | none => simp [harrival]
      | some arrival => simp [harrival]
    | false =>
      cases hbegins : signal.begins id with
      | true =>
        have hnone : signal.arrival? id = none := by
          cases signal with
          | begin => rfl
          | done => cases hbegins
        simp [arrivedCores, arrivals, hbegins, hnone]
      | false => simp [arrivedCores, arrivals, hbegins]

/-- So the first of them is the first arrival. -/
theorem firstCore?_opened (image : Image) (b : Broker) (cores : Nat) (listed : id ∈ ids)
    (signals : List Signal) :
    (Hall.opened b ids cores).firstCore? image id signals = (arrivedCores id signals).head? :=
  firstCore?_eq image (accounts_opened b ids cores) listed signals

/-- The second of two cores is done first, and stays the one that initialized the
component. -/
theorem second_core_is_latched :
    ∃ b, (Hall.opened b [⟨5⟩] 2).firstCore? (.bare .small) ⟨5⟩ (gathering [⟨1⟩]) = some ⟨1⟩ ∧
      ∀ more, ((Hall.opened b [⟨5⟩] 2).run (.bare .small)
        (gathering [⟨1⟩] ++ more)).initCore? ⟨5⟩ = some ⟨1⟩ := by
  obtain ⟨b, _⟩ := exists_broker
  have hfirst : (Hall.opened b [⟨5⟩] 2).firstCore? (.bare .small) ⟨5⟩ (gathering [⟨1⟩]) =
      some ⟨1⟩ := firstCore?_opened _ b 2 List.mem_cons_self _
  refine ⟨b, hfirst, (init_core_is_latched _ b [⟨5⟩] 2 ⟨5⟩ (gathering [⟨1⟩]) ?_).2 _ hfirst⟩
  rw [hfirst]
  decide

/-- A first signal from the core that stands for none is answered, and the core
stays unknown. -/
theorem first_core_is_lost :
    ∃ b, (Hall.opened b [⟨5⟩] 2).firstCore? (.bare .small) ⟨5⟩
          (gathering [⟨0xFFFFFFFFFFFFFFFF⟩]) = some ⟨0xFFFFFFFFFFFFFFFF⟩ ∧
      ((Hall.opened b [⟨5⟩] 2).run (.bare .small)
          (gathering [⟨0xFFFFFFFFFFFFFFFF⟩])).initCore? ⟨5⟩ = none := by
  obtain ⟨b, _⟩ := exists_broker
  have hfirst : (Hall.opened b [⟨5⟩] 2).firstCore? (.bare .small) ⟨5⟩
      (gathering [⟨0xFFFFFFFFFFFFFFFF⟩]) = some ⟨0xFFFFFFFFFFFFFFFF⟩ :=
    firstCore?_opened _ b 2 List.mem_cons_self _
  refine ⟨b, hfirst, ?_⟩
  rw [initCore?_run, hfirst]
  exact Option.filter_some_neg (by decide +kernel)

end Service

end CapabilityBroker
