/-
CapabilityBroker/Proofs/Arrivals.lean

Whose arrivals open a barrier.

A barrier that waits for all cores counts the done signals that its component
hears, and the core a signal comes from plays no part in the count.  So the
barrier is open as soon as there were as many signals as there are cores
(`isOpen_run_iff`), and it then stands for all cores exactly if none of the
signals that were counted repeats a core.
-/
import Mathlib.Data.Finset.Card
import CapabilityBroker.Proofs.Gathering

namespace CapabilityBroker.Service

variable {image : Image} {b : Broker} {ids : List ComponentId} {cores : Nat} {id : ComponentId}
variable {signals past : List Signal}

/-! ### Arrivals -/

/-- Whether the call begins the initialization of a component. -/
def Signal.begins (id : ComponentId) : Signal → Bool
  | .begin id' _ => id' = id
  | .done .. => false

/-- The core that a done signal of a component comes from, and whether the signal
asks that the other cores initialize too. -/
def Signal.arrival? (id : ComponentId) : Signal → Option (CoreId × Bool)
  | .begin .. => none
  | .done id' core parallel _ => if id' = id then some (core, parallel) else none

/-- The done signals of a component after its initialization was begun. -/
def arrivals (id : ComponentId) (signals : List Signal) : List (CoreId × Bool) :=
  (signals.dropWhile fun s => !s.begins id).filterMap (Signal.arrival? id)

/-- The cores that these signals came from, one for each signal. -/
def arrivedCores (id : ComponentId) (signals : List Signal) : List CoreId :=
  (arrivals id signals).map Prod.fst

/-- Whether the first of these signals asks all cores to initialize. -/
def FirstIsParallel (id : ComponentId) (signals : List Signal) : Prop :=
  (arrivals id signals).head?.map Prod.snd = some true

/-- The barrier of a component is open. -/
def Hall.IsOpen (h : Hall) (id : ComponentId) : Prop :=
  h.broker.barriers[id]?.map Barrier.phase = some .main

/-- One more call brings one more arrival at most. -/
theorem arrivals_concat (id : ComponentId) (signals : List Signal) (signal : Signal) :
    ∃ more, arrivals id (signals ++ [signal]) = arrivals id signals ++ more ∧ more.length ≤ 1 := by
  have hshort : ∀ l : List Signal, l.length ≤ 1 →
      (l.filterMap (Signal.arrival? id)).length ≤ 1 := fun l hl =>
    Nat.le_trans (List.length_filterMap_le _ l) hl
  unfold arrivals
  rw [List.dropWhile_append]
  split
  · next hnone =>
    have hlength := (List.dropWhile_sublist (l := [signal]) fun s => !s.begins id).length_le
    refine ⟨_, ?_, hshort _ hlength⟩
    rw [List.isEmpty_iff.1 hnone]
    rfl
  · exact ⟨_, List.filterMap_append, hshort [signal] (Nat.le_refl 1)⟩

theorem arrivals_of_isPrefix (id : ComponentId) (h : past <+: signals) :
    arrivals id past <+: arrivals id signals := by
  obtain ⟨rest, rfl⟩ := h
  induction rest using List.reverseRecOn with
  | nil => rw [List.append_nil]
  | append_singleton rest signal ih =>
    obtain ⟨more, hmore, _⟩ := arrivals_concat id (past ++ rest) signal
    rw [← List.append_assoc, hmore]
    exact ih.trans (List.prefix_append _ more)

/-- There was a moment at which exactly so many had arrived. -/
theorem exists_prefix_of_arrivals {count : Nat} (h : count ≤ (arrivals id signals).length) :
    ∃ past, past <+: signals ∧ arrivals id past = (arrivals id signals).take count := by
  induction signals using List.reverseRecOn with
  | nil => exact ⟨[], List.prefix_refl [], (List.take_nil).symm⟩
  | append_singleton signals signal ih =>
    obtain ⟨more, hmore, hshort⟩ := arrivals_concat id signals signal
    rcases Nat.lt_or_ge (arrivals id signals).length count with hlt | hle
    · refine ⟨signals ++ [signal], List.prefix_refl _, (List.take_of_length_le ?_).symm⟩
      rw [hmore, List.length_append]
      omega
    · obtain ⟨past, hpast, htake⟩ := ih hle
      refine ⟨past, hpast.trans (List.prefix_append signals [signal]), ?_⟩
      rw [htake, hmore, List.take_append_of_le_length hle]

theorem arrivedCores_of_isPrefix (id : ComponentId) (h : past <+: signals) :
    arrivedCores id past <+: arrivedCores id signals := (arrivals_of_isPrefix id h).map Prod.fst

theorem length_arrivedCores : (arrivedCores id signals).length = (arrivals id signals).length :=
  List.length_map ..

/-! ### Arrivals and what is heard -/

theorem map_parallel_heardFrom_some (id : ComponentId) (signals : List Signal) (calls : Nat)
    (dones : List Done) :
    (heardFrom id calls (some dones) signals).map (List.map Done.parallel) =
      some (dones.map Done.parallel ++ (signals.filterMap (Signal.arrival? id)).map Prod.snd) := by
  induction signals generalizing calls dones with
  | nil => simp [heardFrom]
  | cons signal rest ih =>
    cases signal with
    | begin id' core =>
      by_cases hid : id' = id <;>
        simp [heardFrom, hear, Signal.arrival?, List.filterMap_cons, hid, ih]
    | done id' core parallel mode =>
      by_cases hid : id' = id <;>
        simp [heardFrom, hear, Signal.arrival?, hid, ih]

/-- A component hears its arrivals, in order. -/
theorem map_parallel_heard (id : ComponentId) (signals : List Signal) :
    ((heard id signals).getD []).map Done.parallel = (arrivals id signals).map Prod.snd := by
  suffices h : ∀ calls, ((heardFrom id calls none signals).getD []).map Done.parallel =
      (arrivals id signals).map Prod.snd from h 0
  induction signals with
  | nil => exact fun _ => rfl
  | cons signal rest ih =>
    intro calls
    cases signal with
    | begin id' core =>
      by_cases hid : id' = id
      · have hsome := map_parallel_heardFrom_some id rest (calls + 1) []
        obtain ⟨dones, hdones, hparallel⟩ := Option.map_eq_some_iff.1 hsome
        simp [heardFrom, hear, arrivals, Signal.begins, Signal.arrival?, List.filterMap_cons, hid,
          hdones, hparallel]
      · simpa [heardFrom, hear, arrivals, Signal.begins, hid] using ih (calls + 1)
    | done id' core parallel mode =>
      simpa [heardFrom, hear, arrivals, Signal.begins] using ih (calls + 1)

theorem phaseOf_eq_main_iff {past : Option (List Done)} : phaseOf cores past = .main ↔
    quota cores (past.getD []) ≤ (past.getD []).length := by
  constructor
  · intro h
    obtain ⟨dones, rfl, _, hcomplete⟩ := complete_of_phaseOf h
    exact hcomplete
  · intro h
    have hne : past.getD [] ≠ [] := by
      intro hnil
      rw [hnil] at h
      exact absurd (quota_pos cores []) (Nat.not_le.2 (Nat.lt_succ_of_le h))
    cases past with
    | none => exact absurd rfl hne
    | some dones => exact (phaseOf_of_ne_nil hne).trans (if_neg (Nat.not_lt.2 h))

/-- A barrier that waits for all cores waits for as many arrivals as there are
cores. -/
theorem quota_eq {dones : List Done} (hpos : 1 ≤ cores)
    (h : ∀ parallel, (dones.map Done.parallel).head? = some parallel → parallel = true) :
    quota cores dones = cores := by
  cases dones with
  | nil => exact Nat.max_eq_left hpos
  | cons first rest =>
    have hfirst : first.parallel = true := h _ rfl
    show (if first.parallel then max cores 1 else 1) = cores
    rw [if_pos hfirst, Nat.max_eq_left hpos]

/-- It is open as soon as that many have arrived. -/
theorem isOpen_run_iff (image : Image) (b : Broker) (hpos : 1 ≤ cores) (listed : id ∈ ids)
    (hparallel : ∀ parallel, ((arrivals id signals).map Prod.snd).head? = some parallel →
      parallel = true) :
    ((Hall.opened b ids cores).run image signals).IsOpen id ↔
      cores ≤ (arrivedCores id signals).length := by
  obtain ⟨haccounts, _⟩ := (accounts_opened b ids cores).run image signals
  obtain ⟨barrier, hbarrier, hstands⟩ := haccounts.barrier id listed
  have hlength : ((heard id signals).getD []).length = (arrivedCores id signals).length := by
    have hmap := congrArg List.length (map_parallel_heard id signals)
    rw [List.length_map, List.length_map] at hmap
    exact hmap.trans length_arrivedCores.symm
  have hquota : quota cores ((heard id signals).getD []) = cores :=
    quota_eq hpos (by rw [map_parallel_heard]; exact hparallel)
  unfold Hall.IsOpen
  rw [hbarrier, Option.map_some, Option.some.injEq, hstands.phase]
  refine phaseOf_eq_main_iff.trans ?_
  show quota cores ((heard id signals).getD []) ≤ ((heard id signals).getD []).length ↔ _
  rw [hquota, hlength]

/-! ### Distinct cores -/

/-- A barrier that waits for all cores opens with the signal that completes their
number, whichever cores the signals come from.  It is open only after signals
from as many different cores, at every moment of a run, if and only if no core is
twice among the signals that were counted. -/
theorem open_barrier_heard_all_cores_iff (image : Image) (b : Broker) (hpos : 1 ≤ cores)
    (listed : id ∈ ids) (hparallel : FirstIsParallel id signals) :
    (∀ past, past <+: signals → (((Hall.opened b ids cores).run image past).IsOpen id ↔
      cores ≤ (arrivedCores id past).length)) ∧
    ((∀ past, past <+: signals → ((Hall.opened b ids cores).run image past).IsOpen id →
        cores ≤ (arrivedCores id past).toFinset.card) ↔
      (cores ≤ (arrivedCores id signals).length →
        ((arrivedCores id signals).take cores).Nodup)) := by
  have hopen : ∀ past, past <+: signals →
      (((Hall.opened b ids cores).run image past).IsOpen id ↔
        cores ≤ (arrivedCores id past).length) := by
    intro past hpast
    refine isOpen_run_iff image b hpos listed fun parallel hhead => ?_
    -- The first signal of a part of the run is the first of the whole.
    obtain ⟨rest, hrest⟩ := (arrivals_of_isPrefix id hpast).map Prod.snd
    unfold FirstIsParallel at hparallel
    rw [← List.head?_map, ← hrest, List.head?_append, hhead] at hparallel
    exact Option.some.inj hparallel
  refine ⟨hopen, fun hdistinct hlength => ?_, fun hnodup past hpast hisOpen => ?_⟩
  · rw [length_arrivedCores] at hlength
    obtain ⟨past, hpast, htake⟩ := exists_prefix_of_arrivals hlength
    have hcores : arrivedCores id past = (arrivedCores id signals).take cores := by
      unfold arrivedCores
      rw [htake, List.map_take]
    have hcount : (arrivedCores id past).length = cores := by
      rw [hcores, List.length_take, length_arrivedCores, Nat.min_eq_left hlength]
    have hcard := hdistinct past hpast ((hopen past hpast).2 (Nat.le_of_eq hcount.symm))
    rw [← hcores, ← List.dedup_eq_self]
    refine (List.dedup_sublist _).eq_of_length_le ?_
    rwa [hcount, ← List.card_toFinset]
  · have hlength := (hopen past hpast).1 hisOpen
    have hprefix := arrivedCores_of_isPrefix id hpast
    have htake : (arrivedCores id past).take cores = (arrivedCores id signals).take cores := by
      obtain ⟨rest, hrest⟩ := hprefix
      rw [← hrest, List.take_append_of_le_length hlength]
    have hnodup := hnodup (Nat.le_trans hlength hprefix.length_le)
    rw [← htake] at hnodup
    calc cores = ((arrivedCores id past).take cores).length := by
          rw [List.length_take, Nat.min_eq_left hlength]
      _ = ((arrivedCores id past).take cores).toFinset.card :=
          (List.toFinset_card_of_nodup hnodup).symm
      _ ≤ (arrivedCores id past).toFinset.card :=
          Finset.card_le_card fun core hcore =>
            List.mem_toFinset.2 (List.mem_of_mem_take (List.mem_toFinset.1 hcore))

/-- Some broker, on the standard machine. -/
theorem exists_broker : ∃ b : Broker, b.components.active = 0 := by
  have hcreate : (Kernel.create? ⟨2⟩ .standard []).isSome = true := by decide +kernel
  obtain ⟨kernel, _⟩ := Option.isSome_iff_exists.1 hcreate
  exact ⟨.create kernel, rfl⟩

/-- A component is begun, and then a thread of it is done on each of these
cores. -/
def gathering (cores : List CoreId) : List Signal :=
  .begin ⟨5⟩ ⟨0⟩ :: cores.map fun core => .done ⟨5⟩ core true .parallel

/-- Threads on the two cores of a machine open the barrier together. -/
theorem two_cores_open :
    ∃ b, FirstIsParallel ⟨5⟩ (gathering [⟨0⟩, ⟨1⟩, ⟨0⟩]) ∧
      ((Hall.opened b [⟨5⟩] 2).run (.bare .small) (gathering [⟨0⟩, ⟨1⟩, ⟨0⟩])).IsOpen ⟨5⟩ ∧
      2 ≤ (arrivedCores ⟨5⟩ (gathering [⟨0⟩, ⟨1⟩, ⟨0⟩])).toFinset.card := by
  obtain ⟨b, _⟩ := exists_broker
  have hparallel : FirstIsParallel ⟨5⟩ (gathering [⟨0⟩, ⟨1⟩, ⟨0⟩]) := rfl
  have hall := open_barrier_heard_all_cores_iff (.bare .small) b (show 1 ≤ 2 by decide)
    (List.mem_cons_self : _ ∈ [⟨5⟩]) hparallel
  have hopen := (hall.1 _ (List.prefix_refl _)).2 (by decide)
  exact ⟨b, hparallel, hopen, hall.2.2 (fun _ => by decide) _ (List.prefix_refl _) hopen⟩

/-- Two threads on one core open a barrier that waits for two cores. -/
theorem one_core_opens_for_two :
    ∃ b, 1 ≤ 2 ∧ FirstIsParallel ⟨5⟩ (gathering [⟨0⟩, ⟨0⟩]) ∧
      ((Hall.opened b [⟨5⟩] 2).run (.bare .small) (gathering [⟨0⟩, ⟨0⟩])).IsOpen ⟨5⟩ ∧
      ∀ core, (∃ parallel mode, .done ⟨5⟩ core parallel mode ∈ gathering [⟨0⟩, ⟨0⟩]) →
        core = ⟨0⟩ := by
  obtain ⟨b, _⟩ := exists_broker
  refine ⟨b, by decide, rfl, ?_, ?_⟩
  · refine (isOpen_run_iff _ b (by decide) List.mem_cons_self fun parallel hhead => ?_).2
      (by decide)
    exact (Option.some.inj hhead).symm
  · rintro core ⟨parallel, mode, hmem⟩
    simp only [gathering, List.map_cons, List.map_nil, List.mem_cons, List.not_mem_nil,
      reduceCtorEq, Signal.done.injEq, true_and, or_false, false_or, or_self] at hmem
    exact hmem.1

end CapabilityBroker.Service
