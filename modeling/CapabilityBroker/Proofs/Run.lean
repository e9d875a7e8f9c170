/-
CapabilityBroker/Proofs/Run.lean

Runs of a started broker.

A run begins with a boot that succeeds on a fresh kernel.  After that anyone
may do anything at any time: a component may make a request on any core, and a
core may do its part of the start.  An action that is refused, or that aborts
its thread, leaves a state too, and the run goes on from there.
-/
import CapabilityBroker.Manifest.Draft
import CapabilityBroker.Proofs.Outcome
import CapabilityBroker.Service.Boot
import CapabilityBroker.Service.Dispatch

namespace CapabilityBroker.Service

/-- What can happen to a broker that has started. -/
inductive Action where
  | request (i : Invocation) (r : Request)
  | parallelInit (core : CoreId) (isInitCore : Bool)
  | parallelMain (core : CoreId)

/-- The state that an action leaves, whatever it comes to. -/
def Action.after (image : Image) : Action → Broker → Broker
  | .request i r => (dispatch image i r).final
  | .parallelInit core isInitCore => (Service.parallelInit image core isInitCore).final
  | .parallelMain core => (Service.parallelMain image core).final

/-- What a run is about: the machine, the faults planned for it, and the image
that it was started from. -/
structure Setting where
  selfId : ComponentId
  layout : Kernel.Layout
  faults : List Kernel.Fault
  settings : Settings
  manifest : Manifest

/-- The states of the runs in a setting.  Each of its pools has fewer slots than
`Pool.capacityLimit` (`Settings.PoolsFit`): with a larger one the boot aborts when it
makes the pools, and no state is reached. -/
inductive Reached (s : Setting) (image : Image) : Broker → Prop where
  | boot {kernel : Kernel} {b : Broker}
      (created : Kernel.create? s.selfId s.layout s.faults = some kernel)
      (booted : boot s.settings s.manifest (.create kernel) = .ok image b) : Reached s image b
  | act {b : Broker} (action : Action) (before : Reached s image b) :
      Reached s image (action.after image b)

/-! ### How actions end -/

/-- Why an action stops, if it does. -/
def Action.stop? (image : Image) : Action → Broker → Option (Stop Defect)
  | .request i r, b => (dispatch image i r).stop? b
  | .parallelInit core isInitCore, b => (Service.parallelInit image core isInitCore).stop? b
  | .parallelMain core, b => (Service.parallelMain image core).stop? b

/-- The action came to its end. -/
def answered (stop : Option (Stop Defect)) : Bool := stop.isNone

/-- The action showed no defect, though it may have aborted. -/
def noDefect : Option (Stop Defect) → Bool
  | some (.refused _) => false
  | _ => true

/-- The states of the runs in a setting in which every action ends in one of
these ways. -/
inductive ReachedBy (ends : Option (Stop Defect) → Bool) (s : Setting) (image : Image) :
    Broker → Prop where
  | boot {kernel : Kernel} {b : Broker}
      (created : Kernel.create? s.selfId s.layout s.faults = some kernel)
      (booted : boot s.settings s.manifest (.create kernel) = .ok image b) :
      ReachedBy ends s image b
  | act {b : Broker} (action : Action) (before : ReachedBy ends s image b)
      (ended : ends (action.stop? image b) = true) : ReachedBy ends s image (action.after image b)

namespace ReachedBy

variable {ends ends' : Option (Stop Defect) → Bool} {s : Setting} {image : Image} {b : Broker}

theorem reached (h : ReachedBy ends s image b) : Reached s image b := by
  induction h with
  | boot created booted => exact .boot created booted
  | act action _ _ ih => exact .act action ih

theorem mono (h : ReachedBy ends s image b) (hends : ∀ stop, ends stop = true → ends' stop = true) :
    ReachedBy ends' s image b := by
  induction h with
  | boot created booted => exact .boot created booted
  | act action _ hstop ih => exact .act action ih (hends _ hstop)

end ReachedBy

/-! ### Runs that are computed -/

/-- The state after a list of actions, and the image, if the boot succeeds. -/
def Setting.run (s : Setting) (actions : List Action) : Option (Image × Broker) :=
  (Kernel.create? s.selfId s.layout s.faults).bind fun kernel =>
    match boot s.settings s.manifest (.create kernel) with
    | .ok image b => some (image, actions.foldl (fun b action => action.after image b) b)
    | .error _ _ => none

/-- A run comes from a start. -/
theorem boot_of_run {s : Setting} {image : Image} {b : Broker} {actions : List Action}
    (h : s.run actions = some (image, b)) :
    ∃ kernel first, Kernel.create? s.selfId s.layout s.faults = some kernel ∧
      boot s.settings s.manifest (.create kernel) = .ok image first ∧
      b = actions.foldl (fun b action => action.after image b) first := by
  obtain ⟨kernel, hkernel, h⟩ := Option.bind_eq_some_iff.1 h
  split at h
  · next hboot =>
    cases Option.some.inj h
    exact ⟨kernel, _, hkernel, hboot, rfl⟩
  · cases h

theorem run_of_boot {s : Setting} {image : Image} {kernel : Kernel} {first : Broker}
    (actions : List Action)
    (created : Kernel.create? s.selfId s.layout s.faults = some kernel)
    (booted : boot s.settings s.manifest (.create kernel) = .ok image first) :
    s.run actions = some (image, actions.foldl (fun b action => action.after image b) first) := by
  unfold Setting.run
  rw [created, Option.bind_some, booted]

theorem reached_foldl {s : Setting} {image : Image} {b : Broker} (h : Reached s image b)
    (actions : List Action) :
    Reached s image (actions.foldl (fun b action => action.after image b) b) := by
  induction actions generalizing b with
  | nil => exact h
  | cons action actions ih => exact ih (.act action h)

theorem reached_of_run {s : Setting} {actions : List Action} {image : Image} {b : Broker}
    (h : s.run actions = some (image, b)) : Reached s image b := by
  obtain ⟨kernel, first, hkernel, hboot, rfl⟩ := boot_of_run h
  exact reached_foldl (.boot hkernel hboot) actions

/-- What a computed run shows is true of a state of a run. -/
theorem exists_reached {s : Setting} {actions : List Action} {shows : Image × Broker → Bool}
    (h : (s.run actions).any shows = true) :
    ∃ image b, Reached s image b ∧ shows (image, b) = true := by
  obtain ⟨⟨image, b⟩, hrun, hshows⟩ := (Option.any_eq_true _ _).1 h
  exact ⟨image, b, reached_of_run hrun, hshows⟩

/-- The state after a list of actions, if each of them ends in one of these
ways. -/
def Setting.runWhile (s : Setting) (ends : Option (Stop Defect) → Bool) (actions : List Action) :
    Option (Image × Broker) :=
  (Kernel.create? s.selfId s.layout s.faults).bind fun kernel =>
    match boot s.settings s.manifest (.create kernel) with
    | .ok image b => (go image b actions).map fun b => (image, b)
    | .error _ _ => none
where
  /-- Go on with the rest of the actions. -/
  go (image : Image) (b : Broker) : List Action → Option Broker
    | [] => some b
    | action :: actions =>
      if ends (action.stop? image b) then go image (action.after image b) actions else none

theorem reachedBy_of_go {s : Setting} {ends : Option (Stop Defect) → Bool} {image : Image}
    {b b' : Broker} {actions : List Action} (h : ReachedBy ends s image b)
    (hgo : Setting.runWhile.go ends image b actions = some b') : ReachedBy ends s image b' := by
  induction actions generalizing b with
  | nil => exact Option.some.inj hgo ▸ h
  | cons action actions ih =>
    unfold Setting.runWhile.go at hgo
    split at hgo
    · next hends => exact ih (.act action h hends) hgo
    · cases hgo

theorem exists_reachedBy {s : Setting} {ends : Option (Stop Defect) → Bool}
    {actions : List Action} {shows : Image × Broker → Bool}
    (h : (s.runWhile ends actions).any shows = true) :
    ∃ image b, ReachedBy ends s image b ∧ shows (image, b) = true := by
  obtain ⟨⟨image, b⟩, hrun, hshows⟩ := (Option.any_eq_true _ _).1 h
  obtain ⟨kernel, hkernel, hrun⟩ := Option.bind_eq_some_iff.1 hrun
  split at hrun
  · next hboot =>
    obtain ⟨b', hgo, heq⟩ := Option.map_eq_some_iff.1 hrun
    cases heq
    exact ⟨image, b, reachedBy_of_go (.boot hkernel hboot) hgo, hshows⟩
  · cases hrun

/-- A client, its scheduler and a bystander, in small pools on the standard
machine. -/
def Setting.ordinary : Setting where
  selfId := ⟨2⟩
  layout := .standard
  faults := []
  settings := .small
  manifest := Draft.clientAndScheduler.manifest

end CapabilityBroker.Service
