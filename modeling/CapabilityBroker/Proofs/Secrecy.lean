/-
CapabilityBroker/Proofs/Secrecy.lean

Addresses tell nothing of others.

Frames, records and ids come from stores that all components share, but every
component has a heap of its own, and nothing but a mapping into the component that is
answered moves it: not a mapping into another component, not one that was refused half
way, not a thread or a virtual machine that comes.  So the addresses that a component
is given can be computed from the shapes of its own mappings, and two runs in which
these are the same give it the same addresses, whatever else happens in either.
-/
import CapabilityBroker.Proofs.Admission

namespace CapabilityBroker.Service

variable {s : Setting} {image : Image} {i : Invocation} {request : Request} {b b' : Broker}
  {settings : Settings}

/-! ### One request -/

/-- What is about objects maps nothing. -/
theorem award?_of_objects (h : isAboutObjects request = true) (caller : ComponentId)
    (reply : Reply) : request.award? caller reply = none := by
  cases request <;> first | rfl | cases h

/-- What maps nothing, and moves no heap, says so. -/
theorem awards_of_sameHeaps {operation : Operation (Progress Reply)}
    (h : operation.StaysFrom Broker.SameHeaps b)
    (hnone : ∀ reply, request.award? i.caller reply = none) :
    operation.Awards b (Progress.award? i request) := by
  refine Step.Leads.mono h (fun progress b' hsame => ?_) fun _ _ => id
  have hsilent : progress.award? i request = none := by
    cases progress with
    | finished reply => exact hnone reply
    | parked component reply => rfl
  rw [hsilent]
  exact hsame

/-- A request moves a heap if and only if it is answered with a mapping, and then as the
mapping says. -/
theorem perform_awards (image : Image) (i : Invocation) (request : Request)
    (h : b.Tight settings) (hq : b.Quiet) (hh : b.Homed) (hbounded : b.Bounded) :
    (perform image i request).Awards b (Progress.award? i request) := by
  have hdelivers : ∀ {operation : Operation (Progress Reply)} {needs fits : Prop}
      {award : Progress Reply → Option Award},
      operation.Decides b needs fits (fun progress => b.Delivers settings (award progress))
        (b.Delivers settings none) → operation.Awards b award :=
    fun hs => hs.mono (fun _ _ hdone => hdone.2.heaps) fun _ _ hstop => hstop.2.heaps
  by_cases hobjects : isAboutObjects request = true
  · exact awards_of_sameHeaps (objects_sameHeaps.perform image i hobjects b)
      (award?_of_objects hobjects i.caller)
  cases request with
  | translate vaddr =>
    exact awards_of_sameHeaps
      (Step.StaysFrom.map (Step.StaysFrom.map (acting_bind (translate_stays _ vaddr b))))
      fun _ => rfl
  | allocateHeapPages count align =>
    exact hdelivers (heapPages_decide image i count align h hq hh)
  | allocateSharedPages count align =>
    exact hdelivers (sharedPages_decide image i count align h hq hh)
  | allocateContiguousPages count =>
    exact hdelivers (contiguousPages_decide image i count h hq hh hbounded)
  | allocateContiguousShared count align =>
    exact hdelivers (contiguousShared_decide image i count align h hq hh hbounded)
  | mapPhysicalRegion paddr size => exact mapPhysicalRegion_awards paddr size
  | mapSharedSpan span align => exact mapSharedSpan_awards hq span align
  | mapSharedSpanInVm vm span align => exact mapSharedSpanInVm_awards hq vm span align
  | _ => exact absurd rfl hobjects

/-! ### In a run -/

/-- The mapping that a request is answered with. -/
def awardOf? (image : Image) (i : Invocation) (request : Request) (b : Broker) : Option Award :=
  match perform image i request b with
  | .ok progress _ => progress.award? i request
  | .error _ _ => none

/-- The mapping that an action is answered with. -/
def Action.award? (image : Image) : Action → Broker → Option Award
  | .request i request, b => awardOf? image i request b
  | .parallelInit .., _ => none
  | .parallelMain _, _ => none

/-- Where no fault is planned, an action moves a heap as its mapping says. -/
theorem Action.awards (h : Reached s image b) (hfaults : s.faults = []) (action : Action) :
    b.kernel.Awards (action.award? image b) (action.after image b).kernel := by
  obtain ⟨horderly, hh, hquiet⟩ := h.orderly
  cases action with
  | request i request =>
    have hperform := (Step.leads_self _ b).and (perform_awards image i request
      (h.tight hfaults) (hquiet hfaults) hh horderly.accounted.bounded)
    refine dispatch_final (P := fun b' => b.kernel.Awards (awardOf? image i request b) b'.kernel)
      (fun _ _ => id) (hperform.mono ?_ ?_)
    · rintro progress b' ⟨hend, hawards⟩
      unfold awardOf?
      rw [hend]
      exact hawards
    · rintro why b' ⟨hend, hsame⟩
      unfold awardOf?
      rw [hend]
      exact hsame
  | parallelInit core isInitCore =>
    exact (objects_sameHeaps.parallelInit image core isInitCore b).final
  | parallelMain core => exact (parallelMain_signals objects_sameHeaps.signals image core b).final

/-- The mappings that actions are answered with, in their order. -/
def awardsFrom (image : Image) : Broker → List Action → List Award
  | _, [] => []
  | b, action :: rest =>
    (action.award? image b).toList ++ awardsFrom image (action.after image b) rest

/-- The mappings into a component, in their order. -/
def awardsInto (c : ComponentId) (awards : List Award) : List Award :=
  awards.filter fun award => award.into = c

/-- The addresses that a component is given follow from the shapes of its mappings. -/
theorem vaddrs_eq_addresses (h : Reached s image b) (hfaults : s.faults = []) (c : ComponentId)
    (actions : List Action) :
    (awardsInto c (awardsFrom image b actions)).map Award.vaddr =
      Shape.addresses (b.kernel.heapAt c)
        ((awardsInto c (awardsFrom image b actions)).map Award.shape) := by
  induction actions generalizing b with
  | nil => rfl
  | cons action actions ih =>
    have hstep := action.awards h hfaults
    have hrest := ih (h.act action)
    unfold awardsFrom
    cases haward : action.award? image b with
    | none =>
      rw [haward] at hstep
      rw [hstep c] at hrest
      exact hrest
    | some award =>
      rw [haward] at hstep
      unfold awardsInto at hrest ⊢
      by_cases hinto : award.into = c
      · have hplaced := hstep.placed
        rw [hinto] at hplaced
        rw [Option.toList_some, List.singleton_append, List.filter_cons_of_pos (by simpa),
          List.map_cons, List.map_cons, hrest, Shape.addresses_cons hplaced]
      · rw [hstep.others c hinto] at hrest
        rwa [Option.toList_some, List.singleton_append, List.filter_cons_of_neg (by simpa)]

/-- The mappings that a run is answered with, if its start succeeds. -/
def Setting.awards (s : Setting) (actions : List Action) : Option (List Award) :=
  (s.run []).map fun start => awardsFrom start.1 start.2 actions

/-- Addresses tell nothing of others.  In two runs on the same machine, without faults,
let a component be given mappings of the same shapes in the same order: as many frames
at the same alignment, or as many bytes of device memory at the same offset in a page.
Then it is given them at the same addresses, whatever is asked for, granted and refused
in between. -/
theorem addresses_tell_nothing_of_others (hfaults : s.faults = []) {actions actions' : List Action}
    {awards awards' : List Award} (hrun : s.awards actions = some awards)
    (hrun' : s.awards actions' = some awards') (c : ComponentId)
    (hsame : (awardsInto c awards).map Award.shape = (awardsInto c awards').map Award.shape) :
    (awardsInto c awards).map Award.vaddr = (awardsInto c awards').map Award.vaddr := by
  obtain ⟨⟨image, b⟩, hstart, rfl⟩ := Option.map_eq_some_iff.1 hrun
  obtain ⟨start', hstart', rfl⟩ := Option.map_eq_some_iff.1 hrun'
  obtain rfl := Option.some.inj (hstart.symm.trans hstart')
  have h := reached_of_run hstart
  rw [vaddrs_eq_addresses h hfaults c actions, vaddrs_eq_addresses h hfaults c actions', hsame]

/-- The client maps pages and a device, and more pages at an alignment of two
mebibytes. -/
def Setting.quietDay : List Action :=
  [.request ⟨⟨5⟩, ⟨0⟩⟩ (.allocateHeapPages 2 none),
    .request ⟨⟨5⟩, ⟨0⟩⟩ (.mapPhysicalRegion ⟨0xFEE00123⟩ 5000),
    .request ⟨⟨5⟩, ⟨0⟩⟩ (.allocateHeapPages 3 (some 0x200000))]

/-- It does so again, with other pages and another device, while all the others are
busy, and after it was refused twice.  The span that it maps it has mapped into a
virtual machine before. -/
def Setting.crowdedDay : List Action :=
  [.parallelInit ⟨0⟩ true,
    .request ⟨⟨6⟩, ⟨0⟩⟩ (.allocateSharedPages 3 none),
    .request ⟨⟨5⟩, ⟨0⟩⟩ (.allocateHeapPages 0 none),
    .request ⟨⟨5⟩, ⟨0⟩⟩ .createVmComponent,
    .request ⟨⟨5⟩, ⟨0⟩⟩ (.allocateContiguousPages 2),
    .request ⟨⟨5⟩, ⟨0⟩⟩ (.mapSharedSpanInVm ⟨1⟩ 1 none),
    .request ⟨⟨7⟩, ⟨0⟩⟩ (.allocateHeapPages 100 none),
    .request ⟨⟨5⟩, ⟨0⟩⟩ (.mapPhysicalRegion ⟨0xC0000123⟩ 5000),
    .request ⟨⟨5⟩, ⟨0⟩⟩ (.allocateHeapPages 1000 none),
    .request ⟨⟨6⟩, ⟨0⟩⟩ (.createReceiveEndpoint ⟨1⟩ ⟨0⟩),
    .request ⟨⟨5⟩, ⟨0⟩⟩ (.mapSharedSpan 1 (some 0x200000))]

/-- The client cannot tell the two days apart by its addresses. -/
theorem crowded_day_looks_quiet :
    ∃ quiet crowded, Setting.ordinary.awards Setting.quietDay = some quiet ∧
      Setting.ordinary.awards Setting.crowdedDay = some crowded ∧
      quiet.length = 3 ∧ crowded.length = 6 ∧
      (awardsInto ⟨5⟩ crowded).map Award.vaddr = (awardsInto ⟨5⟩ quiet).map Award.vaddr ∧
      (awardsInto ⟨5⟩ quiet).map Award.vaddr = [⟨0x40000000⟩, ⟨0x40002123⟩, ⟨0x40200000⟩] := by
  have hquiet : (Setting.ordinary.awards Setting.quietDay).any (fun awards => awards.length = 3 ∧
      (awardsInto ⟨5⟩ awards).map Award.shape =
        [.frames 2 4096, .device 5000 0x123, .frames 3 0x200000] ∧
      (awardsInto ⟨5⟩ awards).map Award.vaddr =
        [⟨0x40000000⟩, ⟨0x40002123⟩, ⟨0x40200000⟩]) = true := by decide +kernel
  have hcrowded : (Setting.ordinary.awards Setting.crowdedDay).any (fun awards =>
      awards.length = 6 ∧ (awardsInto ⟨5⟩ awards).map Award.shape =
          [.frames 2 4096, .device 5000 0x123, .frames 3 0x200000]) = true := by decide +kernel
  obtain ⟨quiet, hrun, hshows⟩ := (Option.any_eq_true _ _).1 hquiet
  obtain ⟨crowded, hrun', hshows'⟩ := (Option.any_eq_true _ _).1 hcrowded
  obtain ⟨hthree, hshapes, hvaddrs⟩ := of_decide_eq_true hshows
  obtain ⟨hsix, hshapes'⟩ := of_decide_eq_true hshows'
  exact ⟨quiet, crowded, hrun, hrun', hthree, hsix,
    addresses_tell_nothing_of_others rfl hrun' hrun ⟨5⟩ (hshapes'.trans hshapes.symm), hvaddrs⟩

end CapabilityBroker.Service
