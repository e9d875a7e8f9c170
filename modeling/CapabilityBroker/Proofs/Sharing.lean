/-
CapabilityBroker/Proofs/Sharing.lean

Memory is shared through spans.

What the page tables show of a page is what its record says, except where the
broker itself looks, as long as two things do not happen.  The device memory
that a component asks for may be memory that the machine hands out, and then the
component sees whatever page has the frame.  And a span whose mapping overruns
its address space leaves entries behind that were never noted.  In runs without
either, a component comes to see a page that is there only by mapping its span.
-/
import CapabilityBroker.Proofs.Memory.Noted
import CapabilityBroker.Proofs.Whole

namespace CapabilityBroker.Service

variable {s : Setting} {image : Image} {b b' : Broker} {k n : Nat} {page : Page} {c : ComponentId}

/-! ### Undisturbed runs -/

/-- An action that is not one of the two: device memory that is asked for is none
of the memory that the machine hands out, and no mapping of a span aborts. -/
def Action.Clean (s : Setting) (image : Image) (b : Broker) : Action → Prop
  | .request _ (.mapPhysicalRegion paddr size) =>
    ∀ frame, Kernel.Covers paddr size frame → ¬ s.layout.HandsOut frame
  | .request i (.mapSharedSpan span align) => ¬ Aborts image b i (.mapSharedSpan span align)
  | .request i (.mapSharedSpanInVm vm span align) =>
    ¬ Aborts image b i (.mapSharedSpanInVm vm span align)
  | _ => True

/-- The states of the runs in a setting whose actions are clean. -/
inductive Undisturbed (s : Setting) (image : Image) : Broker → Prop where
  | boot {kernel : Kernel} {b : Broker}
      (created : Kernel.create? s.selfId s.layout s.faults = some kernel)
      (booted : boot s.settings s.manifest (.create kernel) = .ok image b) :
      Undisturbed s image b
  | act {b : Broker} (action : Action) (clean : action.Clean s image b)
      (before : Undisturbed s image b) : Undisturbed s image (action.after image b)

theorem Undisturbed.reached (h : Undisturbed s image b) : Reached s image b := by
  induction h with
  | boot created booted => exact .boot created booted
  | act action _ _ ih => exact .act action ih

/-- What a clean action leaves without note is nothing that the machine hands
out. -/
theorem Action.Clean.strays {action : Action} (h : action.Clean s image b) {frame : Paddr}
    (hstray : action.strays image b c n frame) : ¬ s.layout.HandsOut frame := by
  cases action with
  | request i r =>
    cases r with
    | mapPhysicalRegion paddr size => exact h frame hstray.2
    | mapSharedSpan span align => exact absurd hstray h
    | mapSharedSpanInVm vm span align => exact absurd hstray h
    | _ => exact hstray.elim
  | parallelInit core isInitCore => exact hstray.elim
  | parallelMain core => exact hstray.elim

/-- When the pools are made the page tables are empty. -/
theorem Made.noted {kernel : Kernel} {made : Broker} {own : ComponentId}
    (hc : Kernel.create? s.selfId s.layout s.faults = some kernel)
    (h : Made s.settings (.create kernel) made) : made.Noted own := by
  have hempty : ∀ c n, made.kernel.frameAt? c n = none := by
    obtain ⟨space, hthere, ⟨hpages, _⟩, _⟩ := Kernel.space?_of_create? hc
    intro c n
    rw [h.kernel]
    show (kernel.space? c).bind _ = none
    rw [hthere]
    split
    · simp [hpages]
    · rfl
  constructor
  · intro c n frame m _ hframe
    cases (hempty c n).symm.trans hframe
  · intro k page c n _ _ hframe
    cases (hempty c n).symm.trans hframe

/-- Every entry with the frame of a page is noted, but for the broker's own. -/
theorem Undisturbed.noted (h : Undisturbed s image b) (faultless : s.faults = []) :
    b.Noted s.settings.selfId := by
  induction h with
  | @boot kernel b created booted =>
    suffices hall : b.Orderly ∧ b.Quiet ∧ b.Noted s.settings.selfId from hall.2.2
    refine (boot_upholds (I := fun b => b.Orderly ∧ b.Quiet ∧ b.Noted s.settings.selfId)
      ?_ ?_).of_ok booted
    · intro made hmade
      obtain ⟨horderly, _, hquiet⟩ := hmade.orderly created
      exact ⟨horderly, hquiet faultless, hmade.noted created⟩
    · rintro b b' hstep ⟨horderly, hquiet, hnoted⟩
      refine ⟨horderly.step hstep, hstep.memory.quiet hquiet, ?_⟩
      exact hnoted.step horderly hquiet hstep.memory fun c n frame hown hc => absurd hown hc
  | @act b action clean before ih =>
    obtain ⟨horderly, _, hquiet⟩ := before.reached.orderly
    refine ih.step horderly (hquiet faultless) (action.step image b).memory ?_
    intro c n frame hstray _
    rw [before.reached.layout]
    exact clean.strays hstray

/-! ### What is seen of a page -/

/-- A page that is there comes to be seen through its span, by the component that
maps the span or has it mapped. -/
theorem Undisturbed.seen (h : Undisturbed s image b) (faultless : s.faults = [])
    (hpage : b.pages.at? k = some page) {action : Action} (clean : action.Clean s image b)
    (hunseen : b.kernel.frameAt? c n ≠ some page.frame)
    (hseen : (action.after image b).kernel.frameAt? c n = some page.frame) :
    ∃ i id align, (action = .request i (.mapSharedSpan id align) ∧ i.caller = c ∨
        action = .request i (.mapSharedSpanInVm c id align)) ∧
      ∃ span, b.spans.at? id.toNat = some span ∧ span.pageOff ≤ k ∧
        k < span.pageOff + span.nPages.toNat := by
  obtain ⟨horderly, _, hquiet⟩ := h.reached.orderly
  have hq := hquiet faultless
  have hexpands : ¬ b.Expands (action.after image b) := fun hexpands =>
    hunseen (horderly.seen_before_expands hq hpage hexpands hseen)
  cases action with
  | request i r =>
    have heffect := dispatch_effect image b i r
    cases r with
    | mapPhysicalRegion paddr size =>
      have hdevice : b.Spares (Kernel.DeviceIn i.caller paddr size) _ := heffect
      rcases hdevice.fills.entries horderly.accounted.bounded hq c n _ hseen with hold | hnew
      · exact absurd hold hunseen
      · have hout := horderly.handsOut hpage
        rw [h.reached.layout] at hout
        exact absurd hout (clean _ hnew.2)
    | mapSharedSpan id align =>
      obtain ⟨hc, hspan⟩ :=
        horderly.seen_of_sharesSpan hq hpage heffect clean hunseen hseen
      exact ⟨i, id, align, .inl ⟨rfl, hc⟩, hspan⟩
    | mapSharedSpanInVm vm id align =>
      obtain ⟨rfl, hspan⟩ :=
        horderly.seen_of_sharesSpan hq hpage heffect clean hunseen hseen
      exact ⟨i, id, align, .inr rfl, hspan⟩
    | _ => exact absurd heffect hexpands
  | parallelInit core isInitCore =>
    have hmove : b.ObjectMove machinesOnly ((parallelInit image core isInitCore).final b) :=
      (parallelInit_objects image core isInitCore b).final
    exact absurd (.draws hmove.draws) hexpands
  | parallelMain core =>
    have hmove : b.ObjectMove machinesOnly ((parallelMain image core).final b) :=
      (parallelMain_objects image core b).final
    exact absurd (.draws hmove.draws) hexpands

/-- Sharing only through spans. -/
theorem pages_are_seen_through_spans (h : Undisturbed s image b) (faultless : s.faults = [])
    (hpage : b.pages.at? k = some page) :
    (∀ c n, c ≠ s.settings.selfId → b.kernel.frameAt? c n = some page.frame → page.Notes c n) ∧
    (∀ places : List (ComponentId × Nat), places.Nodup →
      (∀ p ∈ places, p.1 ≠ s.settings.selfId ∧ b.kernel.frameAt? p.1 p.2 = some page.frame) →
        places.length ≤ Page.mappingsMax) ∧
    ∀ action : Action, action.Clean s image b → ∀ c n,
      b.kernel.frameAt? c n ≠ some page.frame →
      (action.after image b).kernel.frameAt? c n = some page.frame →
        ∃ i id align, (action = .request i (.mapSharedSpan id align) ∧ i.caller = c ∨
            action = .request i (.mapSharedSpanInVm c id align)) ∧
          ∃ span, b.spans.at? id.toNat = some span ∧ span.pageOff ≤ k ∧
            k < span.pageOff + span.nPages.toNat := by
  have hnoted := (h.noted faultless).noted k page
  refine ⟨fun c n hc hframe => hnoted c n hpage hc hframe, fun places hnodup hplaces => ?_, ?_⟩
  · have hnotes : ∀ p ∈ places, page.Notes p.1 p.2 := by
      intro p hp
      obtain ⟨hc, hframe⟩ := hplaces p hp
      exact hnoted p.1 p.2 hpage hc hframe
    obtain ⟨horderly, _, _⟩ := h.reached.orderly
    exact Nat.le_trans (page.length_le_of_notes hnodup hnotes) (horderly.bounded k page hpage)
  · exact fun action clean c n hunseen hseen => h.seen faultless hpage clean hunseen hseen

/-- A run that is computed may begin an undisturbed one. -/
theorem Undisturbed.of_run (h : s.run [] = some (image, b)) : Undisturbed s image b := by
  obtain ⟨kernel, hkernel, h⟩ := Option.bind_eq_some_iff.1 h
  split at h
  · next hboot =>
    cases Option.some.inj h
    exact .boot hkernel hboot
  · cases h

/-- What is answered does not abort. -/
theorem not_aborts_of_answers {i : Invocation} {request : Request}
    (h : answers image i request b = true) : ¬ Aborts image b i request := by
  unfold answers at h
  split at h
  · next progress b' hend =>
    rintro ⟨b₁, habort⟩
    cases (dispatch_of_answered hend).symm.trans habort
  · cases h

/-- A bystander of an ordinary system. -/
def bystander : Invocation := ⟨⟨7⟩, ⟨0⟩⟩

/-- A page is made by the client, as a span. -/
def madeByClient : Action := .request ⟨⟨5⟩, ⟨0⟩⟩ (.allocateSharedPages 1 none)

/-- The bystander maps some registers, far from the frames of the machine. -/
def registersMapped : Action := .request bystander (.mapPhysicalRegion ⟨0xfee00010⟩ 16)

theorem registersMapped_clean : registersMapped.Clean .ordinary image b := by
  rintro frame ⟨j, hj, hframe⟩ ⟨m, hm, hnumber⟩
  have hpages : Kernel.devicePages ⟨0xfee00010⟩ 16 = 1 := by decide
  rw [hpages] at hj
  have hbase : (⟨0xfee00010⟩ : Paddr).toNat - (⟨0xfee00010⟩ : Paddr).toNat % pageSize
      = 0xfee00000 := by decide
  have hfirst : Setting.ordinary.layout.physBase.toNat = 0x1000000 := by decide
  have hcount : m < 262144 := hm
  unfold Kernel.Layout.IsFrame at hnumber
  rw [hfirst] at hnumber
  have hsize : pageSize = 4096 := rfl
  rw [hbase, hsize] at hframe
  rw [hsize] at hnumber
  omega

/-- The bystander maps the client's page as a span, and its record says so. -/
theorem page_of_span_is_noted :
    ∃ image b page, Undisturbed .ordinary image b ∧ b.pages.at? 1 = some page ∧
      b.kernel.frameAt? ⟨7⟩ 0x40001 = some page.frame ∧ page.Notes ⟨7⟩ 0x40001 := by
  have hrun : (Setting.ordinary.run []).any (fun p =>
      let b := registersMapped.after p.1 (madeByClient.after p.1 p.2)
      answers p.1 bystander (.mapSharedSpan 1 none) b &&
        let b' := Action.after p.1 (.request bystander (.mapSharedSpan 1 none)) b
        (b'.pages.at? 1).any fun page => b'.kernel.frameAt? ⟨7⟩ 0x40001 = some page.frame)
      = true := by decide +kernel
  obtain ⟨⟨image, b⟩, hboot, hshows⟩ := (Option.any_eq_true _ _).1 hrun
  rw [Bool.and_eq_true] at hshows
  obtain ⟨hanswers, hshows⟩ := hshows
  obtain ⟨page, hpage, hframe⟩ := (Option.any_eq_true _ _).1 hshows
  rw [decide_eq_true_eq] at hframe
  have hclients := (Undisturbed.of_run hboot).act madeByClient trivial
  have hregisters := hclients.act registersMapped registersMapped_clean
  have hshared := hregisters.act (.request bystander (.mapSharedSpan 1 none))
    (not_aborts_of_answers hanswers)
  have hnotes := (pages_are_seen_through_spans hshared rfl hpage).1
  exact ⟨image, _, page, hshared, hpage, hframe, hnotes ⟨7⟩ 0x40001 (by decide) hframe⟩

/-- The client's page is mapped by a bystander that asks for its frame as if it
were a device's, and the record of the page knows nothing of it. -/
theorem raw_frame_is_seen :
    Setting.ordinary.faults = [] ∧ ⟨7⟩ ≠ Setting.ordinary.settings.selfId ∧
      ∃ image b page, Reached .ordinary image b ∧ b.pages.at? 1 = some page ∧
        b.kernel.frameAt? ⟨7⟩ 0x40000 = some page.frame ∧ ¬ page.Notes ⟨7⟩ 0x40000 := by
  have hrun : (Setting.ordinary.run
      [.request ⟨⟨5⟩, ⟨0⟩⟩ (.allocateHeapPages 1 none),
        .request ⟨⟨7⟩, ⟨0⟩⟩ (.mapPhysicalRegion ⟨0x1040000⟩ 4096)]).any
      (fun p => (p.2.pages.at? 1).any fun page =>
        p.2.kernel.frameAt? ⟨7⟩ 0x40000 = some page.frame &&
          page.mappings.all fun m => m.component ≠ ⟨7⟩) = true := by decide +kernel
  obtain ⟨image, b, h, hshows⟩ := exists_reached hrun
  obtain ⟨page, hpage, hshows⟩ := (Option.any_eq_true _ _).1 hshows
  simp only [Bool.and_eq_true, decide_eq_true_eq, List.all_eq_true] at hshows
  obtain ⟨hframe, hothers⟩ := hshows
  refine ⟨rfl, by decide, image, b, page, h, hpage, hframe, ?_⟩
  rintro ⟨place, hmem, _⟩
  exact hothers _ hmem rfl

end CapabilityBroker.Service
