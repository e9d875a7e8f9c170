/-
CapabilityBroker/Proofs/Sound/Boot.lean

Every state of a run on the standard machine without faults is sound.

A fresh kernel is sound, and so is the broker once it has made its pools.  The
rest of the start may fail in many ways, for the manifest may ask for anything,
but it leaves a sound state whatever it comes to; so do each core's part and
every request (`Reached.sound`).
-/
import CapabilityBroker.Proofs.Advance.Boot
import CapabilityBroker.Proofs.Run
import CapabilityBroker.Proofs.Sound.Service

namespace CapabilityBroker

open Kernel (IsFrame SoundSince)
open Step (Stays StaysFrom)

variable {b b' : Broker} {ε α : Type}

/-! ### Steps that leave sound states -/

/-- A sound state stays sound. -/
def Broker.StaysSound (b b' : Broker) : Prop := b.Sound → b'.Sound

instance : IsPreorder Broker Broker.StaysSound where
  refl _ := id
  trans _ _ _ h h' := h' ∘ h

theorem staysSound_of_leads {s : Step Broker ε α}
    (hs : ∀ b : Broker, b.Sound → s.Leads b (fun _ b' => b'.Sound) (fun _ b' => b'.Sound)) :
    Stays Broker.StaysSound s := by
  intro b
  by_cases h : b.Sound
  · exact (hs b h).mono (fun _ _ hsound _ => hsound) fun _ _ hsound _ => hsound
  · exact .of_forall (fun _ _ hb => absurd hb h) fun _ _ hb => absurd hb h

theorem Calm.staysSound {s : Operation α} (hs : Calm s) : Stays Broker.StaysSound s :=
  staysSound_of_leads fun b h => (hs b h).mono (fun _ _ hsound => hsound) fun _ _ hends => hends.1

theorem log_staysSound (level : Level) (message : String) :
    Stays Broker.StaysSound (log level message : Step Broker ε Unit) :=
  .modify fun _ h => h.of_notes

/-! ### The beginning -/

/-- With the pools just made, a broker on a sound kernel is sound. -/
theorem makePools_sound (settings : Settings) (h : b.kernel.Sound) (hcontig : b.contig = none) :
    (makePools settings : Step Broker ε Unit).Leads b (fun _ b' => b'.Sound) (fun _ _ => True) := by
  refine (makePools_leads settings).mono ?_ fun _ _ _ => trivial
  rintro _ _ ⟨components, threads, rcvs, asnds, pages, spans, rfl, hc, _, _, _, hp, hs⟩
  obtain ⟨hcfit, rfl⟩ := Pool.create?_eq_some_iff.1 hc
  obtain ⟨hpfit, rfl⟩ := Pool.create?_eq_some_iff.1 hp
  obtain ⟨hsfit, rfl⟩ := Pool.create?_eq_some_iff.1 hs
  constructor
  · exact h
  -- No component is on record yet.
  · intro id hid
    obtain ⟨record, hrecord⟩ := Option.isSome_iff_exists.1 hid
    cases Pool.at?_create.symm.trans hrecord
  · exact hcfit
  · exact hpfit
  · exact hsfit
  · exact Pool.dense_create _ _
  · intro region hregion
    cases hcontig.symm.trans hregion
  · show 1 + b.contigLeft ≤ _
    rw [Broker.contigLeft_of_none hcontig]
    exact Nat.succ_le_succ (Nat.zero_le _)
  · intro id span hspan
    cases Pool.at?_create.symm.trans hspan

/-! ### The contiguous region -/

theorem contigFrames_leads {count : Nat} (h : b.kernel.Sound) (hc : count ≠ 0) :
    (kernelPart.run ((Kernel.reserveFrames count).explain Defect.kernel)).Leads b
      (fun base b' => b.Drives b' ∧ IsFrame b.kernel.nextFrame base ∧
        b'.kernel.nextFrame = b.kernel.nextFrame + count)
      (fun _ b' => b.Drives b') := by
  refine Part.run_leads (Step.leads_explain.2 ((Kernel.reserveFrames_leads h hc).mono ?_ ?_))
  · rintro base _ ⟨hframes, hfirst, trail, rfl⟩
    exact ⟨⟨rfl, SoundSince.withFrames (.refl h) hframes⟩, hfirst, rfl⟩
  · rintro why _ ⟨_, _, rfl⟩
    exact .refl h

/-- The region's frames are handed out, whatever comes of the mapping. -/
theorem contigBase_leads (selfId : ComponentId) (count : Nat) (h : b.kernel.Sound) :
    (contigBase selfId count).Leads b
      (fun base b' => b.Drives b' ∧ b'.Holds ⟨base, count, 0⟩ ∧
        b.kernel.nextFrame + count ≤ b'.kernel.nextFrame)
      (fun _ b' => b.Drives b') := by
  refine Step.Leads.ite (fun h0 => ?_) fun hc => ?_
  · rw [h0]
    exact Step.leads_pure.2 ⟨.refl h, ⟨Nat.le_refl _, fun hne => absurd rfl hne⟩, Nat.le_refl _⟩
  refine Step.leads_bind.2 ((contigFrames_leads h hc).mono ?_ fun _ _ hdrives => hdrives)
  rintro base b₁ ⟨hdrives, hfirst, hnext⟩
  have hsound : b₁.kernel.Sound := hdrives.kernel.sound
  -- The settings may name another component than the kernel runs the broker as.
  by_cases hself : b₁.kernel.hasComponent selfId = true
  · have hend : b.kernel.nextFrame + count ≤ b₁.kernel.nextFrame := Nat.le_of_eq hnext.symm
    refine Step.leads_bind.2 ((mapVerified_sound hsound hself hfirst hend (by decide)).mono ?_ ?_)
    · rintro vaddr b₂ ⟨_, _, hd, hnext₂⟩
      rw [← hnext₂] at hend
      refine Step.leads_pure.2 ⟨hdrives.trans hd, ⟨Nat.zero_le _, fun _ => ?_⟩, hend⟩
      exact ⟨b.kernel.nextFrame, hend, hfirst⟩
    · rintro why b₂ ⟨_, _, hd⟩
      exact hdrives.trans hd
  · refine Step.leads_bind.2 ((mapVerified_missing hsound hself).mono (fun _ _ => False.elim) ?_)
    rintro why _ rfl
    exact hdrives

theorem initContig_staysSound (selfId : ComponentId) (count : Nat) :
    Stays Broker.StaysSound (initContig selfId count) := by
  refine staysSound_of_leads fun b h => ?_
  refine Step.leads_bind.2 ((contigBase_leads selfId count h.kernel).mono ?_ ?_)
  · rintro base b₁ ⟨hd, hholds, hnext⟩
    have h₁ := hd.sound h
    refine Step.Leads.modify_bind (Step.leads_modify.2 (Broker.Sound.of_notes ?_))
    cases hregion : b₁.contig with
    -- The first region: its pages are accounted for by the frames just handed out.
    | none =>
      apply h₁.withContig hholds
      have hnone : b.contig = none := by
        rw [hd.rest] at hregion
        exact hregion
      have hpages : b₁.pages = b.pages := by rw [hd.rest]
      have haccounted := h.accounted
      rw [Broker.contigLeft_of_none hnone] at haccounted
      rw [hpages]
      show b.pages.lowWater + (count - 0) ≤ b₁.kernel.nextFrame + 1
      omega
    | some region => exact h₁
  · exact fun _ b' hd => hd.sound h

namespace Service

/-! ### The steps of the start -/

/-- A component is registered, with what the kernel makes for it. -/
theorem registerComponent_staysSound {id : ComponentId} {create : Step Kernel Kernel.Refusal Unit}
    (name : String) (kind : ComponentKind) (resources : Option Kernel.Resources)
    (hcreate : ∀ k, k.Sound → create.Leads k
      (fun _ k' => SoundSince k k' ∧ k'.hasComponent id = true) (fun _ k' => SoundSince k k')) :
    Stays Broker.StaysSound (registerComponent id name kind resources create) := by
  refine staysSound_of_leads fun b h => ?_
  refine Step.Leads.require_bind (fun index hindex => ?_) fun _ => h
  rw [word32?_eq_some_iff] at hindex
  -- The slot has the number of the component, so that its record is found under its id.
  refine Step.leads_bind.2 (Part.ask_leads (Pool.allocateAt_holds.mono ?_ ?_))
  · rintro slot p ⟨hslot, hreserves, hcapacity, hholds⟩
    have hsound := componentPool_bears.sound b p h hreserves hcapacity
    refine (componentPool_bears.holding_leads (Q := fun _ => True) ?_).mono
      (fun _ _ hpost => hpost) fun _ _ hstop => hstop.1
    refine Step.leads_bind.2 (Part.run_leads (Step.leads_explain.2 ?_))
    refine (hcreate b.kernel h.kernel).mono ?_ fun _ k hk => ⟨hsound.withKernel hk, trivial⟩
    rintro _ k ⟨hk, hthere⟩
    refine Step.leads_bind.2 ((Part.activate_leads hholds).mono ?_ fun _ _ => False.elim)
    rintro handle _ ⟨rfl, rfl⟩
    refine Step.leads_modify.2 (Broker.Sound.of_notes ?_)
    exact (hsound.withKernel hk).publishComponent (hslot.trans hindex) hthere
  · rintro why p ⟨_, rfl⟩
    exact h

theorem adopt_staysSound (manifest : Manifest) (schedulers : Schedulers) (caps : ComponentCaps) :
    Stays Broker.StaysSound (adopt manifest schedulers caps) :=
  adopt_walks log_staysSound fun _ _ _ => registerComponent_staysSound _ _ _ fun _ hk =>
    Kernel.createComponent_leads _ _ _ (.refl hk)

theorem shareUlk_staysSound (id : ComponentId) : Stays Broker.StaysSound (shareUlk id) := by
  refine shareUlk_walks (staysSound_of_leads fun b h => Part.run_leads ?_)
  refine ((Kernel.mapUlk_keeps id).attempt _ _ (.refl h.kernel)).mono ?_ ?_
  · exact fun _ k hk => h.withKernel hk
  · exact fun _ k hk => h.withKernel hk.1

theorem setAside_staysSound (region : SharedRegion) :
    Stays Broker.StaysSound (setAside region) := by
  refine Stays.bind (Stays.explain (staysSound_of_leads fun b h => ?_)) fun _ => log_staysSound _ _
  exact (allocateSharedAt_leads h (by decide)).mono (fun _ _ hsound => hsound)
    fun _ _ hends => hends.1

theorem initUlk_staysSound :
    Stays Broker.StaysSound (kernelPart.run (Kernel.initUlk.explain Defect.kernel)) := by
  refine staysSound_of_leads fun b h => Part.run_leads (Step.leads_explain.2 ?_)
  refine (Kernel.initUlk_keeps b.kernel b.kernel (.refl h.kernel)).mono ?_ ?_
  · exact fun _ k hk => h.withKernel hk
  · exact fun _ k hk => h.withKernel hk.1

theorem staysSound_admitsBoot (settings : Settings) (manifest : Manifest) :
    AdmitsBoot Broker.StaysSound settings manifest where
  log level message := (log_staysSound level message).answers
  adopt _ _ schedulers caps _ := (adopt_staysSound manifest schedulers caps).answers
  initUlk := initUlk_staysSound.answers
  shareUlk id := (shareUlk_staysSound id).answers
  setAside region := (setAside_staysSound region).answers
  self := (registerComponent_staysSound _ _ _ fun _ hk =>
    Kernel.createComponent_leads _ _ _ (.refl hk)).answers
  initContig := (initContig_staysSound _ _).answers
  barriers _ _ h := h.of_notes

/-- A start that succeeds on a sound kernel leaves a sound state. -/
theorem boot_sound (settings : Settings) (manifest : Manifest) (h : b.kernel.Sound)
    (hcontig : b.contig = none) :
    (boot settings manifest).Leads b (fun _ b' => b'.Sound) (fun _ _ => True) := by
  have hmake : ∀ journal, (makePools settings : Step Broker Defect Unit).Leads { b with journal }
      (fun _ made => made.Sound) (fun _ _ => True) :=
    fun journal => makePools_sound settings h hcontig
  refine (boot_keeps hmake (staysSound_admitsBoot settings manifest)).mono ?_ fun _ _ _ => trivial
  rintro image b' ⟨_, made, hmade, hsound⟩
  exact hsound hmade

/-! ### Each core's part -/

theorem logFirst_staysSound (isInitCore : Bool) (message : String) :
    Stays Broker.StaysSound (logFirst isInitCore message) := .ite (log_staysSound _ _) .pure

theorem createExecution_staysSound (selfId : ComponentId) (core : CoreId) (isInitCore : Bool)
    (planned : ComponentId × Execution) :
    Stays Broker.StaysSound (createExecution selfId core isInitCore planned) := by
  obtain ⟨id, kind⟩ := planned
  refine .ite (fun _ => .refuse_bind) (.get_bind fun b => ?_)
  refine .ite (fun _ => .refuse_bind) fun _ => ?_
  cases kind with
  | sched =>
    refine (createSchedExecution_calm id core).staysSound.explain.bind (fun _ => ?_) b
    exact logFirst_staysSound _ _
  | init =>
    refine (createInitThread_calm id core).staysSound.explain.bind (fun _ => ?_) b
    exact logFirst_staysSound _ _

theorem parallelInit_staysSound (image : Image) (core : CoreId) (isInitCore : Bool) :
    Stays Broker.StaysSound (parallelInit image core isInitCore) :=
  (logFirst_staysSound _ _).bind fun _ => .each fun planned _ =>
    createExecution_staysSound _ core isInitCore planned

theorem parallelMain_staysSound (image : Image) (core : CoreId) :
    Stays Broker.StaysSound (parallelMain image core) :=
  .each fun planned _ => (beginInit_calm planned.1 core).staysSound.explain.bind fun _ => .pure

/-! ### Runs -/

/-- Without planned faults, nothing is amiss in any state of a run on the
standard machine. -/
theorem Reached.sound {s : Setting} {image : Image} (hlayout : s.layout = .standard)
    (hfaults : s.faults = []) (h : Reached s image b) : b.Sound := by
  induction h with
  | boot created booted =>
    rw [hlayout, hfaults] at created
    exact (boot_sound _ _ (Kernel.sound_of_create? created) rfl).of_ok booted
  | act action _ ih =>
    cases action with
    | request i r => exact ((dispatch_leads image ih i r).mono (fun _ _ hpost => hpost.2)
        fun _ _ hstop => hstop.2.2).final
    | parallelInit core isInitCore =>
      exact (parallelInit_staysSound image core isInitCore _).final ih
    | parallelMain core => exact (parallelMain_staysSound image core _).final ih

end Service

end CapabilityBroker
