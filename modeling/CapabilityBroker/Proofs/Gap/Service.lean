/-
CapabilityBroker/Proofs/Gap/Service.lean

Gaps are caught.

Six requests map a run of pages, and so does the start.  Each comes down to one operation
that maps (`perform_checked`, `boot_checked`), after a look at who asks and what for.
The theorem reads the ends of such an operation off its rule (`Catches.of_leads`).  That
there is room for the run is used in one place only: without it, a gap is left where the
arithmetic then leaves its word, and nobody gets to check it.
-/
import CapabilityBroker.Proofs.Gap.Boot
import CapabilityBroker.Proofs.Whole

namespace CapabilityBroker

open Step (Stays Certain)

variable {ε α : Type} {b b' : Broker} {into : ComponentId} {align : UInt64} {count : Nat}

/-! ### What it is to catch a gap -/

/-- The step speaks of a gap if and only if it left one, and then what it says is right
and no record has changed since a state in `before`.  If it answers, what is given for
the range in the answer is translated to one run of frames. -/
structure Broker.Catches (fatal : Defect → ε) (before : Broker → Prop) (into : ComponentId)
    (count : Nat) (given : Vaddr → Paddr → α → Broker → Prop) (b : Broker)
    (s : Step Broker ε α) : Prop where
  caught : (∃ defect : Defect, defect.IsGap ∧ s.stop? b = some (.refused (fatal defect))) ↔
    b.kernel.gaps < (s.final b).kernel.gaps
  named : ∀ component page expected found,
    s.stop? b = some (.refused (fatal (.contiguityViolation component page expected found))) →
    component = into ∧ ∃ vaddr first frame, found = some frame ∧
      (s.final b).kernel.GappedAt into vaddr first count page expected frame
  unrecorded : (∃ defect : Defect, defect.IsGap ∧ s.stop? b = some (.refused (fatal defect))) →
    ∃ first, before first ∧ (∀ k, (s.final b).pages.at? k = first.pages.at? k) ∧
      ∀ k, (s.final b).spans.at? k = first.spans.at? k
  shown : ∀ a b', s b = .ok a b' → ∃ vaddr first, given vaddr first a b' ∧
    b'.kernel.TranslatesRun into vaddr first count

namespace Broker.Catches

variable {fatal : Defect → ε} {before : Broker → Prop} {why : Stop ε}
  {given : Vaddr → Paddr → α → Broker → Prop} {s : Step Broker ε α}

/-- Without a gap, there is only an answer to account for. -/
theorem of_gapless (hgaps : b.kernel.Gapless (s.final b).kernel)
    (hsilent : ∀ defect, s.stop? b = some (.refused (fatal defect)) → ¬ defect.IsGap)
    (hshown : ∀ a b', s b = .ok a b' → ∃ vaddr first, given vaddr first a b' ∧
      b'.kernel.TranslatesRun into vaddr first count) :
    b.Catches fatal before into count given s := by
  have hnone : ¬ ∃ defect : Defect, defect.IsGap ∧ s.stop? b = some (.refused (fatal defect)) :=
    fun ⟨defect, hgap, hstop⟩ => hsilent defect hstop hgap
  refine ⟨⟨fun h => absurd h hnone, fun hlt => absurd hgaps (Nat.ne_of_gt hlt)⟩, ?_,
    fun h => absurd h hnone, hshown⟩
  intro component page expected found hstop
  exact absurd ⟨_, _, _, _, rfl⟩ (hsilent _ hstop)

/-- With a gap, there is only what is said of it to account for. -/
theorem of_breaks (hfatal : Function.Injective fatal) (hend : s b = .error why b')
    {first : Broker} (hbefore : before first) (hfirst : b.kernel.Gapless first.kernel)
    (hroom : first.kernel.hasRoom into align count = true)
    (h : first.Breaks fatal into align count why b') :
    b.Catches fatal before into count given s := by
  have hstop : s.stop? b = some why := by rw [Step.stop?, hend]
  have hfinal : s.final b = b' := by rw [Step.final, hend]
  have hshown : ∀ a b', s b = .ok a b' → ∃ vaddr first, given vaddr first a b' ∧
      b'.kernel.TranslatesRun into vaddr first count := fun a b' hok => by
    rw [hend] at hok
    cases hok
  cases h with
  | quiet gaps silent =>
    refine of_gapless (hfinal ▸ trans_of Kernel.Gapless hfirst gaps) (fun defect heq hgap => ?_)
      hshown
    exact silent _ (Option.some.inj (hstop.symm.trans heq)) ⟨defect, rfl, hgap⟩
  | overruns full => exact absurd hroom full
  | @caught _ vaddr last frame expected found gaps records gap =>
    refine ⟨⟨fun _ => ?_, fun _ => ⟨_, ⟨_, _, _, _, rfl⟩, hstop⟩⟩, ?_, fun _ => ?_, hshown⟩
    · rw [hfinal, gaps, hfirst]
      exact Nat.lt_succ_self _
    · intro component page expected' found' heq
      have hsame := hfatal (Stop.refused.inj (Option.some.inj (hstop.symm.trans heq)))
      cases hsame
      exact ⟨rfl, vaddr, frame, found, rfl, hfinal ▸ gap⟩
    · rw [hfinal]
      exact ⟨first, hbefore, fun _ => records.pages.at?_eq, fun _ => records.spans.at?_eq⟩

theorem of_leads (align : UInt64) (hfatal : Function.Injective fatal)
    (h : s.Leads b
      (fun a b' => b.kernel.Gapless b'.kernel ∧ ∃ vaddr first, given vaddr first a b' ∧
        b'.kernel.TranslatesRun into vaddr first count)
      (fun why b' =>
        (b.kernel.Gapless b'.kernel ∧ ∀ reason, why = .refused reason → ¬ OfGap fatal reason) ∨
        ∃ first, before first ∧ b.kernel.Gapless first.kernel ∧
          first.kernel.hasRoom into align count = true ∧
          first.Breaks fatal into align count why b')) :
    b.Catches fatal before into count given s := by
  obtain ⟨a, hend, hgaps, hgiven⟩ | ⟨why, hend, ⟨hgaps, hsilent⟩ | ⟨first, hbreaks⟩⟩ := h.ends
  · refine of_gapless hgaps (fun defect hstop => ?_) fun a' b' hok => ?_
    · rw [Step.stop?, hend] at hstop
      cases hstop
    · cases hend.symm.trans hok
      exact hgiven
  · refine of_gapless hgaps (fun defect hstop hgap => ?_) fun a' b' hok => ?_
    · rw [Step.stop?, hend] at hstop
      exact hsilent _ (Option.some.inj hstop) ⟨defect, rfl, hgap⟩
    · cases hend.symm.trans hok
  · obtain ⟨hbefore, hfirst, hroom, hb⟩ := hbreaks
    exact of_breaks hfatal hend hbefore hfirst hroom hb

end Broker.Catches

/-! ### Requests that map -/

/-- The component a request maps into, the alignment of the mapping, and the number of its
pages; nothing, if the request maps no run of pages. -/
def Request.run? (b : Broker) (caller : ComponentId) : Request → Option (ComponentId × UInt64 × Nat)
  | .allocateHeapPages count align | .allocateSharedPages count align =>
    some (caller, align.getD 4096, count.toNat)
  | .allocateContiguousPages count => some (caller, 4096, count.toNat)
  | .allocateContiguousShared count align => some (caller, align.getD 4096, count.toNat)
  | .mapSharedSpan span align => some (caller, align.getD 4096, b.spanPages span.toNat)
  | .mapSharedSpanInVm vm span align => some (vm, align.getD 4096, b.spanPages span.toNat)
  | _ => none

/-- The address of the range that a reply is about. -/
def Reply.address? : Reply → Option Vaddr
  | .address vaddr | .span _ vaddr | .mapped _ vaddr => some vaddr
  | _ => none

namespace Service

open Broker (Checked Registers)

variable {image : Image} {i : Invocation} {given : Vaddr → Paddr → α → Broker → Prop}

theorem acting_checked (hh : b.Homed) {f : ComponentId → Operation α}
    (hf : ∀ s, b.kernel.space? i.caller = some s →
      b.Checked .fatal into align count given (f i.caller)) :
    b.Checked .fatal into align count given (acting i >>= f) := by
  refine acting_leads_bind (fun _ => .refused rfl rfl) fun hknown => ?_
  obtain ⟨s, hs⟩ := exists_space hh hknown
  exact hf s hs

theorem alignment_checked {asked : Option UInt64} {f : UInt64 → Operation α}
    (hf : pageSize ∣ (asked.getD 4096).toNat →
      b.Checked .fatal into align count given (f (asked.getD 4096))) :
    b.Checked .fatal into align count given (alignment asked >>= f) :=
  alignment_leads_bind (fun _ => .refused rfl rfl) fun _ => hf

/-- The range goes from the answer of the operation into the reply. -/
abbrev Tells (vaddr : Vaddr) (_ : Paddr) (progress : Progress Reply) (_ : Broker) : Prop :=
  ∃ reply, progress = .finished reply ∧ reply.address? = some vaddr

theorem address_checked {operation : Operation Vaddr}
    (h : b.Checked .fatal into align count (fun vaddr _ answer _ => answer = vaddr) operation) :
    b.Checked .fatal into align count Tells (finishing (Reply.address <$> operation)) :=
  Checked.map (Checked.map h fun _ _ _ _ heq => heq ▸ rfl) fun _ _ reply _ h => ⟨reply, rfl, h⟩

theorem spanReply_checked {operation : Operation (Nat × Vaddr)}
    (h : b.Checked .fatal into align count (fun vaddr _ answer _ => answer.2 = vaddr) operation) :
    b.Checked .fatal into align count Tells (finishing (operation >>= spanReply)) := by
  refine Checked.map (Checked.settle_bind h ?_) fun _ _ reply _ h => ⟨reply, rfl, h⟩
  rintro vaddr _ answer b₁ rfl
  exact Registers.bind Stays.exact Certain.exact fun number b₂ => Registers.pure rfl

theorem mappedReply_checked {operation : Operation (Nat × Vaddr)}
    (h : b.Checked .fatal into align count (fun vaddr _ answer _ => answer.2 = vaddr) operation) :
    b.Checked .fatal into align count Tells (finishing (operation >>= mappedReply)) := by
  refine Checked.map (Checked.settle_bind h ?_) fun _ _ reply _ h => ⟨reply, rfl, h⟩
  rintro vaddr _ answer b₁ rfl
  exact Registers.bind Stays.exact Certain.exact fun number b₂ => Registers.pure rfl

theorem mapSharedSpanInVm_checked (hh : b.Homed) (vm : ComponentId) (span : Nat)
    (asked : Option UInt64) :
    b.Checked .fatal vm (asked.getD 4096) (b.spanPages span)
      (fun vaddr _ answer _ => answer.2 = vaddr) (mapSharedSpanInVm i vm span asked) := by
  refine managing_leads (fun _ => .refused rfl rfl) (fun _ _ _ _ _ => .refused rfl rfl) ?_
  intro machine hvm _
  obtain ⟨s, hs⟩ := exists_space hh (Option.isSome_iff_exists.2 ⟨machine, hvm⟩)
  exact alignment_checked fun ha => mapSpan_checked ha hs

/-- Each of the requests that map comes down to one operation that maps. -/
theorem perform_checked (hh : b.Homed) {request : Request}
    (hrun : request.run? b i.caller = some (into, align, count)) :
    b.Checked .fatal into align count Tells (perform image i request) := by
  cases request with
  | allocateHeapPages n asked =>
    cases hrun
    refine address_checked (acting_checked hh fun s hs => alignment_checked fun ha => ?_)
    refine Checked.settle_bind (allocatePages_checked ha hs) ?_
    rintro vaddr _ answer b₁ rfl
    exact Registers.pure rfl
  | allocateSharedPages n asked =>
    cases hrun
    refine spanReply_checked (acting_checked hh fun s hs => alignment_checked fun ha => ?_)
    exact spanOf_checked fun b₁ h₁ => allocatePages_checked ha ((h₁.space?_eq _).trans hs)
  | allocateContiguousPages n =>
    cases hrun
    refine address_checked (acting_checked hh fun s hs => ?_)
    exact Checked.map (carveContig_checked (by decide) hs) fun _ _ _ _ h => h
  | allocateContiguousShared n asked =>
    cases hrun
    refine spanReply_checked (acting_checked hh fun s hs => alignment_checked fun ha => ?_)
    exact spanOf_checked fun b₁ h₁ => carveContig_checked ha ((h₁.space?_eq _).trans hs)
  | mapSharedSpan span asked =>
    cases hrun
    refine mappedReply_checked (acting_checked hh fun s hs => alignment_checked fun ha => ?_)
    exact mapSpan_checked ha hs
  | mapSharedSpanInVm vm span asked =>
    cases hrun
    exact mappedReply_checked (mapSharedSpanInVm_checked hh _ _ asked)
  | _ => cases hrun

/-! ### In a run, and at its start -/

/-- Whether the region has room where the start sets it aside, if it gets that far. -/
def regionFits (settings : Settings) (manifest : Manifest) (b : Broker) : Bool :=
  match setUp settings manifest b with
  | .ok _ b' => b'.kernel.hasRoom settings.selfId 4096 settings.contigPages.toNat
  | .error _ _ => true

theorem hasRoom_of_regionFits {settings : Settings} {manifest : Manifest} {b first : Broker}
    {plan : List (ComponentId × Execution)} (h : regionFits settings manifest b = true)
    (hends : setUp settings manifest b = .ok plan first) :
    first.kernel.hasRoom settings.selfId 4096 settings.contigPages.toNat = true := by
  unfold regionFits at h
  rwa [hends] at h

theorem perform_catches (hh : b.Homed) {request : Request}
    (hrun : request.run? b i.caller = some (into, align, count))
    (hroom : b.kernel.hasRoom into align count = true) :
    b.Catches .fatal (· = b) into count Tells (perform image i request) :=
  .of_leads align (fun _ _ => Failure.fatal.inj) <| (perform_checked hh hrun).mono (fun _ _ h => h)
    fun _ _ h => .inr ⟨b, rfl, rfl, hroom, h⟩

theorem boot_catches (settings : Settings) (manifest : Manifest) (hnone : b.contig = none)
    (hfits : regionFits settings manifest b = true) :
    b.Catches id (fun first => ∃ plan, setUp settings manifest b = .ok plan first)
      settings.selfId settings.contigPages.toNat
      (fun _ base _ b' => b'.contig = some ⟨base, settings.contigPages.toNat, 0⟩)
      (boot settings manifest) := by
  refine .of_leads 4096 Function.injective_id ((boot_checked settings manifest hnone).mono
    (fun _ _ h => h) ?_)
  rintro why b' (⟨hintact, hsilent⟩ | ⟨plan, first, hends, hgaps, hbreaks⟩)
  · exact .inl ⟨hintact.kernel.gaps, hsilent⟩
  · exact .inr ⟨first, ⟨plan, hends⟩, hgaps, hasRoom_of_regionFits hfits hends, hbreaks⟩

/-- Whatever faults are planned, a gap in a mapping is always caught, and nothing else is
taken for one: in every state of a run, for every request that maps and has room, and for
the contiguous region at the start. -/
theorem gaps_are_caught (s : Setting) :
    (∀ image b i request into align count, Reached s image b →
      Request.run? b i.caller request = some (into, align, count) →
      b.kernel.hasRoom into align count = true →
      b.Catches .fatal (· = b) into count Tells (perform image i request)) ∧
    ∀ kernel, Kernel.create? s.selfId s.layout s.faults = some kernel →
      regionFits s.settings s.manifest (.create kernel) = true →
      (Broker.create kernel).Catches id
        (fun b => ∃ plan, setUp s.settings s.manifest (.create kernel) = .ok plan b)
        s.settings.selfId s.settings.contigPages.toNat
        (fun _ base _ b => b.contig = some ⟨base, s.settings.contigPages.toNat, 0⟩)
        (boot s.settings s.manifest) := by
  refine ⟨fun image b i request into align count h hrun hroom => ?_, fun kernel _ hfits => ?_⟩
  · obtain ⟨_, hhomed, _⟩ := h.orderly
    exact perform_catches hhomed hrun hroom
  · exact boot_catches _ _ rfl hfits

/-- The ordinary setting with one gap to come, and a region of some size. -/
def Setting.withGap (contigPages : UInt64) : Setting :=
  { Setting.ordinary with
    faults := [.discontiguousAlias], settings := { Settings.small with contigPages } }

/-- Without a region the gap comes in the first span, and with one it comes at the start;
it is caught at the last page of either. -/
theorem gap_is_caught_wherever_it_comes :
    (∃ image b, Reached (.withGap 0) image b ∧ b.kernel.hasRoom ⟨5⟩ 4096 3 = true ∧
      (perform image ⟨⟨5⟩, ⟨0⟩⟩ (.allocateSharedPages 3 none)).stop? b
        = some (.refused (.fatal (.contiguityViolation ⟨5⟩ ⟨0x40002000⟩ ⟨0x1002000⟩
            (some ⟨0x1003000⟩)))) ∧
      b.Catches .fatal (· = b) ⟨5⟩ 3 Tells
        (perform image ⟨⟨5⟩, ⟨0⟩⟩ (.allocateSharedPages 3 none))) ∧
    ∃ kernel, Kernel.create? ⟨2⟩ .standard [.discontiguousAlias] = some kernel ∧
      regionFits .small Draft.clientAndScheduler.manifest (.create kernel) = true ∧
      (boot .small Draft.clientAndScheduler.manifest).stop? (.create kernel)
        = some (.refused (.contiguityViolation ⟨2⟩ ⟨0x4003f000⟩ ⟨0x103f000⟩
            (some ⟨0x1040000⟩))) ∧
      (Broker.create kernel).Catches id
        (fun b => ∃ plan, setUp .small Draft.clientAndScheduler.manifest (.create kernel)
          = .ok plan b) ⟨2⟩ 64 (fun _ base _ b => b.contig = some ⟨base, 64, 0⟩)
        (boot .small Draft.clientAndScheduler.manifest) := by
  constructor
  · have hrun : ((Setting.withGap 0).run []).any (fun p =>
        p.2.kernel.hasRoom ⟨5⟩ 4096 3 &&
        decide ((perform p.1 ⟨⟨5⟩, ⟨0⟩⟩ (.allocateSharedPages 3 none)).stop? p.2
          = some (.refused (.fatal (.contiguityViolation ⟨5⟩ ⟨0x40002000⟩ ⟨0x1002000⟩
              (some ⟨0x1003000⟩)))))) = true := by
      decide +kernel
    obtain ⟨image, b, hreached, hshows⟩ := exists_reached hrun
    rw [Bool.and_eq_true, decide_eq_true_eq] at hshows
    obtain ⟨hroom, hstop⟩ := hshows
    exact ⟨image, b, hreached, hroom, hstop, (gaps_are_caught (.withGap 0)).1 image b ⟨⟨5⟩, ⟨0⟩⟩
      (.allocateSharedPages 3 none) ⟨5⟩ 4096 3 hreached rfl hroom⟩
  · have hstart : (Kernel.create? ⟨2⟩ .standard [.discontiguousAlias]).any (fun kernel =>
        regionFits .small Draft.clientAndScheduler.manifest (.create kernel) &&
        decide ((boot .small Draft.clientAndScheduler.manifest).stop? (.create kernel)
          = some (.refused (.contiguityViolation ⟨2⟩ ⟨0x4003f000⟩ ⟨0x103f000⟩
              (some ⟨0x1040000⟩))))) = true := by
      decide +kernel
    obtain ⟨kernel, hkernel, hshows⟩ := (Option.any_eq_true _ _).1 hstart
    rw [Bool.and_eq_true, decide_eq_true_eq] at hshows
    obtain ⟨hfits, hstop⟩ := hshows
    exact ⟨kernel, hkernel, hfits, hstop,
      (gaps_are_caught (.withGap 64)).2 kernel hkernel hfits⟩

end Service

end CapabilityBroker
