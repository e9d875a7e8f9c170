/-
CapabilityBroker/Proofs/Kernel/Room.lean

Mappings into sound kernels, and the one thing that stops them.

In a sound kernel, frames are handed out until there are none left, and a run
that was handed out can be mapped into any component whose address space has
room for it behind the aligned frontier: `Space.hasRoom`.  Nothing else is in
the way.  Where there is no room, the primitive does not refuse, but its
arithmetic leaves the word and it aborts.  What was mapped is found again by
the check that follows.
-/
import CapabilityBroker.Proofs.Kernel.Mapping
import CapabilityBroker.Proofs.Kernel.Sound

namespace CapabilityBroker.Kernel

variable {ε : Type} {k₀ k : Kernel} {into : ComponentId} {s : Space} {vaddr : Vaddr}
  {first frame : Paddr} {frames : List Paddr} {count n : Nat} {align : UInt64}

/-! ### Frames -/

/-- The frame with a number, counted from the first that is handed out. -/
def IsFrame (n : Nat) (frame : Paddr) : Prop :=
  frame.toNat = Layout.standard.physBase.toNat + n * pageSize

theorem IsFrame.dvd (h : IsFrame n frame) : pageSize ∣ frame.toNat := by
  rw [h]
  exact Nat.dvd_add (by decide) (Nat.dvd_mul_left _ _)

theorem IsFrame.of_addPages {j : Nat} (h : IsFrame n first) (hj : first.addPages j = some frame) :
    IsFrame (n + j) frame := by
  rw [Paddr.addPages_eq_some_iff] at hj
  unfold IsFrame at h ⊢
  rw [hj, h, Nat.add_mul, Nat.add_assoc]

/-- Physical memory ends long before the word does. -/
theorem frame_lt (h : n ≤ Layout.standard.physFrames) :
    Layout.standard.physBase.toNat + n * pageSize < UInt64.size := by
  have hlast : Layout.standard.physBase.toNat + Layout.standard.physFrames * pageSize <
      UInt64.size := by decide
  have hle : n * pageSize ≤ Layout.standard.physFrames * pageSize := Nat.mul_le_mul_right _ h
  omega

theorem IsFrame.addPages {j : Nat} (h : IsFrame n first)
    (hj : n + j ≤ Layout.standard.physFrames) : ∃ frame, first.addPages j = some frame := by
  have hlt := frame_lt hj
  rw [Nat.add_mul, ← Nat.add_assoc, ← h] at hlt
  exact Paddr.exists_addPages hlt

/-- A frame is known by its number. -/
theorem IsFrame.addPages_eq {j : Nat} (h : IsFrame n first)
    (hj : n + j ≤ Layout.standard.physFrames) (hframe : IsFrame (n + j) frame) :
    first.addPages j = some frame := by
  obtain ⟨found, hfound⟩ := h.addPages hj
  have hfound' : found.toNat = frame.toNat := (h.of_addPages hfound).trans hframe.symm
  rw [hfound]
  exact congrArg some (congrArg Paddr.mk (UInt64.toNat.inj hfound'))

theorem SoundSince.withFrames {trail : Trail Event} (h : SoundSince k₀ k)
    (hn : k.nextFrame + n ≤ Layout.standard.physFrames) :
    SoundSince k₀ { k with nextFrame := k.nextFrame + n, trail } :=
  ⟨⟨h.sound.layout, h.sound.noFaults, hn, h.sound.own, h.sound.aligned⟩,
    Nat.le_trans h.frames (Nat.le_add_right _ _), h.spaces⟩

/-- Frames are handed out until they run out. -/
theorem reserveFrames_leads (h : k.Sound) (hc : count ≠ 0) :
    (reserveFrames count).Leads k
      (fun first k' => k.nextFrame + count ≤ Layout.standard.physFrames ∧
        IsFrame k.nextFrame first ∧
        ∃ trail, k' = { k with nextFrame := k.nextFrame + count, trail })
      (fun why k' => ¬ k.nextFrame + count ≤ Layout.standard.physFrames ∧
        (count < UInt32.size → why = .refused .outOfMemory) ∧ k' = k) := by
  have hframes := h.frames
  have hbound : Layout.standard.physFrames + UInt32.size < UInt64.size := by decide
  have hfits : k.layout.physBase.toNat + k.layout.physFrames * pageSize < UInt64.size := by
    rw [h.layout]
    exact frame_lt (Nat.le_refl _)
  refine (reserveFrames_quiet h.noFaults hc hfits).mono ?_ ?_
  · rintro first k' ⟨hle, hfirst, hk⟩
    rw [h.layout] at hle hfirst
    exact ⟨hle, Paddr.addPages_eq_some_iff.1 hfirst, hk⟩
  -- Only a count beyond every pool can make the sum leave the word.
  · rintro why k' ⟨hfull, hwhy, hk⟩
    rw [h.layout] at hfull
    exact ⟨hfull, fun hsmall => hwhy (by omega), hk⟩

/-! ### Mapping frames -/

/-- A kernel stays sound as it grows by whole frames. -/
theorem SoundSince.grows {new : ComponentId → Nat → Paddr → Prop} (h : SoundSince k₀ k)
    (hk : k.Grows 0 new k')
    (hnew : ∀ id n frame, new id n frame → pageSize ∣ frame.toNat) : SoundSince k₀ k' := by
  have hnext : k'.nextFrame = k.nextFrame := hk.frames
  refine ⟨⟨hk.memory.layout.trans h.sound.layout, ?_, hnext ▸ h.sound.frames, ?_, ?_⟩,
    hnext ▸ h.frames, fun id hid => ?_⟩
  · refine List.eq_nil_iff_forall_not_mem.2 fun fault hfault => ?_
    have hold := hk.memory.faults fault hfault
    rw [h.sound.noFaults] at hold
    exact List.not_mem_nil hold
  · obtain ⟨own, hown, hle⟩ := h.sound.own
    obtain ⟨own', hown', hfrontier, _⟩ := hk.memory.spaces _ own hown
    rw [hk.memory.selfId, hk.memory.nextTid]
    exact ⟨own', hown', hfrontier ▸ hle⟩
  · intro id s' hs' n frame hframe
    rw [← frameAt?_eq hs'] at hframe
    rcases hk.entries id n frame hframe with hold | hin
    · cases hs : k.space? id with
      | none =>
        unfold frameAt? at hold
        rw [hs] at hold
        cases hold
      | some s =>
        rw [frameAt?_eq hs] at hold
        exact h.sound.aligned id s hs n frame hold
    · exact hnew id n frame hin
  · obtain ⟨s, hs⟩ := hasComponent_iff.1 (h.spaces id hid)
    obtain ⟨s', hs', _⟩ := hk.memory.spaces id s hs
    exact hasComponent_iff.2 ⟨s', hs'⟩

/-- A run that was handed out lies between the first frame and the end of what
was handed out. -/
theorem IsFrame.handedOut (h : IsFrame n first) (hlayout : k.layout = .standard)
    (hend : n + count ≤ k.nextFrame) : k.HandedOut first count := by
  have hmul : (n + count) * pageSize ≤ k.nextFrame * pageSize := Nat.mul_le_mul_right _ hend
  rw [Nat.add_mul] at hmul
  unfold HandedOut
  rw [hlayout, h]
  omega

/-- Physical memory ends within the word, so only the address space can be too
small. -/
theorem Sound.not_hasRoom (h : k.Sound) (hs : k.space? into = some s)
    (hover : k.Overflows into align count) : ¬ s.hasRoom align count = true := by
  rcases hover with hlarge | hroom
  · rw [h.layout] at hlarge
    exact absurd (frame_lt h.frames) (Nat.not_lt.2 hlarge)
  · rwa [hasRoom_eq hs] at hroom

/-- Frames that were handed out can be mapped wherever there is room. -/
theorem aliasFrames_sound (h : SoundSince k₀ k) (hs : k.space? into = some s)
    (hfirst : IsFrame n first) (hend : n + count ≤ k.nextFrame)
    (ha : pageSize ∣ align.toNat) :
    (aliasFrames first count align into).Leads k
      (fun vaddr k' => (s.hasRoom align count = true ∧ k'.MappedAt into vaddr first count) ∧
        SoundSince k₀ k' ∧ k'.nextFrame = k.nextFrame)
      (fun why k' => (¬ s.hasRoom align count = true ∧ why = .abort) ∧
        SoundSince k₀ k' ∧ k'.nextFrame = k.nextFrame) := by
  have hout := hfirst.handedOut h.sound.layout hend
  have hwhole : ∀ id n frame, RunIn into first count id n frame → pageSize ∣ frame.toNat := by
    rintro id _ frame ⟨_, j, _, hframe⟩
    rw [Paddr.addPages_eq_some_iff.1 hframe]
    exact Nat.dvd_add hfirst.dvd (Nat.dvd_mul_left _ _)
  refine (aliasFrames_quiet h.sound.noFaults).mono ?_ ?_
  · rintro vaddr k' ⟨hgrows, ⟨t, ht, _, hroom⟩, hmapped⟩
    obtain rfl := Option.some.inj (hs.symm.trans ht)
    exact ⟨⟨hroom, hmapped ha⟩, h.grows hgrows fun id n frame hrun => hwhole id n frame hrun.runIn,
      hgrows.frames⟩
  · rintro why k' ⟨hgrows, habort, hrefused⟩
    refine ⟨?_, h.grows hgrows hwhole, hgrows.frames⟩
    cases why with
    | refused reason => cases hs.symm.trans ((hrefused reason rfl).2 hout)
    | abort => exact ⟨h.sound.not_hasRoom hs (habort rfl hout), rfl⟩

/-- Nothing is mapped into a component that is not there. -/
theorem aliasFrames_missing (h : k.Sound) (hs : k.space? into = none) :
    (aliasFrames first count align into).Leads k (fun _ _ => False) (fun _ k' => k' = k) := by
  have missing : ∀ {β : Type} {f : Space → Step Kernel Refusal β},
      (knownSpace into >>= f).Leads k (fun _ _ => False) (fun _ k' => k' = k) := by
    intro β f
    refine Step.leads_bind.2 ((knownSpace_leads into).mono ?_ fun _ _ hnone => hnone.1)
    rintro s k' ⟨_, hthere⟩
    cases hs.symm.trans hthere
  apply Step.Leads.get_bind
  refine Step.Leads.exact_bind (fun reservedEnd _ => ?_) fun _ => rfl
  refine Step.Leads.exact_bind (fun runEnd _ => ?_) fun _ => rfl
  refine Step.Leads.ite (fun _ => Step.Leads.refuse_bind rfl) fun _ => ?_
  dsimp only
  refine Step.Leads.ite (fun _ => ?_) fun _ => Step.leads_bind.2 (Step.leads_pure.2 missing)
  refine Step.leads_bind.2 ((inject_quiet h.noFaults _).mono ?_ fun _ _ => False.elim)
  rintro gap k' ⟨_, hk⟩
  rw [hk]
  exact missing

/-! ### Checking a mapping -/

/-- A look at a page table never aborts. -/
theorem translate_sound {component : ComponentId} (h : k.Sound) :
    (Kernel.translate component vaddr : Step Kernel ε (Option Paddr)).Leads k
      (fun _ k' => k' = k) (fun _ _ => False) := by
  apply Step.Leads.get_bind
  cases hs : k.space? component with
  | none => exact Step.leads_pure.2 rfl
  | some s =>
    dsimp only
    cases hp : s.pages[vaddr.pageNumber]? with
    | none => exact Step.leads_pure.2 rfl
    | some frame =>
      refine Step.leads_map.2 (Step.leads_exact.2 ⟨fun _ _ => rfl, fun hnone => ?_⟩)
      -- The last page of the word ends with the word.
      obtain ⟨q, hq⟩ := h.aligned component s hs _ frame hp
      have hlt : frame.toNat < UInt64.size := frame.word.toNat_lt
      have hoffset : vaddr.offset < pageSize := Nat.mod_lt _ (by decide)
      have hsize : UInt64.size = 4503599627370496 * pageSize := by decide
      unfold Paddr.ofNat? at hnone
      rw [Option.map_eq_none_iff, word64?_eq_none_iff] at hnone
      have hq' : q < 4503599627370496 := by
        rw [hq, hsize, Nat.mul_comm] at hlt
        exact Nat.lt_of_mul_lt_mul_right hlt
      have hle : (q + 1) * pageSize ≤ 4503599627370496 * pageSize := Nat.mul_le_mul_right _ hq'
      rw [Nat.add_mul, Nat.one_mul, Nat.mul_comm q] at hle
      omega

/-! ### Device memory -/

/-- Device memory that fits the physical address space can be mapped wherever
there is room. -/
theorem mapDevice_sound {paddr : Paddr} {size : UInt64} (h : SoundSince k₀ k)
    (hs : k.space? into = some s) (hsize : size ≠ 0) :
    (mapDevice into paddr size).Leads k
      (fun _ k' => (deviceRangeFits paddr size = true ∧
          s.hasRoom 4096 (devicePages paddr size) = true) ∧ SoundSince k₀ k')
      (fun why k' => ((deviceRangeFits paddr size = true ∧
            ¬ s.hasRoom 4096 (devicePages paddr size) = true ∧ why = .abort) ∨
          (¬ deviceRangeFits paddr size = true ∧ ∃ reason, why = .refused reason)) ∧
        SoundSince k₀ k') := by
  have hwhole : ∀ id n frame, DeviceIn into paddr size id n frame → pageSize ∣ frame.toNat := by
    rintro id _ frame ⟨_, j, _, hframe⟩
    rw [hframe]
    exact Nat.dvd_add (Nat.dvd_sub_mod _) (Nat.dvd_mul_left _ _)
  refine mapDevice_grows.mono ?_ ?_
  · rintro _ k' ⟨⟨hfits, hroom⟩, hgrows⟩
    exact ⟨⟨hfits, hasRoom_eq hs ▸ hroom⟩, h.grows hgrows hwhole⟩
  · rintro why k' ⟨hwhy, hgrows⟩
    exact ⟨hasRoom_eq hs ▸ hwhy hsize ⟨s, hs⟩, h.grows hgrows hwhole⟩

end CapabilityBroker.Kernel
