/-
CapabilityBroker/Proofs/Kernel/Mapping.lean

What the primitives on memory add to a kernel.

`k.Grows count new k'` bounds it from above: `count` frames were handed out, and
every entry of a page table was there before or is in `new`.  On any machine, a
primitive that stops has handed nothing out, and whatever it left in a page
table is a frame that it was asked to map.  Where no fault is planned, a run of
frames is mapped whole and in place, and what can stop it is known: the run was
never handed out, the component is missing, or a number leaves its word.
-/
import CapabilityBroker.Proofs.Kernel.Move

namespace CapabilityBroker.Kernel

open Step (Stays StaysFrom)

variable {ε α : Type} {k k' k'' : Kernel} {id into : ComponentId} {s s' : Space} {vaddr : Vaddr}
  {first frame : Paddr} {frames : List Paddr} {count count' page n : Nat} {align : UInt64}
  {new new' : ComponentId → Nat → Paddr → Prop}

/-! ### Room -/

/-- Whether `count` pages fit behind the aligned frontier. -/
def Space.hasRoom (s : Space) (align : UInt64) (count : Nat) : Bool :=
  ((s.heapFrontier.alignUp align).bind (·.addPages count)).isSome

theorem Space.not_hasRoom (h : s.heapFrontier.alignUp align = none) :
    ¬ s.hasRoom align count = true := by
  unfold hasRoom
  rw [h]
  exact Bool.false_ne_true

theorem Space.hasRoom_iff (h : s.heapFrontier.alignUp align = some vaddr) :
    s.hasRoom align count = true ↔ ∃ frontier, vaddr.addPages count = some frontier := by
  unfold hasRoom
  rw [h]
  exact Option.isSome_iff_exists

/-- Whether `count` pages fit behind the aligned frontier of a component. -/
def hasRoom (k : Kernel) (into : ComponentId) (align : UInt64) (count : Nat) : Bool :=
  (k.space? into).all fun s => s.hasRoom align count

theorem hasRoom_eq (hs : k.space? into = some s) :
    k.hasRoom into align count = s.hasRoom align count := by
  unfold hasRoom
  rw [hs]
  rfl

/-! ### Runs of frames -/

/-- A run whose every frame has an address. -/
theorem exists_run? (h : ∀ i < count, ∃ frame, first.addPages i = some frame) :
    ∃ frames, first.run? count = some frames := by
  refine ⟨(List.range count).map fun i => (first.addPages i).getD ⟨0⟩, ?_⟩
  apply mapM_eq_some_iff.2
  rw [List.map_map]
  refine List.map_congr_left fun i hi => ?_
  obtain ⟨frame, hframe⟩ := h i (List.mem_range.1 hi)
  rw [Function.comp_apply, hframe, Option.getD_some]

/-- If the last frame of a run has an address, every one has. -/
theorem exists_run?_of_last (h : first.toNat + (count - 1) * pageSize < UInt64.size) :
    ∃ frames, first.run? count = some frames := by
  refine exists_run? fun i hi => Paddr.exists_addPages (Nat.lt_of_le_of_lt ?_ h)
  exact Nat.add_le_add_left (Nat.mul_le_mul_right _ (by omega)) _

/-- A frame of a run is so many pages behind the first. -/
theorem getElem?_of_run? (h : first.run? count = some frames) {j : Nat}
    (hj : frames[j]? = some frame) : j < count ∧ first.addPages j = some frame := by
  obtain ⟨hlen, hget⟩ := Paddr.run?_eq_some h
  obtain ⟨hlt, _⟩ := List.getElem?_eq_some_iff.1 hj
  rw [hlen] at hlt
  exact ⟨hlt, (hget j hlt).symm.trans hj⟩

/-- Consecutive frames are found at consecutive pages. -/
def FindsRun (k : Kernel) (component : ComponentId) (vaddr : Vaddr) (first : Paddr)
    (count : Nat) : Prop :=
  ∀ j < count, ∀ place frame, vaddr.addPages j = some place → first.addPages j = some frame →
    ∃ space, k.space? component = some space ∧ space.Finds place frame

/-- At the start of a page, the frame in the page table is what is found. -/
theorem Space.Finds.of_aligned (ha : pageSize ∣ vaddr.toNat)
    (hp : s.pages[vaddr.pageNumber]? = some frame) : s.Finds vaddr frame := by
  refine ⟨frame, hp, ?_⟩
  unfold Vaddr.offset
  rw [Nat.mod_eq_zero_of_dvd ha, Nat.add_zero]
  unfold Paddr.ofNat? Paddr.toNat
  rw [word64?_toNat]
  rfl

/-- A run that was put into the page table is found there. -/
theorem Space.finds_mapPages {frontier place : Vaddr} {j : Nat} (ha : pageSize ∣ vaddr.toNat)
    (hf : frames[j]? = some frame) (hplace : vaddr.addPages j = some place) :
    ({ s.mapPages vaddr.pageNumber frames with heapFrontier := frontier } : Space).Finds place
      frame := by
  rw [Vaddr.addPages_eq_some_iff] at hplace
  refine .of_aligned ?_ ?_
  · rw [hplace]
    exact Nat.dvd_add ha (Nat.dvd_mul_left _ _)
  · have hpage : place.pageNumber = vaddr.pageNumber + j := by
      unfold Vaddr.pageNumber
      rw [hplace]
      exact Nat.add_mul_div_right _ _ (by decide)
    rw [hpage]
    show (s.mapPages vaddr.pageNumber frames).pages[vaddr.pageNumber + j]? = _
    obtain ⟨hlt, _⟩ := List.getElem?_eq_some_iff.1 hf
    rw [getElem?_mapPages_add hlt, hf]

/-- What a mapping leaves behind: the pages are found where they should be, on
page boundaries and below the ends of both address spaces. -/
structure MappedAt (k : Kernel) (into : ComponentId) (vaddr : Vaddr) (first : Paddr)
    (count : Nat) : Prop where
  aligned : pageSize ∣ vaddr.toNat
  below : vaddr.toNat + count * pageSize < UInt64.size
  within : first.toNat + count * pageSize < UInt64.size
  finds : k.FindsRun into vaddr first count

/-- The frames of a run that was placed are found where they were placed. -/
theorem MappedAt.of_placed {frontier : Vaddr} (ha : pageSize ∣ vaddr.toNat)
    (hframes : first.run? count = some frames)
    (hend : first.toNat + count * pageSize < UInt64.size)
    (hfrontier : vaddr.addPages frames.length = some frontier)
    (hthere : k.space? into = some
      { s.mapPages vaddr.pageNumber frames with heapFrontier := frontier }) :
    k.MappedAt into vaddr first count := by
  obtain ⟨hlen, hget⟩ := Paddr.run?_eq_some hframes
  rw [hlen] at hfrontier
  refine ⟨ha, ?_, hend, fun j hj place frame hplace hframe => ?_⟩
  · rw [← Vaddr.addPages_eq_some_iff.1 hfrontier]
    exact frontier.word.toNat_lt
  · refine ⟨_, hthere, Space.finds_mapPages ha ?_ hplace⟩
    rw [hget j hj, hframe]

/-! ### Growth -/

/-- The frame that the page table of a component has at a page number. -/
def frameAt? (k : Kernel) (id : ComponentId) (n : Nat) : Option Paddr :=
  (k.space? id).bind fun s => s.pages[n]?

theorem frameAt?_eq (hs : k.space? id = some s) : k.frameAt? id n = s.pages[n]? := by
  unfold frameAt?
  rw [hs]
  rfl

/-- `count` frames were handed out, and page tables gained at most the entries
in `new`. -/
structure Grows (count : Nat) (new : ComponentId → Nat → Paddr → Prop) (k k' : Kernel) :
    Prop where
  memory : MemoryMove k k'
  frames : k'.nextFrame = k.nextFrame + count
  entries : ∀ id n frame, k'.frameAt? id n = some frame →
    k.frameAt? id n = some frame ∨ new id n frame

namespace Grows

theorem refl (k : Kernel) : k.Grows 0 new k := ⟨.refl k, rfl, fun _ _ _ => .inl⟩

/-- Before frames are handed out, only tables grew. -/
theorem after (h : k'.Grows count new k'') (h₀ : k.Grows 0 new k') : k.Grows count new k'' := by
  refine ⟨h₀.memory.trans h.memory, ?_, fun id n frame hframe => ?_⟩
  · rw [h.frames, h₀.frames, Nat.add_zero]
  · rcases h.entries id n frame hframe with hold | hnew
    · exact h₀.entries id n frame hold
    · exact .inr hnew

/-- After frames were handed out, only tables grow. -/
theorem trans (h : k.Grows count new k') (h₀ : k'.Grows 0 new k'') : k.Grows count new k'' := by
  refine ⟨h.memory.trans h₀.memory, ?_, fun id n frame hframe => ?_⟩
  · rw [h₀.frames, h.frames, Nat.add_zero]
  · rcases h₀.entries id n frame hframe with hold | hnew
    · exact h.entries id n frame hold
    · exact .inr hnew

instance : IsPreorder Kernel (Grows 0 new) where
  refl := refl
  trans _ _ _ := trans

theorem mono (h : k.Grows count new k')
    (hnew : ∀ id n frame, new id n frame → new' id n frame) : k.Grows count new' k' :=
  ⟨h.memory, h.frames,
    fun id n frame hframe => (h.entries id n frame hframe).imp_right (hnew _ _ _)⟩

/-- The count of frames and the trail. -/
theorem of_notes {trail : Trail Event} :
    k.Grows count new { k with nextFrame := k.nextFrame + count, trail } :=
  ⟨.of_notes (Nat.le_add_right _ _), rfl, fun _ _ _ => .inl⟩

/-- A component changes; its page table gains at most what is in `new`. -/
theorem of_space (hs : k.space? into = some s) (hf : s'.captblFrontier = s.captblFrontier)
    (hl : s'.liveCaps = s.liveCaps)
    (hp : ∀ n frame, s'.pages[n]? = some frame → s.pages[n]? = some frame ∨ new into n frame) :
    k.Grows 0 new (k.withSpace into s') := by
  refine ⟨.of_space hs hf hl, rfl, fun id n frame hframe => ?_⟩
  unfold Kernel.frameAt? at hframe
  rw [space?_withSpace] at hframe
  split at hframe
  · next heq =>
    subst heq
    rw [frameAt?_eq hs]
    exact hp n frame hframe
  · exact .inl hframe

end Grows

/-- The frames of a list, at consecutive pages of a component. -/
def Listed (into : ComponentId) (page : Nat) (frames : List Paddr) (id : ComponentId) (n : Nat)
    (frame : Paddr) : Prop := id = into ∧ ∃ j, n = page + j ∧ frames[j]? = some frame

theorem Grows.of_mapPages (hs : k.space? into = some s) :
    k.Grows 0 (Listed into page frames) (k.withSpace into (s.mapPages page frames)) := by
  have hslots : (s.mapPages page frames).captblFrontier = s.captblFrontier := by
    rw [Space.mapPages_eq]
  have hlive : (s.mapPages page frames).liveCaps = s.liveCaps := by rw [Space.mapPages_eq]
  refine .of_space hs hslots hlive fun n frame hframe => ?_
  rw [Space.getElem?_mapPages] at hframe
  split at hframe
  · next hin => exact .inr ⟨rfl, n - page, by omega, hframe⟩
  · exact .inl hframe

/-! ### Frames -/

theorem record_grows (event : Event) :
    Stays (Grows 0 new) (record event : Step Kernel ε Unit) := .modify fun _ => .of_notes

theorem inject_grows (fault : Fault) : Stays (Grows 0 new) (inject fault : Step Kernel ε Bool) := by
  refine .get_bind fun k => .ite (fun _ => ?_) fun _ => Stays.pure k
  have hfault : k.Grows 0 new { k with faults := (k.faults.take fault).2 } :=
    ⟨⟨rfl, rfl, rfl, rfl, Nat.le_refl _, fun _ => Faults.mem_of_take,
      fun _ s hs => ⟨s, hs, rfl, rfl⟩, fun _ => id⟩, rfl, fun _ _ _ => .inl⟩
  refine StaysFrom.bind (Step.leads_set.2 hfault) fun _ k' _ => ?_
  exact (record_grows _).bind (fun _ => Stays.pure) k'

/-- Frames are handed out in order, as long as there are enough. -/
theorem reserveFrames_grows (count : Nat) :
    (reserveFrames count).Leads k
      (fun first k' => k.nextFrame + count ≤ k.layout.physFrames ∧
        k.layout.physBase.addPages k.nextFrame = some first ∧ k.Grows count (fun _ _ _ => False) k')
      (fun _ k' => k.Grows 0 (fun _ _ _ => False) k') := by
  refine Step.Leads.ite (fun _ => Step.Leads.refuse_bind (.refl k)) fun _ => ?_
  refine Step.Leads.bind (inject_grows .failFrameReserve k) fun fires k₁ h₁ => ?_
  refine Step.Leads.ite (fun _ => Step.Leads.refuse_bind h₁) fun _ => Step.Leads.get_bind ?_
  have hlayout : k₁.layout = k.layout := h₁.memory.layout
  have hnext : k₁.nextFrame = k.nextFrame := h₁.frames
  refine Step.Leads.exact_bind (fun taken htaken => ?_) fun _ => h₁
  rw [word64?_eq_some_iff, hnext] at htaken
  refine Step.Leads.ite (fun _ => Step.Leads.refuse_bind h₁) fun hroom => ?_
  refine Step.Leads.exact_bind (fun first hfirst => ?_) fun _ => h₁
  rw [hlayout, htaken] at hroom
  rw [hlayout, hnext] at hfirst
  refine Step.Leads.set_bind (Step.Leads.modify_bind (Step.leads_pure.2 ?_))
  exact ⟨Nat.le_of_not_lt hroom, hfirst, Grows.of_notes.after h₁⟩

theorem size_le_of_addPages {p : Paddr} (h : p.addPages n = none) :
    UInt64.size ≤ p.toNat + n * pageSize := by
  refine Nat.le_of_not_lt fun hlt => ?_
  obtain ⟨p', hp'⟩ := Paddr.exists_addPages hlt
  cases h.symm.trans hp'

/-- Where no fault is planned, frames are handed out until they run out, or a number
leaves its word: the count of frames, or the address of the first. -/
theorem reserveFrames_ends (hq : k.faults.pending = []) (hc : count ≠ 0) :
    (reserveFrames count).Leads k
      (fun first k' => k.nextFrame + count ≤ k.layout.physFrames ∧
        k.layout.physBase.addPages k.nextFrame = some first ∧
        ∃ trail, k' = { k with nextFrame := k.nextFrame + count, trail })
      (fun why k' => (¬ k.nextFrame + count ≤ k.layout.physFrames ∧ why = .refused .outOfMemory ∨
        why = .abort ∧ (UInt64.size ≤ k.nextFrame + count ∨
          k.nextFrame + count ≤ k.layout.physFrames ∧
            UInt64.size ≤ k.layout.physBase.toNat + k.nextFrame * pageSize)) ∧ k' = k) := by
  refine Step.Leads.ite (fun h0 => absurd h0 hc) fun _ => ?_
  refine Step.leads_bind.2 ((inject_quiet hq _).mono ?_ fun _ _ => False.elim)
  rintro _ k' ⟨rfl, hk⟩
  rw [hk]
  apply Step.Leads.get_bind
  refine Step.Leads.exact_bind (fun taken htaken => ?_) fun hnone =>
    ⟨.inr ⟨rfl, .inl (word64?_eq_none_iff.1 hnone)⟩, rfl⟩
  rw [word64?_eq_some_iff] at htaken
  rw [htaken]
  refine Step.Leads.ite (fun hfull => Step.Leads.refuse_bind ?_) fun hroom => ?_
  · exact ⟨.inl ⟨Nat.not_le_of_lt hfull, rfl⟩, rfl⟩
  have hle : k.nextFrame + count ≤ k.layout.physFrames := Nat.le_of_not_lt hroom
  refine Step.Leads.exact_bind (fun first hfirst => ?_) fun hnone =>
    ⟨.inr ⟨rfl, .inr ⟨hle, size_le_of_addPages hnone⟩⟩, rfl⟩
  exact Step.Leads.set_bind (Step.Leads.modify_bind (Step.leads_pure.2 ⟨hle, hfirst, _, rfl⟩))

/-- On a machine whose frames all have addresses, it takes a count beyond the word to
end otherwise. -/
theorem reserveFrames_quiet (hq : k.faults.pending = []) (hc : count ≠ 0)
    (hfits : k.layout.physBase.toNat + k.layout.physFrames * pageSize < UInt64.size) :
    (reserveFrames count).Leads k
      (fun first k' => k.nextFrame + count ≤ k.layout.physFrames ∧
        k.layout.physBase.addPages k.nextFrame = some first ∧
        ∃ trail, k' = { k with nextFrame := k.nextFrame + count, trail })
      (fun why k' => ¬ k.nextFrame + count ≤ k.layout.physFrames ∧
        (k.nextFrame + count < UInt64.size → why = .refused .outOfMemory) ∧ k' = k) := by
  have hword : k.layout.physFrames ≤ k.layout.physFrames * pageSize :=
    Nat.le_mul_of_pos_right _ (by decide)
  refine (reserveFrames_ends hq hc).mono (fun _ _ => id) ?_
  rintro why _ ⟨⟨hfull, hwhy⟩ | ⟨_, hbeyond | ⟨hroom, hbeyond⟩⟩, rfl⟩
  · exact ⟨hfull, fun _ => hwhy, rfl⟩
  · exact ⟨by omega, fun hsmall => absurd hbeyond (Nat.not_le.2 hsmall), rfl⟩
  · have hmul := Nat.mul_le_mul_right pageSize (Nat.le_trans (Nat.le_add_right _ count) hroom)
    omega

theorem reserveFrames_memory (count : Nat) : Stays MemoryMove (reserveFrames count) :=
  fun _ => (reserveFrames_grows count).mono
    (fun _ _ hdone => hdone.2.2.memory) fun _ _ hstop => hstop.memory

/-! ### Mapping -/

/-- Frames are placed behind the aligned frontier of a component, and the rest
goes on from there.  If there is no room, the arithmetic leaves the word, and
the frames may be in the page table all the same. -/
theorem placeAligned_bind {found : Option (List Paddr)} {f : Vaddr → Step Kernel ε α}
    {post : α → Kernel → Prop} {stop : Stop ε → Kernel → Prop}
    (hs : k.space? into = some s) (hfound : found = some frames)
    (hf : ∀ vaddr frontier k', s.heapFrontier.alignUp align = some vaddr →
      vaddr.addPages frames.length = some frontier →
      k'.space? into = some
        { s.mapPages vaddr.pageNumber frames with heapFrontier := frontier } →
      k.Grows 0 (Listed into vaddr.pageNumber frames) k' → (f vaddr).Leads k' post stop)
    (hstop : ∀ page k', ¬ s.hasRoom align frames.length = true →
      k.Grows 0 (Listed into page frames) k' → stop .abort k') :
    (Step.exact (s.heapFrontier.alignUp align) >>= fun vaddr => Step.exact found >>= fun frames =>
      placeFrames into s vaddr frames >>= fun _ => f vaddr).Leads k post stop := by
  rw [hfound]
  refine Step.Leads.exact_bind (fun vaddr hv => ?_) fun hnone => ?_
  · refine Step.Leads.exact_bind ?_ nofun
    rintro _ ⟨⟩
    have hplaced : k.Grows 0 (Listed into vaddr.pageNumber frames)
        (k.withSpace into (s.mapPages vaddr.pageNumber frames)) := .of_mapPages hs
    refine Step.leads_bind.2 ((placeFrames_leads into s vaddr frames).mono ?_ ?_)
    · rintro _ _ ⟨frontier, hfrontier, rfl⟩
      have hthere : (k.withSpace into (s.mapPages vaddr.pageNumber frames)).space? into =
          some (s.mapPages vaddr.pageNumber frames) := space?_withSpace.trans (if_pos rfl)
      have hmoved : (k.withSpace into (s.mapPages vaddr.pageNumber frames)).Grows 0
          (Listed into vaddr.pageNumber frames)
          ((k.withSpace into (s.mapPages vaddr.pageNumber frames)).withSpace into
            { s.mapPages vaddr.pageNumber frames with heapFrontier := frontier }) :=
        .of_space hthere rfl rfl fun _ _ => .inl
      exact hf vaddr frontier _ hv hfrontier (space?_withSpace.trans (if_pos rfl))
        (hplaced.trans hmoved)
    · rintro why _ ⟨rfl, hnone, rfl⟩
      refine hstop _ _ (fun hroom => ?_) hplaced
      obtain ⟨frontier, hfrontier⟩ := (Space.hasRoom_iff hv).1 hroom
      cases hnone.symm.trans hfrontier
  · exact hstop 0 k (Space.not_hasRoom hnone) (.refl k)

/-- Whether or not a fault fires, a mapping hands no frame out. -/
theorem aliasFrames_grows (first : Paddr) (count : Nat) (align : UInt64) (into : ComponentId) :
    Stays (Grows 0 fun _ _ _ => True) (aliasFrames first count align into) := by
  refine fun k => aliasFrames_walks (I := fun _ => k.Grows 0 fun _ _ _ => True) (.refl k)
    (fun _ => .refl k) (inject_grows _ k) ?_
  intro gap k₁ _ _ h₁
  suffices hplaced : (placeRun first count align into gap).StaysFrom (Grows 0 fun _ _ _ => True) k₁
    from hplaced.after h₁
  refine knownSpace_bind fun space hs => ?_
  cases hmapped : mappedRun? first count gap with
  | none => exact .exact_bind fun _ _ => .exact_bind nofun
  | some frames =>
    refine placeAligned_bind hs rfl ?_ fun _ _ _ hgrows => hgrows.mono fun _ _ _ _ => trivial
    intro vaddr frontier k' _ _ _ hgrows
    exact Step.Leads.modify_bind
      (Step.leads_pure.2 ((hgrows.mono fun _ _ _ _ => trivial).trans .of_notes))

theorem aliasFrames_memory (first : Paddr) (count : Nat) (align : UInt64) (into : ComponentId) :
    Stays MemoryMove (aliasFrames first count align into) := fun k =>
  (aliasFrames_grows first count align into k).mono (fun _ _ hgrows => hgrows.memory)
    fun _ _ hgrows => hgrows.memory

/-! ### Mapping where no fault is planned -/

/-- The run lies within the frames that were handed out. -/
def HandedOut (k : Kernel) (first : Paddr) (count : Nat) : Prop :=
  k.layout.physBase.toNat ≤ first.toNat ∧
    first.toNat + count * pageSize ≤ k.layout.physBase.toNat + k.nextFrame * pageSize

/-- Mapping a run that was handed out would take a number out of its word: the
end of physical memory, or the end of the address space it goes to. -/
def Overflows (k : Kernel) (into : ComponentId) (align : UInt64) (count : Nat) : Prop :=
  UInt64.size ≤ k.layout.physBase.toNat + k.nextFrame * pageSize ∨
    ¬ k.hasRoom into align count = true

/-- The frames of a run, at consecutive pages of a component. -/
def RunAt (into : ComponentId) (vaddr : Vaddr) (first : Paddr) (count : Nat) (id : ComponentId)
    (n : Nat) (frame : Paddr) : Prop :=
  id = into ∧ ∃ j < count, n = vaddr.pageNumber + j ∧ first.addPages j = some frame

/-- The frames of a run, wherever in a component. -/
def RunIn (into : ComponentId) (first : Paddr) (count : Nat) (id : ComponentId) (_ : Nat)
    (frame : Paddr) : Prop :=
  id = into ∧ ∃ j < count, first.addPages j = some frame

theorem RunAt.runIn {id : ComponentId} (h : RunAt into vaddr first count id n frame) :
    RunIn into first count id n frame := by
  obtain ⟨hid, j, hj, _, hframe⟩ := h
  exact ⟨hid, j, hj, hframe⟩

theorem Listed.runAt {id : ComponentId} (hframes : first.run? count = some frames)
    (h : Listed into vaddr.pageNumber frames id n frame) :
    RunAt into vaddr first count id n frame := by
  obtain ⟨hid, j, hn, hj⟩ := h
  obtain ⟨hlt, hframe⟩ := getElem?_of_run? hframes hj
  exact ⟨hid, j, hlt, hn, hframe⟩

theorem Listed.runIn {id : ComponentId} (hframes : first.run? count = some frames)
    (h : Listed into page frames id n frame) : RunIn into first count id n frame := by
  obtain ⟨hid, j, _, hj⟩ := h
  obtain ⟨hlt, hframe⟩ := getElem?_of_run? hframes hj
  exact ⟨hid, j, hlt, hframe⟩

/-- How a mapping of a run ends where no fault is planned: the run is found in
place, or what stopped it is known. -/
abbrev MapsRun (k : Kernel) (first : Paddr) (count : Nat) (align : UInt64) (into : ComponentId)
    (step : Step Kernel Refusal Vaddr) : Prop :=
  step.Leads k
    (fun vaddr k' => k.Grows 0 (RunAt into vaddr first count) k' ∧
      (∃ s, k.space? into = some s ∧ s.heapFrontier.alignUp align = some vaddr ∧
        s.hasRoom align count = true) ∧
      (pageSize ∣ align.toNat → k'.MappedAt into vaddr first count))
    (fun why k' => k.Grows 0 (RunIn into first count) k' ∧
      (why = .abort → k.HandedOut first count → k.Overflows into align count) ∧
      (∀ reason, why = .refused reason →
        k' = k ∧ (k.HandedOut first count → k.space? into = none)))

/-- A run whose end has an address is placed without a gap, if its component is
there and has room. -/
theorem placeRun_quiet {runEnd : Paddr} (hrun : first.addPages count = some runEnd) :
    k.MapsRun first count align into (placeRun first count align into false) := by
  have hend : first.toNat + count * pageSize < UInt64.size := by
    rw [← Paddr.addPages_eq_some_iff.1 hrun]
    exact runEnd.word.toNat_lt
  have hle : (count - 1) * pageSize ≤ count * pageSize := Nat.mul_le_mul_right _ (Nat.sub_le _ _)
  have hlast : first.toNat + (count - 1) * pageSize < UInt64.size := by omega
  obtain ⟨frames, hframes⟩ := exists_run?_of_last hlast
  obtain ⟨hlen, _⟩ := Paddr.run?_eq_some hframes
  have hmapped : mappedRun? first count false = some frames := by
    unfold mappedRun?
    rw [hframes]
    rfl
  refine Step.leads_bind.2 ((knownSpace_leads into).mono ?_ ?_)
  · rintro s k₁ ⟨hk, hs⟩
    rw [hk]
    refine placeAligned_bind hs hmapped ?_ fun page k' hroom hgrows => ?_
    · intro vaddr frontier k' hv hfrontier hthere hgrows
      have hat : k.Grows 0 (RunAt into vaddr first count) k' :=
        hgrows.mono fun _ _ _ => Listed.runAt hframes
      refine Step.Leads.modify_bind (Step.leads_pure.2 ⟨hat.trans .of_notes, ⟨s, hs, hv, ?_⟩, ?_⟩)
      · rw [Space.hasRoom_iff hv, ← hlen]
        exact ⟨frontier, hfrontier⟩
      · exact fun ha => .of_placed (Vaddr.dvd_of_alignUp hv ha) hframes hend hfrontier hthere
    · refine ⟨hgrows.mono fun _ _ _ => Listed.runIn hframes, fun _ _ => .inr ?_, nofun⟩
      rwa [hasRoom_eq hs, ← hlen]
  · rintro why _ ⟨rfl, rfl, hnone⟩
    exact ⟨.refl _, nofun, fun _ _ => ⟨rfl, fun _ => hnone⟩⟩

/-- Where no fault is planned, a run that was handed out is mapped in place, if
there is room for it. -/
theorem aliasFrames_quiet (hq : k.faults.pending = []) :
    k.MapsRun first count align into (aliasFrames first count align into) := by
  apply Step.Leads.get_bind
  refine Step.Leads.exact_bind (fun reservedEnd hreserved => ?_) fun hnone =>
    ⟨.refl k, fun _ _ => .inl (size_le_of_addPages hnone), nofun⟩
  have hlast := Paddr.addPages_eq_some_iff.1 hreserved
  have hword : reservedEnd.toNat < UInt64.size := reservedEnd.word.toNat_lt
  refine Step.Leads.exact_bind (fun runEnd hrun => ?_) fun hnone => ?_
  -- Both ends of the run have addresses, and they pass the check if it was handed out.
  · have hinside : k.HandedOut first count →
        ¬ (first.word < k.layout.physBase.word ∨ runEnd.word > reservedEnd.word) := by
      rintro ⟨hlow, hhigh⟩ (hbelow | hbeyond)
      · have hlt : first.toNat < k.layout.physBase.toNat := UInt64.lt_iff_toNat_lt.1 hbelow
        omega
      · have hlt : reservedEnd.toNat < runEnd.toNat := UInt64.lt_iff_toNat_lt.1 hbeyond
        rw [Paddr.addPages_eq_some_iff.1 hrun] at hlt
        omega
    refine Step.Leads.ite (fun houtside => Step.Leads.refuse_bind ?_) fun _ => ?_
    · exact ⟨.refl k, nofun, fun _ _ => ⟨rfl, fun h => absurd houtside (hinside h)⟩⟩
    -- No fault is planned, so there is no gap, whether one is asked for or not.
    dsimp only
    refine Step.Leads.ite (fun _ => ?_) fun _ => ?_
    · refine Step.leads_bind.2 ((inject_quiet hq _).mono ?_ fun _ _ => False.elim)
      rintro _ k₁ ⟨rfl, hk⟩
      rw [hk]
      exact placeRun_quiet hrun
    · exact Step.leads_bind.2 (Step.leads_pure.2 (placeRun_quiet hrun))
  -- A run that was handed out ends where what was handed out does, or before.
  · refine ⟨.refl k, fun _ h => ?_, nofun⟩
    have hle := size_le_of_addPages hnone
    have hhigh := h.2
    omega

/-- Nothing is mapped once the frames that were handed out end beyond the word. -/
theorem aliasFrames_addressed : (aliasFrames first count align into).Leads k
    (fun _ _ => k.layout.physBase.toNat + k.nextFrame * pageSize < UInt64.size)
    (fun _ _ => True) := by
  apply Step.Leads.get_bind
  refine Step.Leads.exact_bind (fun reservedEnd hreserved => ?_) fun _ => trivial
  refine .of_forall (fun _ _ => ?_) fun _ _ => trivial
  rw [← Paddr.addPages_eq_some_iff.1 hreserved]
  exact reservedEnd.word.toNat_lt

/-! ### Checking a mapping -/

/-- What is found is what a translation answers. -/
theorem translate_finds {component : ComponentId} (hs : k.space? component = some s)
    (hf : s.Finds vaddr frame) :
    (Kernel.translate component vaddr : Step Kernel ε (Option Paddr)).Leads k
      (fun found k' => found = some frame ∧ k' = k) (fun _ _ => False) := by
  obtain ⟨base, hp, hframe⟩ := hf
  apply Step.Leads.get_bind
  rw [hs]
  dsimp only
  rw [hp]
  dsimp only
  rw [hframe]
  refine Step.leads_map.2 (Step.leads_exact.2 ⟨?_, nofun⟩)
  rintro _ ⟨⟩
  exact ⟨rfl, rfl⟩

/-- The check of a mapping passes if every page has an address and shows its
frame. -/
theorem verifyFrom_sound {component : ComponentId} {i : Nat}
    (hplace : ∀ j < i + count, ∃ place, vaddr.addPages j = some place)
    (hframe : ∀ j < i + count, ∃ frame, first.addPages j = some frame)
    (hfinds : k.FindsRun component vaddr first (i + count)) :
    (verifyFrom component vaddr first count i).Leads k (fun _ k' => k' = k)
      (fun _ _ => False) := by
  induction count generalizing i with
  | zero => exact Step.leads_pure.2 rfl
  | succ count ih =>
    obtain ⟨place, hp⟩ := hplace i (by omega)
    obtain ⟨frame, hf⟩ := hframe i (by omega)
    obtain ⟨s, hs, hshown⟩ := hfinds i (by omega) place frame hp hf
    have hnext : i + 1 + count = i + (count + 1) := by omega
    unfold verifyFrom
    rw [hp, hf]
    refine Step.Leads.exact_bind ?_ nofun
    rintro _ ⟨⟩
    refine Step.Leads.exact_bind ?_ nofun
    rintro _ ⟨⟩
    refine Step.leads_bind.2 ((translate_finds hs hshown).mono ?_ fun _ _ => False.elim)
    rintro _ k' ⟨rfl, hk⟩
    rw [hk, if_pos rfl]
    exact ih (hnext ▸ hplace) (hnext ▸ hframe) (hnext ▸ hfinds)

/-- A mapping that is in place passes its check. -/
theorem MappedAt.verifies {component : ComponentId} (h : k.MappedAt component vaddr first count) :
    (verifyContiguous component vaddr first count).Leads k (fun _ k' => k' = k)
      (fun _ _ => False) := by
  have hpages : ∀ j < 0 + count, j * pageSize ≤ count * pageSize :=
    fun j hj => Nat.mul_le_mul_right _ (by omega)
  have hbelow := h.below
  have hwithin := h.within
  refine verifyFrom_sound (fun j hj => ?_) (fun j hj => ?_) ?_
  · have hmul := hpages j hj
    exact Vaddr.exists_addPages (by omega)
  · have hmul := hpages j hj
    exact Paddr.exists_addPages (by omega)
  · rw [Nat.zero_add]
    exact h.finds

/-! ### Device memory -/

/-- The number of pages around a range of physical addresses. -/
def devicePages (paddr : Paddr) (size : UInt64) : Nat :=
  (size.toNat + paddr.toNat % pageSize + (pageSize - 1)) / pageSize

theorem deviceRangeFits_iff {paddr : Paddr} {size : UInt64} :
    deviceRangeFits paddr size = true ↔ paddr.toNat + size.toNat + pageSize < UInt64.size := by
  rw [← word64?_isSome_iff]
  exact Option.isSome_iff_exists

/-- The pages around a range that fits are counted within the word. -/
theorem exists_devicePages {paddr : Paddr} {size : UInt64}
    (hbound : paddr.toNat + size.toNat + pageSize < UInt64.size) :
    ∃ covered pages, word64? (size.toNat + paddr.toNat % pageSize) = some covered ∧
      bytesToPages covered = some pages ∧ pages.toNat = devicePages paddr size := by
  have hmod : paddr.toNat % pageSize ≤ paddr.toNat := Nat.mod_le _ _
  obtain ⟨covered, hcovered⟩ := word64?_isSome_iff.2
    (show size.toNat + paddr.toNat % pageSize < UInt64.size by omega)
  have hcovered' := word64?_eq_some_iff.1 hcovered
  have hword : covered.toNat + pageSize < UInt64.size := by omega
  have hle : (covered.toNat + (pageSize - 1)) / pageSize < UInt64.size :=
    Nat.lt_of_le_of_lt (Nat.div_le_self _ _) (by omega)
  obtain ⟨pages, hpages⟩ := word64?_isSome_iff.2 hle
  rw [word64?_eq_some_iff] at hpages
  refine ⟨covered, pages, hcovered, bytesToPages_eq_some_iff.2 ⟨hword, hpages⟩, ?_⟩
  rw [hpages, hcovered']
  rfl

/-- The address of the first page of a range. -/
theorem toNat_pageBase (paddr : Paddr) :
    (paddr.word - paddr.word % 4096).toNat = paddr.toNat - paddr.toNat % pageSize := by
  have hoffset : (paddr.word % 4096).toNat = paddr.toNat % pageSize := UInt64.toNat_mod _ _
  have hle : paddr.word % 4096 ≤ paddr.word := by
    rw [UInt64.le_iff_toNat_le, hoffset]
    exact Nat.mod_le _ _
  rw [UInt64.toNat_sub_of_le _ _ hle, hoffset]
  rfl

/-- A range that fits has a page, and its last page begins within the word. -/
theorem devicePages_bounds {paddr : Paddr} {size : UInt64} (hsize : size ≠ 0)
    (hbound : paddr.toNat + size.toNat + pageSize < UInt64.size) :
    devicePages paddr size ≠ 0 ∧
      paddr.toNat - paddr.toNat % pageSize + (devicePages paddr size - 1) * pageSize <
        UInt64.size := by
  have hpos : 0 < size.toNat := Nat.pos_of_ne_zero fun h0 => hsize (UInt64.toNat.inj h0)
  have hmod : paddr.toNat % pageSize ≤ paddr.toNat := Nat.mod_le _ _
  have hlast : devicePages paddr size * pageSize ≤
      size.toNat + paddr.toNat % pageSize + (pageSize - 1) := Nat.div_mul_le_self _ _
  have hsome : 1 ≤ devicePages paddr size := (Nat.le_div_iff_mul_le (by decide)).2 (by omega)
  refine ⟨Nat.one_le_iff_ne_zero.1 hsome, ?_⟩
  rw [Nat.sub_mul]
  omega

/-- The frame is one of those around a range of physical addresses. -/
def Covers (paddr : Paddr) (size : UInt64) (frame : Paddr) : Prop :=
  ∃ j < devicePages paddr size, frame.toNat = paddr.toNat - paddr.toNat % pageSize + j * pageSize

/-- A frame around a range of physical addresses, wherever in a component. -/
def DeviceIn (into : ComponentId) (paddr : Paddr) (size : UInt64) (id : ComponentId) (_ : Nat)
    (frame : Paddr) : Prop := id = into ∧ Covers paddr size frame

/-- The pages around a range of physical addresses, once it is known to fit and the
component to be there. -/
abbrev placeDevice (into : ComponentId) (s : Space) (paddr : Paddr) (size : UInt64)
    (base : Paddr) : Step Kernel Refusal Vaddr := do
  let vaddr ← Step.exact (s.heapFrontier.alignUp 4096)
  let frames ← Step.exact (base.run? (devicePages paddr size))
  placeFrames into s vaddr frames
  record (.hwMapped into paddr size)
  Step.exact (Vaddr.ofNat? (vaddr.toNat + paddr.toNat % pageSize))

/-- The frames of a range are mapped, and the answer is an address in the first
page. -/
theorem placeDevice_grows {paddr base : Paddr} {size : UInt64} (hs : k.space? into = some s)
    (hbase : base.toNat = paddr.toNat - paddr.toNat % pageSize)
    (hsome : devicePages paddr size ≠ 0)
    (hend : base.toNat + (devicePages paddr size - 1) * pageSize < UInt64.size) :
    (placeDevice into s paddr size base).Leads k
      (fun _ k' => s.hasRoom 4096 (devicePages paddr size) = true ∧
        k.Grows 0 (DeviceIn into paddr size) k')
      (fun why k' => (¬ s.hasRoom 4096 (devicePages paddr size) = true ∧ why = .abort) ∧
        k.Grows 0 (DeviceIn into paddr size) k') := by
  obtain ⟨frames, hframes⟩ := exists_run?_of_last hend
  obtain ⟨hlen, _⟩ := Paddr.run?_eq_some hframes
  have hdevice : ∀ page id n frame, Listed into page frames id n frame →
      DeviceIn into paddr size id n frame := by
    rintro page id n frame ⟨hid, j, _, hj⟩
    obtain ⟨hlt, hframe⟩ := getElem?_of_run? hframes hj
    exact ⟨hid, j, hlt, hbase ▸ Paddr.addPages_eq_some_iff.1 hframe⟩
  refine placeAligned_bind hs hframes ?_ ?_
  · intro vaddr frontier k' hv hfrontier _ hgrows
    rw [hlen] at hfrontier
    refine Step.Leads.modify_bind (Step.leads_exact.2 ⟨fun _ _ => ?_, fun hnone => ?_⟩)
    · exact ⟨(Space.hasRoom_iff hv).2 ⟨frontier, hfrontier⟩,
        (hgrows.mono (hdevice _)).trans .of_notes⟩
    -- The offset lies in the first page, and the frontier is behind it.
    · have hword : frontier.toNat < UInt64.size := frontier.word.toNat_lt
      have hoffset : paddr.toNat % pageSize < pageSize := Nat.mod_lt _ (by decide)
      have hone : 1 * pageSize ≤ devicePages paddr size * pageSize :=
        Nat.mul_le_mul_right _ (by omega)
      rw [Vaddr.addPages_eq_some_iff] at hfrontier
      unfold Vaddr.ofNat? at hnone
      rw [Option.map_eq_none_iff, word64?_eq_none_iff] at hnone
      omega
  · exact fun page k' hroom hgrows => ⟨⟨hlen ▸ hroom, rfl⟩, hgrows.mono (hdevice page)⟩

/-- A mapping of device memory is refused, or comes to placing the pages: the offset
and the number of pages are counted within the word. -/
theorem mapDevice_leads {paddr : Paddr} {size : UInt64} {post : Vaddr → Kernel → Prop}
    {stop : Stop Refusal → Kernel → Prop} (hempty : size = 0 → ∀ reason, stop (.refused reason) k)
    (hwraps : ¬ deviceRangeFits paddr size = true → ∀ reason, stop (.refused reason) k)
    (hunknown : k.space? into = none → ∀ reason, stop (.refused reason) k)
    (hplace : size ≠ 0 → deviceRangeFits paddr size = true → ∀ s, k.space? into = some s →
      ∀ base : Paddr, base.toNat = paddr.toNat - paddr.toNat % pageSize →
        (placeDevice into s paddr size base).Leads k post stop) :
    (mapDevice into paddr size).Leads k post stop := by
  refine Step.Leads.ite (fun h0 => Step.Leads.refuse_bind (hempty h0 _)) fun hsize => ?_
  have hoffset : (paddr.word % 4096).toNat = paddr.toNat % pageSize := UInt64.toNat_mod _ _
  have hbase := toNat_pageBase paddr
  dsimp only
  generalize paddr.word % 4096 = offset at hoffset hbase
  refine Step.Leads.ite (fun hwrapped => Step.Leads.refuse_bind (hwraps ?_ _)) fun hin => ?_
  · rw [Bool.not_eq_true'] at hwrapped
    exact ne_true_of_eq_false hwrapped
  rw [Bool.not_eq_true', Bool.not_eq_false] at hin
  obtain ⟨covered, pages, hcovered, hpages, hcount⟩ :=
    exists_devicePages (deviceRangeFits_iff.1 hin)
  rw [hoffset, hcovered]
  refine Step.Leads.exact_bind ?_ nofun
  rintro _ ⟨⟩
  rw [hpages]
  refine Step.Leads.exact_bind ?_ nofun
  rintro _ ⟨⟩
  rw [hcount]
  refine Step.leads_bind.2 ((knownSpace_leads into).mono ?_ ?_)
  · rintro s _ ⟨rfl, hs⟩
    exact hplace hsize hin s hs ⟨_⟩ hbase
  · rintro why _ ⟨rfl, rfl, hnone⟩
    exact hunknown hnone _

/-- On any machine, device memory that fits the physical address space can be
mapped wherever there is room. -/
theorem mapDevice_grows {paddr : Paddr} {size : UInt64} :
    (mapDevice into paddr size).Leads k
      (fun _ k' => (deviceRangeFits paddr size = true ∧
          k.hasRoom into 4096 (devicePages paddr size) = true) ∧
        k.Grows 0 (DeviceIn into paddr size) k')
      (fun why k' => (size ≠ 0 → (∃ s, k.space? into = some s) →
          (deviceRangeFits paddr size = true ∧
            ¬ k.hasRoom into 4096 (devicePages paddr size) = true ∧ why = .abort) ∨
          (¬ deviceRangeFits paddr size = true ∧ ∃ reason, why = .refused reason)) ∧
        k.Grows 0 (DeviceIn into paddr size) k') := by
  refine mapDevice_leads ?empty ?wraps ?unknown ?place
  case empty => exact fun h0 reason => ⟨fun hsize => absurd h0 hsize, .refl k⟩
  case wraps => exact fun hwraps reason => ⟨fun _ _ => .inr ⟨hwraps, reason, rfl⟩, .refl k⟩
  case unknown =>
    rintro hnone reason
    refine ⟨fun _ hthere => ?_, .refl k⟩
    obtain ⟨s, hs⟩ := hthere
    cases hs.symm.trans hnone
  case place =>
    intro hsize hin s hs base hbase
    obtain ⟨hsome, hend⟩ := devicePages_bounds hsize (deviceRangeFits_iff.1 hin)
    rw [← hbase] at hend
    rw [hasRoom_eq hs]
    refine (placeDevice_grows hs hbase hsome hend).mono ?_ ?_
    · exact fun _ _ hdone => ⟨⟨hin, hdone.1⟩, hdone.2⟩
    · exact fun _ _ hdone => ⟨fun _ _ => .inl ⟨hin, hdone.1⟩, hdone.2⟩

theorem mapDevice_memory (into : ComponentId) (paddr : Paddr) (size : UInt64) :
    Stays MemoryMove (mapDevice into paddr size) := fun _ =>
  mapDevice_grows.mono (fun _ _ hgrows => hgrows.2.memory) fun _ _ hgrows => hgrows.2.memory

end CapabilityBroker.Kernel
