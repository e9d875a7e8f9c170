/-
CapabilityBroker/Proofs/Gap/Kernel.lean

Mappings with a gap.

One planned fault is about mappings: the last page of a run then shows the frame
behind the run.  The primitive itself answers as if nothing had happened, and only
its trail tells (`aliasFrames_gaps`).  The check that follows passes every page but
the last, and there it stops and says what it saw (`GappedAt.verifies`).  All of this
is for every length of the run.

A gap takes a run of several pages.  If the fault fires where the address space has no
room for the run, the arithmetic leaves its word before there is an address to check;
that is the only way in which a gap can go unnoticed.
-/
import CapabilityBroker.Proofs.Kernel.History

namespace CapabilityBroker.Kernel

open Step (Stays)

variable {ε : Type} {k k' : Kernel} {into : ComponentId} {s : Space} {vaddr last : Vaddr}
  {first expected found runEnd : Paddr} {frames : List Paddr} {count n i : Nat} {align : UInt64}

/-! ### Gaps on the trail -/

/-- The number of gaps that were left so far. -/
def gaps (k : Kernel) : Nat := k.trail.count fun event => event = .faultInjected .discontiguousAlias

/-- No gap was left in between. -/
def Gapless (k k' : Kernel) : Prop := k'.gaps = k.gaps

instance : IsPreorder Kernel Gapless where
  refl _ := rfl
  trans _ _ _ h h' := Eq.trans h' h

theorem gaps_record (k : Kernel) (event : Event) :
    gaps { k with trail := k.trail.record event } =
      k.gaps + if event = .faultInjected .discontiguousAlias then 1 else 0 := by
  unfold gaps
  simp only [Trail.count_record, decide_eq_true_eq]

theorem record_gapless {event : Event} (h : event ≠ .faultInjected .discontiguousAlias) :
    Stays Gapless (record event : Step Kernel ε Unit) := .modify fun k => by
  unfold Gapless
  rw [gaps_record, if_neg h, Nat.add_zero]

/-- A fault that fires is a gap if it is that fault, and nothing else. -/
theorem inject_gaps (fault : Fault) :
    (inject fault : Step Kernel ε Bool).Leads k
      (fun fires k' => k'.components = k.components ∧
        k'.gaps = k.gaps + if fires = true ∧ fault = .discontiguousAlias then 1 else 0)
      (fun _ _ => False) := by
  refine Step.Leads.get_bind (Step.Leads.ite (fun hfires => ?_) fun hquiet => ?_)
  · refine Step.Leads.set_bind (Step.Leads.modify_bind (Step.leads_pure.2 ⟨rfl, ?_⟩))
    rw [gaps_record, hfires]
    simp only [true_and, Event.faultInjected.injEq]
    rfl
  · refine Step.leads_pure.2 ⟨rfl, ?_⟩
    rw [if_neg fun h => hquiet h.1, Nat.add_zero]

/-- Frames are handed out without a look at any page table. -/
theorem reserveFrames_gapless (count : Nat) :
    Stays (fun k k' => k'.components = k.components ∧ k.Gapless k') (reserveFrames count) := by
  refine fun k => Step.Leads.ite (fun _ => Step.Leads.refuse_bind ⟨rfl, rfl⟩) fun _ => ?_
  refine Step.leads_bind.2 ((inject_gaps .failFrameReserve).mono ?_ fun _ _ => False.elim)
  rintro fires k₁ ⟨hcomponents, hgaps⟩
  have hother : ¬ (fires = true ∧ Fault.failFrameReserve = .discontiguousAlias) :=
    fun h => nomatch h.2
  rw [if_neg hother, Nat.add_zero] at hgaps
  have h₁ : k₁.components = k.components ∧ k.Gapless k₁ := ⟨hcomponents, hgaps⟩
  refine Step.Leads.ite (fun _ => Step.Leads.refuse_bind h₁) fun _ => Step.Leads.get_bind ?_
  refine Step.Leads.exact_bind (fun taken _ => ?_) fun _ => h₁
  refine Step.Leads.ite (fun _ => Step.Leads.refuse_bind h₁) fun _ => ?_
  refine Step.Leads.exact_bind (fun first _ => ?_) fun _ => h₁
  refine Step.Leads.set_bind (Step.Leads.modify_bind (Step.leads_pure.2 ⟨h₁.1, ?_⟩))
  exact (gaps_record _ _).trans h₁.2

theorem placeRun_gapless (first : Paddr) (count : Nat) (align : UInt64) (into : ComponentId)
    (gap : Bool) : Stays Gapless (placeRun first count align into gap) := by
  refine fun k => knownSpace_bind fun space _ => ?_
  refine .exact_bind fun vaddr _ => .exact_bind fun frames _ => ?_
  have hplace : Stays Gapless (placeFrames into space vaddr frames : Step Kernel Refusal Unit) :=
    Stays.bind (.modify fun _ => rfl) fun _ => Stays.exact.bind fun _ => .modify fun _ => rfl
  have hrecord : Stays Gapless
      (record (.framesMapped into vaddr count) : Step Kernel Refusal Unit) := record_gapless nofun
  exact hplace.bind (fun _ => hrecord.bind fun _ => .pure) k

/-! ### A run with a gap -/

/-- Every page of the range shows its frame of the run, but the last page shows the
frame behind the run. -/
structure GappedAt (k : Kernel) (into : ComponentId) (vaddr : Vaddr) (first : Paddr) (count : Nat)
    (last : Vaddr) (expected found : Paddr) : Prop where
  several : 1 < count
  place : vaddr.addPages (count - 1) = some last
  frame : first.addPages (count - 1) = some expected
  behind : first.addPages count = some found
  before : ∀ j < count - 1, k.FindsPage into vaddr first j
  shown : ∃ space, k.space? into = some space ∧ space.Finds last found

/-- What is written down afterwards is no part of it. -/
theorem GappedAt.record {trail : Trail Event}
    (h : k.GappedAt into vaddr first count last expected found) :
    GappedAt { k with trail } into vaddr first count last expected found :=
  ⟨h.several, h.place, h.frame, h.behind, h.before, h.shown⟩

/-- The frames of a run with a gap: the last one is that behind the run. -/
theorem mappedRun?_gap (hframes : first.run? count = some frames)
    (hrun : first.addPages count = some runEnd) :
    mappedRun? first count true = some (frames.dropLast ++ [runEnd]) := by
  unfold mappedRun?
  rw [hframes, hrun]
  rfl

/-- A run with a gap that was placed is found where it was placed. -/
theorem GappedAt.of_placed {frontier : Vaddr} (hmany : 1 < count) (ha : pageSize ∣ vaddr.toNat)
    (hframes : first.run? count = some frames) (hrun : first.addPages count = some runEnd)
    (hfrontier : vaddr.addPages (frames.dropLast ++ [runEnd]).length = some frontier)
    (hthere : k.space? into = some { s.mapPages vaddr.pageNumber (frames.dropLast ++ [runEnd]) with
      heapFrontier := frontier }) :
    ∃ last expected, k.GappedAt into vaddr first count last expected runEnd := by
  obtain ⟨hlen, hget⟩ := Paddr.run?_eq_some hframes
  have hdrop : frames.dropLast.length = count - 1 := by rw [List.length_dropLast, hlen]
  rw [List.length_append, hdrop, List.length_singleton, Nat.sub_add_cancel (by omega),
    Vaddr.addPages_eq_some_iff] at hfrontier
  -- Below the frontier, every page has an address.
  have hplace : ∀ j < count, ∃ place, vaddr.addPages j = some place := by
    intro j hj
    have hword : frontier.toNat < UInt64.size := frontier.word.toNat_lt
    have hmul : j * pageSize ≤ count * pageSize := Nat.mul_le_mul_right _ (Nat.le_of_lt hj)
    exact Vaddr.exists_addPages (by omega)
  have hframe : ∀ j < count, ∃ frame, first.addPages j = some frame ∧ frames[j]? = some frame := by
    intro j hj
    have hat := List.getElem?_eq_getElem (hlen.symm ▸ hj : j < frames.length)
    exact ⟨_, (hget j hj).symm.trans hat, hat⟩
  obtain ⟨last, hlast⟩ := hplace (count - 1) (by omega)
  obtain ⟨expected, hexpected, _⟩ := hframe (count - 1) (by omega)
  refine ⟨last, expected, hmany, hlast, hexpected, hrun, fun j hj => ?_, _, hthere, ?_⟩
  · obtain ⟨place, hj'⟩ := hplace j (by omega)
    obtain ⟨frame, hframe, hat⟩ := hframe j (by omega)
    refine ⟨place, frame, hj', hframe, _, hthere, Space.finds_mapPages ha ?_ hj'⟩
    rw [List.getElem?_append_left (hdrop.symm ▸ hj), List.getElem?_dropLast, hlen, if_pos hj, hat]
  · refine Space.finds_mapPages ha ?_ hlast
    rw [← hdrop, List.getElem?_concat_length]

/-- With a gap, a run is placed all the same, if there is room for it. -/
theorem placeRun_gapped (hmany : 1 < count) (ha : pageSize ∣ align.toNat)
    (hs : k.space? into = some s) (hrun : first.addPages count = some runEnd) :
    (placeRun first count align into true).Leads k
      (fun vaddr k' => ∃ last expected found,
        k'.GappedAt into vaddr first count last expected found)
      (fun why _ => why = .abort ∧ ¬ k.hasRoom into align count = true) := by
  have hlast : first.toNat + (count - 1) * pageSize < UInt64.size := by
    have hword : runEnd.toNat < UInt64.size := runEnd.word.toNat_lt
    have hle : (count - 1) * pageSize ≤ count * pageSize :=
      Nat.mul_le_mul_right _ (Nat.sub_le _ _)
    rw [Paddr.addPages_eq_some_iff.1 hrun] at hword
    omega
  obtain ⟨frames, hframes⟩ := exists_run?_of_last hlast
  obtain ⟨hlen, _⟩ := Paddr.run?_eq_some hframes
  refine Step.leads_bind.2 ((knownSpace_leads into).mono ?_ ?_)
  · rintro space _ ⟨rfl, hspace⟩
    refine placeAligned_bind hspace (mappedRun?_gap hframes hrun) ?_ fun page k' hroom _ => ?_
    · intro vaddr frontier k' hv hfrontier hthere _
      refine Step.Leads.modify_bind (Step.leads_pure.2 ?_)
      obtain ⟨last, expected, hgapped⟩ := GappedAt.of_placed hmany (Vaddr.dvd_of_alignUp hv ha)
        hframes hrun hfrontier hthere
      exact ⟨last, expected, runEnd, hgapped.record⟩
    · rw [List.length_append, List.length_dropLast, hlen, List.length_singleton,
        Nat.sub_add_cancel (by omega)] at hroom
      exact ⟨rfl, hasRoom_eq hspace ▸ hroom⟩
  · rintro why _ ⟨rfl, _, hnone⟩
    cases hs.symm.trans hnone

/-- How a mapping of a run ends on any machine: the run is in place, or it is but for
the gap that is on the trail.  A gap is lost only where there is no room. -/
theorem aliasFrames_gaps (ha : pageSize ∣ align.toNat) (hs : k.space? into = some s) :
    (aliasFrames first count align into).Leads k
      (fun vaddr k' => (k'.gaps = k.gaps ∧ k'.MappedAt into vaddr first count) ∨
        (k'.gaps = k.gaps + 1 ∧
          ∃ last expected found, k'.GappedAt into vaddr first count last expected found))
      (fun why k' => k'.gaps = k.gaps ∨ (why = .abort ∧ ¬ k.hasRoom into align count = true)) := by
  refine aliasFrames_walks
    (I := fun gap k' => k'.components = k.components ∧ k'.gaps = k.gaps + gap.toNat)
    ⟨rfl, rfl⟩ (fun _ => .inl rfl) ((inject_gaps _).mono ?_ fun _ _ => False.elim) ?_
  · rintro fires k' ⟨hcomponents, hgaps⟩
    refine ⟨hcomponents, hgaps.trans ?_⟩
    cases fires <;> simp
  rintro gap k' hmany ⟨runEnd, hrun⟩ ⟨hcomponents, hgaps⟩
  have hs' : k'.space? into = some s := by
    unfold space? at hs ⊢
    rwa [hcomponents]
  have hroom : k'.hasRoom into align count = k.hasRoom into align count := by
    rw [hasRoom_eq hs, hasRoom_eq hs']
  have hkeep := placeRun_gapless first count align into gap k'
  cases gap with
  | false =>
    refine (hkeep.and (placeRun_quiet hrun)).mono ?_ ?_
    · rintro vaddr k'' ⟨hsame, _, _, hmapped⟩
      exact .inl ⟨Eq.trans hsame hgaps, hmapped ha⟩
    · rintro why k'' ⟨hsame, _⟩
      exact .inl (Eq.trans hsame hgaps)
  | true =>
    refine (hkeep.and (placeRun_gapped (hmany rfl) ha hs' hrun)).mono ?_ ?_
    · rintro vaddr k'' ⟨hsame, hgapped⟩
      exact .inr ⟨Eq.trans hsame hgaps, hgapped⟩
    · rintro why k'' ⟨_, habort, hfull⟩
      exact .inr ⟨habort, hroom ▸ hfull⟩

/-! ### The check -/

/-- A check stops at the first page that does not show its frame, and says so. -/
theorem verifyFrom_stops (hbefore : ∀ j, i ≤ j → j < i + n → k.FindsPage into vaddr first j)
    (hlast : vaddr.addPages (i + n) = some last)
    (hexpected : first.addPages (i + n) = some expected)
    (hs : k.space? into = some s) (hfound : s.Finds last found) (hne : found ≠ expected) :
    (verifyFrom into vaddr first (n + 1) i).Leads k (fun _ _ => False)
      (fun why k' => k' = k ∧
        why = .refused (.contiguityViolation into last expected (some found))) := by
  induction n generalizing i with
  | zero =>
    unfold verifyFrom
    rw [show vaddr.addPages i = some last from hlast,
      show first.addPages i = some expected from hexpected]
    refine Step.Leads.exact_bind ?_ fun hnone => by cases hnone
    rintro _ ⟨⟩
    refine Step.Leads.exact_bind ?_ fun hnone => by cases hnone
    rintro _ ⟨⟩
    refine Step.leads_bind.2 ((translate_finds hs hfound).mono ?_ fun _ _ => False.elim)
    rintro _ k' ⟨rfl, rfl⟩
    rw [if_neg fun h => hne (Option.some.inj h)]
    exact Step.leads_refuse.2 ⟨rfl, rfl⟩
  | succ n ih =>
    obtain ⟨place, frame, hplace, hframe, space, hspace, hfinds⟩ :=
      hbefore i (Nat.le_refl i) (by omega)
    have hnext : i + 1 + n = i + (n + 1) := by omega
    unfold verifyFrom
    rw [hplace, hframe]
    refine Step.Leads.exact_bind ?_ fun hnone => by cases hnone
    rintro _ ⟨⟩
    refine Step.Leads.exact_bind ?_ fun hnone => by cases hnone
    rintro _ ⟨⟩
    refine Step.leads_bind.2 ((translate_finds hspace hfinds).mono ?_ fun _ _ => False.elim)
    rintro _ k' ⟨rfl, hk⟩
    rw [hk, if_pos rfl]
    exact ih (fun j hle hlt => hbefore j (by omega) (by omega)) (hnext ▸ hlast)
      (hnext ▸ hexpected)

/-- A gap does not pass the check, and what is said of it is right. -/
theorem GappedAt.verifies (h : k.GappedAt into vaddr first count last expected found) :
    (verifyContiguous into vaddr first count).Leads k (fun _ _ => False)
      (fun why k' => k' = k ∧
        why = .refused (.contiguityViolation into last expected (some found))) := by
  have hne : found ≠ expected := by
    rintro rfl
    have hat := Paddr.addPages_eq_some_iff.1 h.frame
    have hmany := h.several
    have hstep : (count - 1) * pageSize < count * pageSize :=
      Nat.mul_lt_mul_of_pos_right (by omega) (by decide)
    rw [Paddr.addPages_eq_some_iff.1 h.behind] at hat
    omega
  obtain ⟨space, hs, hfound⟩ := h.shown
  obtain ⟨n, rfl⟩ : ∃ n, count = n + 1 := ⟨count - 1, by have := h.several; omega⟩
  have hlen : 0 + n = n + 1 - 1 := Nat.zero_add n
  exact verifyFrom_stops (fun j _ hlt => h.before j (hlen ▸ hlt)) (hlen ▸ h.place)
    (hlen ▸ h.frame) hs hfound hne

/-! ### Translations of a run -/

/-- Every page of the range is translated to its frame of the run. -/
def TranslatesRun (k : Kernel) (into : ComponentId) (vaddr : Vaddr) (first : Paddr)
    (count : Nat) : Prop :=
  ∀ j < count, ∃ place frame, vaddr.addPages j = some place ∧ first.addPages j = some frame ∧
    k.Translates into place frame

/-- A mapping that is in place translates its run. -/
theorem MappedAt.translatesRun (h : k.MappedAt into vaddr first count) :
    k.TranslatesRun into vaddr first count := by
  intro j hj
  have hbelow := h.below
  have hwithin := h.within
  have hmul : j * pageSize ≤ count * pageSize := Nat.mul_le_mul_right _ (Nat.le_of_lt hj)
  obtain ⟨place, hplace⟩ := Vaddr.exists_addPages (v := vaddr) (n := j) (by omega)
  obtain ⟨frame, hframe⟩ := Paddr.exists_addPages (p := first) (n := j) (by omega)
  obtain ⟨space, hs, base, hpage, hfound⟩ := h.finds j hj place frame hplace hframe
  have hbase : k.frameAt? into place.pageNumber = some base := (frameAt?_eq hs).trans hpage
  exact ⟨place, frame, hplace, hframe, translates_iff.2 ⟨base, hbase, hfound⟩⟩

end CapabilityBroker.Kernel
