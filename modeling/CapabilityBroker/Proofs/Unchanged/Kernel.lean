/-
CapabilityBroker/Proofs/Unchanged/Kernel.lean

What a primitive leaves of the kernel when it is refused.

Page tables, heaps and the frames handed out are as they were (`Steady`).  The
primitives on objects never touch these, and the ones on memory are refused
before they do.  Slots of capability tables may be used up by a refusal; they
may also be emptied again, but only slots from the frontier on at which the
primitive set out.
-/
import CapabilityBroker.Proofs.Kernel.Move

namespace CapabilityBroker.Kernel

open Step (Stays StaysFrom)

variable {ε α : Type} {k k' k'' first : Kernel} {owner into : ComponentId} {s : Space}
  {slots : List UInt64}

/-! ### Steady kernels -/

/-- The same components with the same pages and heaps, and no frame was handed
out in between. -/
structure Steady (k k' : Kernel) : Prop where
  nextFrame : k'.nextFrame = k.nextFrame
  kept : ∀ d s, k.space? d = some s →
    ∃ s', k'.space? d = some s' ∧ s'.pages = s.pages ∧ s'.heapFrontier = s.heapFrontier
  absent : ∀ d, k.space? d = none → k'.space? d = none

theorem Steady.refl (k : Kernel) : k.Steady k := ⟨rfl, fun _ s hs => ⟨s, hs, rfl, rfl⟩, fun _ => id⟩

theorem Steady.trans (h : k.Steady k') (h' : k'.Steady k'') : k.Steady k'' where
  nextFrame := h'.nextFrame.trans h.nextFrame
  kept d s hs := by
    obtain ⟨s₁, hs₁, hpages, hheap⟩ := h.kept d s hs
    obtain ⟨s₂, hs₂, hpages', hheap'⟩ := h'.kept d s₁ hs₁
    exact ⟨s₂, hs₂, hpages'.trans hpages, hheap'.trans hheap⟩
  absent d hn := h'.absent d (h.absent d hn)

instance : IsPreorder Kernel Steady where
  refl := .refl
  trans _ _ _ := .trans

/-- Primitives on objects that add no component. -/
theorem ObjectMove.steady (h : ObjectMove (fun _ => False) k k') : k.Steady k' where
  nextFrame := h.nextFrame
  kept d s hs := by
    obtain ⟨s', hs', hm⟩ := h.spaces d s hs
    exact ⟨s', hs', hm.pages, hm.heap⟩
  absent d hn := by
    cases hs : k'.space? d with
    | none => rfl
    | some s => exact (h.fresh d s hn hs).1.elim

theorem steady_of_objects {s : Step Kernel ε α} (h : Stays (ObjectMove fun _ => False) s) :
    Stays Steady s :=
  fun k => (h k).mono (fun _ _ => ObjectMove.steady) fun _ _ => ObjectMove.steady

/-! ### Refusals of primitives -/

/-- Whatever the reason is, a refusal leaves the kernel steady. -/
abbrev Recoils (s : Step Kernel ε α) : Prop := ∀ k, s.Reverts Steady (fun _ => True) k k

theorem inject_steady (fault : Fault) : Stays Steady (inject fault : Step Kernel ε Bool) :=
  steady_of_objects (makes_objectMove.inject fault)

theorem record_certain (event : Event) :
    Step.Certain (fun _ => True) (record event : Step Kernel ε Unit) := .modify

theorem placeFrames_certain (into : ComponentId) (s : Space) (vaddr : Vaddr)
    (frames : List Paddr) :
    Step.Certain (fun _ => True) (placeFrames into s vaddr frames : Step Kernel ε Unit) :=
  Step.Certain.modify.bind fun _ => Step.Certain.exact.bind fun _ => .modify

theorem createVmComponent_recoils (id : ComponentId) (name : String) :
    Recoils (createVmComponent id name) := by
  intro k
  have hmoves : (createVmComponent id name).Leads k (fun _ k' => ObjectMove (fun _ => True) k k' ∧
      ∃ s, k'.space? id = some s) (fun _ k' => k' = k) := createVmComponent_moves trivial name
  refine hmoves.mono (fun _ _ _ => trivial) ?_
  rintro why _ rfl
  cases why with
  | refused reason => exact fun _ => .refl _
  | abort => trivial

theorem reserveFrames_recoils (count : Nat) : Recoils (reserveFrames count) := by
  refine fun k => .ite (fun _ => .refuse_bind fun _ => .refl k) fun _ => ?_
  refine (inject_steady _ k).reverts_bind fun fires k₁ _ => ?_
  refine .ite (fun _ => .refuse_bind fun _ => .refl k₁) fun _ => .get_bind ?_
  refine .exact_bind (fun taken _ => ?_) fun _ => trivial
  refine .ite (fun _ => .refuse_bind fun _ => .refl k₁) fun _ => ?_
  refine .exact_bind (fun first _ => ?_) fun _ => trivial
  refine .set_bind (Step.Certain.reverts ?_)
  exact (record_certain _).bind fun _ => .pure

theorem mapDevice_recoils (component : ComponentId) (paddr : Paddr) (size : UInt64) :
    Recoils (mapDevice component paddr size) := by
  unfold mapDevice
  refine fun k => .ite (fun _ => .refuse_bind fun _ => .refl k) fun _ => ?_
  dsimp only
  generalize paddr.word % 4096 = offset
  refine .ite (fun _ => .refuse_bind fun _ => .refl k) fun _ => ?_
  refine .exact_bind (fun covered _ => ?_) fun _ => trivial
  refine .exact_bind (fun count _ => ?_) fun _ => trivial
  refine (Makes.knownSpace component k).reverts_bind fun space k₁ _ => ?_
  refine .exact_bind (fun vaddr _ => ?_) fun _ => trivial
  refine .exact_bind (fun frames _ => ?_) fun _ => trivial
  refine Step.Certain.reverts ((placeFrames_certain _ _ _ _).bind fun _ => ?_)
  exact (record_certain _).bind fun _ => .exact

/-! ### Taking back what was handed out -/

/-- Slots from the frontier of an earlier state on may be emptied. -/
theorem revokeSlots_above (h : Above first k)
    (hnew : ∀ slot ∈ slots, first.slotFrontier owner ≤ slot.toNat) :
    (revokeSlots owner slots).Leads k (fun _ => Above first) (fun _ => Above first) := by
  refine revokeSlots_leads.mono ?_ ?_
  · rintro _ _ ⟨s, hs, _, rfl⟩
    refine ⟨h.selfId, h.threads, fun d t ht => ?_⟩
    obtain ⟨t', ht', hle, hkept⟩ := h.spaces d t ht
    rw [space?_withSpace]
    by_cases hd : owner = d
    · subst hd
      obtain rfl := Option.some.inj (hs.symm.trans ht')
      refine ⟨_, if_pos rfl, hle, fun slot hlt hlive => Space.mem_without.2 ⟨fun hslot => ?_, ?_⟩⟩
      · -- The slots that go were not handed out in the earlier state.
        have hfrontier := hnew slot hslot
        rw [slotFrontier_eq ht] at hfrontier
        exact absurd hlt (Nat.not_lt.2 hfrontier)
      · exact hkept slot hlt hlive
    · exact ⟨t', (if_neg hd).trans ht', hle, hkept⟩
  · rintro why _ ⟨rfl, _⟩
    exact h

theorem revokeAsnd_above {asnd : Asnd} (h : Above first k)
    (hnew : first.slotFrontier first.selfId ≤ asnd.cap.slot.toNat) :
    (revokeAsnd asnd).Leads k (fun _ => Above first) (fun _ => Above first) := by
  apply Step.Leads.get_bind
  rw [h.selfId]
  refine Step.Leads.bind (revokeSlots_above h fun slot hslot => ?_) fun _ k₁ h₁ => ?_
  · rw [List.mem_singleton] at hslot
    exact hslot ▸ hnew
  · exact (makes_above.record _ (by rfl) k₁).after h₁

/-- Slots that were handed out and still name their objects can be emptied. -/
theorem revokeSlots_granted (h : ∀ slot ∈ slots, Granted first k owner slot) (hne : slots ≠ []) :
    (revokeSlots owner slots).Leads k (fun _ _ => True) (fun _ _ => False) := by
  obtain ⟨slot, hslot⟩ := List.exists_mem_of_ne_nil slots hne
  obtain ⟨s, hs, _⟩ := (h slot hslot).live
  refine revokeSlots_leads.mono (fun _ _ _ => trivial) ?_
  rintro why _ ⟨rfl, hdead⟩
  obtain ⟨dead, hmem, hgone⟩ := hdead s hs
  obtain ⟨s', hs', _, hlive⟩ := (h dead hmem).live
  obtain rfl := Option.some.inj (hs.symm.trans hs')
  exact hgone hlive

theorem revokeRcvAlias_granted {aliases : RcvAliases} (ha : Above first k)
    (h : GrantedAliases first k owner aliases) :
    (revokeRcvAlias aliases owner).Leads k (fun _ => Above first) (fun _ _ => False) := by
  have hend := (revokeSlots_above ha fun slot hslot => (h slot hslot).new).and
    (revokeSlots_granted h (List.cons_ne_nil _ _))
  refine Step.leads_bind.2 (hend.mono ?_ fun _ _ h => h.2)
  rintro _ k₁ ⟨h₁, _⟩
  exact Step.leads_modify.2 (h₁.trans (makes_above.event k₁ _ rfl))

theorem revokeRcv_granted {rcv : Rcv} (hi : k.selfId = first.selfId) (h : GrantedRcv first k rcv)
    (ht : (k.threadOwner? rcv.thread.tid).isSome) :
    (revokeRcv rcv).Leads k (fun _ _ => True) (fun _ _ => False) := by
  refine Step.Leads.get_bind (Step.Leads.ite (fun hgone => ?_) fun _ => ?_)
  · rw [Option.isNone_iff_eq_none] at hgone
    rw [hgone] at ht
    cases ht
  · rw [hi]
    refine Step.Leads.bind (revokeSlots_granted h (List.cons_ne_nil _ _)) fun _ k₁ _ => ?_
    exact Step.Leads.modify_bind (Step.leads_modify.2 trivial)

end CapabilityBroker.Kernel
