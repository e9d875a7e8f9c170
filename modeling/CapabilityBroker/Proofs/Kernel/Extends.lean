/-
CapabilityBroker/Proofs/Kernel/Extends.lean

What stays in the kernel.

`k.Extends k'` says that between the two states no live slot was emptied, and
that no thread went or came to another component.  It is what records rely on.
Making an object extends the kernel as long as slots and threads are numbered
(`Builds`), since a number that was never handed out is in nobody's hands; the
primitives on memory extend it because they do not touch objects at all.  Only
a tear-down does not, and every tear-down takes back what was made just before.
-/
import CapabilityBroker.Proofs.Kernel.Objects

namespace CapabilityBroker.Kernel

open Step (Stays StaysFrom)

variable {ε α : Type} {k k' k'' : Kernel} {id into owner : ComponentId} {s s' : Space}
  {slot : UInt64} {taken : List UInt64} {tid : ThreadId} {rcv : Rcv}

/-- Between the two states, every live slot stayed live, and every thread stayed
with its component. -/
structure Extends (k k' : Kernel) : Prop where
  selfId : k'.selfId = k.selfId
  live : k.liveSlots ⊆ k'.liveSlots
  owners : ∀ tid owner, k.threadOwner? tid = some owner → k'.threadOwner? tid = some owner

namespace Extends

theorem refl (k : Kernel) : k.Extends k := ⟨rfl, subset_rfl, fun _ _ => id⟩

theorem trans (h : k.Extends k') (h' : k'.Extends k'') : k.Extends k'' :=
  ⟨h'.selfId.trans h.selfId, h.live.trans h'.live,
    fun tid owner ho => h'.owners tid owner (h.owners tid owner ho)⟩

instance : IsPreorder Kernel Extends where
  refl := refl
  trans _ _ _ := trans

theorem holds (h : k.Extends k') (hslot : k.holds id slot = true) : k'.holds id slot = true :=
  h.live (a := (id, slot)) hslot

theorem of_threads (hself : k'.selfId = k.selfId) (hlive : k.liveSlots ⊆ k'.liveSlots)
    (hthreads : k'.threads = k.threads) : k.Extends k' := by
  refine ⟨hself, hlive, fun tid owner => ?_⟩
  unfold threadOwner?
  rw [hthreads]
  exact id

/-- The objects are the same. -/
theorem of_objects (hself : k'.selfId = k.selfId) (h : k'.objects = k.objects) : k.Extends k' :=
  have ⟨hthreads, hlive⟩ := Prod.mk.inj h
  .of_threads hself hlive.superset hthreads

theorem of_components (hself : k'.selfId = k.selfId) (hthreads : k'.threads = k.threads)
    (hc : k'.components = k.components) : k.Extends k' :=
  .of_objects hself (Prod.ext hthreads (liveSlots_eq hc))

/-- A component is new, or loses no slot. -/
theorem withSpace (h : ∀ s, k.space? into = some s → ∀ slot ∈ s.liveCaps, slot ∈ s'.liveCaps) :
    k.Extends (k.withSpace into s') := by
  refine .of_threads rfl (fun p hp => ?_) rfl
  rw [mem_liveSlots_withSpace]
  split
  · next hinto =>
    subst hinto
    obtain ⟨s, hs, hmem⟩ := mem_liveSlots.1 hp
    exact h s hs _ hmem
  · exact hp

/-- A thread is new. -/
theorem insert (hself : k'.selfId = k.selfId) (hlive : k.liveSlots ⊆ k'.liveSlots)
    (hfresh : k.threadOwner? tid = none) (hthreads : k'.threads = k.threads.insert tid owner) :
    k.Extends k' := by
  refine ⟨hself, hlive, fun tid' owner' howner => ?_⟩
  unfold threadOwner? at hfresh howner ⊢
  have hne : tid ≠ tid' := by
    rintro rfl
    cases hfresh.symm.trans howner
  rw [hthreads, Std.ExtTreeMap.getElem?_insert, if_neg]
  · exact howner
  · rwa [Std.LawfulEqCmp.compare_eq_iff_eq]

end Extends

theorem Grants.extends (h : Grants k k' into taken) (hthreads : k'.threads = k.threads) :
    k.Extends k' := .of_threads h.selfId (h.live ▸ Set.subset_union_left) hthreads

/-- A slot that was handed out is live. -/
theorem Grants.holds (h : Grants k k' into taken) (hslot : slot ∈ taken) :
    k'.holds into slot = true := h.subset (a := (into, slot)) ⟨rfl, hslot⟩

theorem MakesRcv.extends (h : MakesRcv k k' owner rcv) : k.Extends k' :=
  .insert h.grants.selfId (h.grants.live ▸ Set.subset_union_left) h.fresh h.threads

theorem MemoryMove.extends (h : MemoryMove k k') : k.Extends k' := by
  refine .of_threads h.selfId (fun p hp => ?_) h.threads
  show k'.holds p.1 p.2 = true
  rw [h.holds_eq]
  exact hp

/-! ### Making objects -/

/-- If slots and threads are numbered, they stay so, and the kernel is
extended. -/
def Builds (k k' : Kernel) : Prop := k.Numbered → k'.Numbered ∧ k.Extends k'

instance : IsPreorder Kernel Builds where
  refl k h := ⟨h, .refl k⟩
  trans := by
    intro _ _ _ h h' hk
    obtain ⟨hk', he⟩ := h hk
    obtain ⟨hk'', he'⟩ := h' hk'
    exact ⟨hk'', he.trans he'⟩

theorem Builds.of_moves {adds : ComponentId → Prop} {step : Step Kernel ε α}
    (hm : Stays (ObjectMove adds) step) (he : Stays Extends step) : Stays Builds step :=
  fun k => ((hm k).and (he k)).mono (fun _ _ h hk => ⟨h.1.numbered hk, h.2⟩)
    fun _ _ h hk => ⟨h.1.numbered hk, h.2⟩

theorem makes_builds : Makes Builds where
  fault _ _ hk := ⟨⟨hk.slots, hk.threads⟩, .of_components rfl rfl rfl⟩
  event _ _ _ hk := ⟨⟨hk.slots, hk.threads⟩, .of_components rfl rfl rfl⟩
  thread _ _ owner hnext hk :=
    ⟨hk.thread hnext owner, .insert rfl subset_rfl hk.threadOwner?_nextTid rfl⟩
  slot _ _ _ hs hroom hk :=
    have hgrants := Grants.granting hk hs hroom
    ⟨hgrants.numbered, hgrants.extends rfl⟩

/-! ### Components -/

theorem record_extends (event : Event) : Stays Extends (record event : Step Kernel ε Unit) :=
  .modify fun _ => .of_components rfl rfl rfl

theorem createComponent_extends (id : ComponentId) (name : String)
    (resources : Option Resources) : Stays Extends (createComponent id name resources) := by
  refine .get_bind fun k => ?_
  dsimp only
  split
  · next s hs =>
    refine StaysFrom.bind (Step.leads_modify.2 (.withSpace fun t ht => ?_)) fun _ k' _ =>
      record_extends _ k'
    obtain rfl := Option.some.inj (hs.symm.trans ht)
    exact fun _ hslot => hslot
  · exact .refuse_bind
  · next hn =>
    refine .exact_bind fun s _ => ?_
    refine StaysFrom.bind (Step.leads_modify.2 (.withSpace fun t ht => ?_)) fun _ k' _ =>
      record_extends _ k'
    cases hn.symm.trans ht

theorem createVmComponent_extends (id : ComponentId) (name : String) :
    Stays Extends (createVmComponent id name) := by
  refine .get_bind fun k => .ite (fun _ => .refuse_bind) fun h => .exact_bind fun s _ => ?_
  refine StaysFrom.bind (Step.leads_modify.2 (.withSpace fun t ht => ?_)) fun _ k' _ =>
    record_extends _ k'
  cases (space?_eq_none h).symm.trans ht

theorem initUlk_extends : Stays Extends initUlk :=
  .get_bind fun _ => .ite (fun _ => .refuse_bind) fun _ =>
    Step.leads_set.2 (.of_components rfl rfl rfl)

theorem mapUlk_extends (id : ComponentId) : Stays Extends (mapUlk id) := by
  refine .get_bind fun k => .ite (fun _ => .refuse_bind) fun _ => ?_
  refine knownSpace_bind fun s hs => .ite (fun _ => .refuse_bind) fun _ => ?_
  refine StaysFrom.bind (Step.leads_modify.2 (.withSpace fun t ht => ?_)) fun _ k' _ =>
    record_extends _ k'
  obtain rfl := Option.some.inj (hs.symm.trans ht)
  exact fun _ hslot => hslot

theorem createComponent_builds (id : ComponentId) (name : String)
    (resources : Option Resources) : Stays Builds (createComponent id name resources) := by
  have hmoves : Stays (ObjectMove fun _ => True) (createComponent id name resources) := fun _ =>
    (createComponent_moves trivial _ _).mono (fun _ _ => And.left) fun _ _ h => h
  exact Builds.of_moves hmoves (createComponent_extends _ _ _)

theorem createVmComponent_builds (id : ComponentId) (name : String) :
    Stays Builds (createVmComponent id name) := by
  have hmoves : Stays (ObjectMove fun _ => True) (createVmComponent id name) := fun _ =>
    (createVmComponent_moves trivial _).mono (fun _ _ => And.left) fun _ _ h => h ▸ .refl _
  exact Builds.of_moves hmoves (createVmComponent_extends _ _)

theorem initUlk_builds : Stays Builds initUlk := by
  have hmoves : Stays (ObjectMove fun _ => True) initUlk := initUlk_moves
  exact Builds.of_moves hmoves initUlk_extends

theorem mapUlk_builds (id : ComponentId) : Stays Builds (mapUlk id) := by
  have hmoves : Stays (ObjectMove fun _ => True) (mapUlk id) := mapUlk_moves id
  exact Builds.of_moves hmoves (mapUlk_extends id)

end CapabilityBroker.Kernel
