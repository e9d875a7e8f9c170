/-
CapabilityBroker/Proofs/Kernel/Advance.lean

What a kernel primitive may do to the components that are there.

A warrant names the components whose capability table may change, those that
may gain mappings, and whether the system is still starting.  `Advance w k k'`
says that between `k` and `k'` every component stayed, and that nothing of it
changed which the warrant does not name; the broker's own capability table may
always change.  Two things hold under any warrant: a heap frontier never goes
back, and below the frontier the page table stays as it is.  Each primitive
has one lemma, which holds for its refusals and aborts as well.
-/
import CapabilityBroker.Kernel.Execution
import CapabilityBroker.Proofs.Kernel.Pages
import CapabilityBroker.Proofs.Outcome

namespace CapabilityBroker.Kernel

open Step (Stays StaysFrom)

/-- What a step may do to components. -/
structure Warrant where
  /-- Capability tables may change. -/
  caps : ComponentId → Prop
  /-- Mappings may be added. -/
  maps : ComponentId → Prop
  /-- Names and shared regions may be set. -/
  starting : Prop

/-- Anything may be done. -/
def Warrant.any : Warrant := ⟨fun _ => True, fun _ => True, True⟩

/-! ### One component -/

/-- How a component may change, with a permission for each of its parts. -/
structure Space.Advance (caps maps starting : Prop) (s s' : Space) : Prop where
  limit : s'.captblLimit = s.captblLimit
  isVm : s'.isVm = s.isVm
  shared : ¬ starting → s'.name = s.name ∧ s'.ulkMapped = s.ulkMapped
  slots : ¬ caps → s'.liveCaps = s.liveCaps ∧ s'.captblFrontier = s.captblFrontier
  mapped : ¬ maps → s'.pages = s.pages ∧ s'.heapFrontier = s.heapFrontier
  frontier : s.heapFrontier.toNat ≤ s'.heapFrontier.toNat
  below : ∀ n, (n + 1) * pageSize ≤ s.heapFrontier.toNat → s'.pages[n]? = s.pages[n]?

namespace Space.Advance

variable {caps maps starting : Prop} {s s' s'' : Space}

theorem refl (s : Space) : Space.Advance caps maps starting s s :=
  ⟨rfl, rfl, fun _ => ⟨rfl, rfl⟩, fun _ => ⟨rfl, rfl⟩, fun _ => ⟨rfl, rfl⟩, Nat.le_refl _,
    fun _ _ => rfl⟩

theorem trans (h : Space.Advance caps maps starting s s')
    (h' : Space.Advance caps maps starting s' s'') : Space.Advance caps maps starting s s'' where
  limit := h'.limit.trans h.limit
  isVm := h'.isVm.trans h.isVm
  shared hn := ⟨(h'.shared hn).1.trans (h.shared hn).1, (h'.shared hn).2.trans (h.shared hn).2⟩
  slots hn := ⟨(h'.slots hn).1.trans (h.slots hn).1, (h'.slots hn).2.trans (h.slots hn).2⟩
  mapped hn := ⟨(h'.mapped hn).1.trans (h.mapped hn).1, (h'.mapped hn).2.trans (h.mapped hn).2⟩
  frontier := Nat.le_trans h.frontier h'.frontier
  below n hn := (h'.below n (Nat.le_trans hn h.frontier)).trans (h.below n hn)

/-- What some permissions allow, all of them allow. -/
theorem any {p : Prop} (h : Space.Advance caps maps starting s s') :
    Space.Advance (True ∨ p) True True s s' where
  limit := h.limit
  isVm := h.isVm
  shared hn := absurd trivial hn
  slots hn := absurd (.inl trivial) hn
  mapped hn := absurd trivial hn
  frontier := h.frontier
  below := h.below

/-- Only the capability table changes. -/
theorem of_caps (hc : caps) {live : Std.ExtTreeSet UInt64} {frontier : UInt64} :
    Space.Advance caps maps starting s { s with liveCaps := live, captblFrontier := frontier } :=
  ⟨rfl, rfl, fun _ => ⟨rfl, rfl⟩, fun hn => absurd hc hn, fun _ => ⟨rfl, rfl⟩, Nat.le_refl _,
    fun _ _ => rfl⟩

/-- Only the name and the shared region change. -/
theorem of_starting (hs : starting) {name : String} {ulkMapped : Bool} :
    Space.Advance caps maps starting s { s with name := name, ulkMapped := ulkMapped } :=
  ⟨rfl, rfl, fun hn => absurd hs hn, fun _ => ⟨rfl, rfl⟩, fun _ => ⟨rfl, rfl⟩, Nat.le_refl _,
    fun _ _ => rfl⟩

/-- Pages are mapped from the heap frontier on. -/
theorem of_mapPages (hm : maps) {vaddr : Vaddr} {frames : List Paddr}
    (hv : s.heapFrontier.toNat ≤ vaddr.toNat) :
    Space.Advance caps maps starting s (s.mapPages vaddr.pageNumber frames) := by
  rw [mapPages_eq]
  refine ⟨rfl, rfl, fun _ => ⟨rfl, rfl⟩, fun _ => ⟨rfl, rfl⟩, fun hn => absurd hm hn,
    Nat.le_refl _, fun n hn => ?_⟩
  exact getElem?_mapPages_of_lt (Vaddr.lt_pageNumber (Nat.le_trans hn hv))

/-- Only the heap frontier moves. -/
theorem of_frontier (hm : maps) {frontier : Vaddr}
    (hf : s.heapFrontier.toNat ≤ frontier.toNat) :
    Space.Advance caps maps starting s { s with heapFrontier := frontier } :=
  ⟨rfl, rfl, fun _ => ⟨rfl, rfl⟩, fun _ => ⟨rfl, rfl⟩, fun hn => absurd hm hn, hf,
    fun _ _ => rfl⟩

end Space.Advance

/-! ### The kernel -/

/-- Components stay, and change only as the warrant says.  New ones come with
nothing. -/
structure Advance (w : Warrant) (k k' : Kernel) : Prop where
  selfId : k'.selfId = k.selfId
  spaces : ∀ d s, k.space? d = some s → ∃ s', k'.space? d = some s' ∧
    Space.Advance (w.caps d ∨ d = k.selfId) (w.maps d) w.starting s s'
  fresh : ∀ d s', k.space? d = none → k'.space? d = some s' →
    (¬ w.maps d → s'.pages = ∅) ∧ (¬ (w.caps d ∨ d = k.selfId) → s'.liveCaps = ∅)

variable {w : Warrant} {ε α : Type} {k k' : Kernel} {into owner : ComponentId} {s s' : Space}

theorem Advance.refl (k : Kernel) : Advance w k k :=
  ⟨rfl, fun _ s hs => ⟨s, hs, .refl s⟩, fun _ _ hn hs => by cases hn.symm.trans hs⟩

theorem Advance.trans {k'' : Kernel} (h : Advance w k k') (h' : Advance w k' k'') :
    Advance w k k'' := by
  refine ⟨h'.selfId.trans h.selfId, fun d s hs => ?_, fun d s₂ hn hs₂ => ?_⟩
  · obtain ⟨s₁, hs₁, ha₁⟩ := h.spaces d s hs
    obtain ⟨s₂, hs₂, ha₂⟩ := h'.spaces d s₁ hs₁
    rw [h.selfId] at ha₂
    exact ⟨s₂, hs₂, ha₁.trans ha₂⟩
  · cases hs₁ : k'.space? d with
    | none =>
      rw [← h.selfId]
      exact h'.fresh d s₂ hs₁ hs₂
    | some s₁ =>
      obtain ⟨hpages, hlive⟩ := h.fresh d s₁ hn hs₁
      obtain ⟨t, ht, ha⟩ := h'.spaces d s₁ hs₁
      cases Option.some.inj (ht.symm.trans hs₂)
      rw [h.selfId] at ha
      exact ⟨fun hm => (ha.mapped hm).1.trans (hpages hm),
        fun hc => (ha.slots hc).1.trans (hlive hc)⟩

instance : IsPreorder Kernel (Advance w) where
  refl := Advance.refl
  trans _ _ _ := Advance.trans

/-- What a warrant allows is allowed without one. -/
theorem Advance.any (h : Advance w k k') : Advance .any k k' where
  selfId := h.selfId
  spaces d s hs := by
    obtain ⟨s', hs', ha⟩ := h.spaces d s hs
    exact ⟨s', hs', ha.any⟩
  fresh _ _ _ _ := ⟨fun hno => absurd trivial hno, fun hno => absurd (.inl trivial) hno⟩

/-- The components are untouched. -/
theorem Advance.of_components (hi : k'.selfId = k.selfId) (hc : k'.components = k.components) :
    Advance w k k' := by
  have hsame : ∀ d, k'.space? d = k.space? d := fun d => by unfold space?; rw [hc]
  refine ⟨hi, fun d s hs => ⟨s, (hsame d).trans hs, .refl s⟩, fun d s' hn hs' => ?_⟩
  cases hn.symm.trans ((hsame d).symm.trans hs')

/-- A kernel with one component put in place. -/
def withSpace (k : Kernel) (id : ComponentId) (s : Space) : Kernel :=
  { k with components := k.components.insert id s }

@[simp] theorem selfId_withSpace : (k.withSpace into s).selfId = k.selfId := rfl

@[simp] theorem space?_withSpace {d : ComponentId} :
    (k.withSpace into s).space? d = if into = d then some s else k.space? d := by
  simp only [withSpace, space?, Std.ExtTreeMap.getElem?_insert, Std.LawfulEqCmp.compare_eq_iff_eq]

theorem hasComponent_iff {id : ComponentId} :
    k.hasComponent id = true ↔ ∃ s, k.space? id = some s := Option.isSome_iff_exists

theorem not_hasComponent {id : ComponentId} (h : k.space? id = none) :
    ¬ k.hasComponent id = true := by
  simp [hasComponent, h]

/-- A component put in place keeps every component there. -/
theorem hasComponent_withSpace {id : ComponentId} (h : k.hasComponent id = true) :
    (k.withSpace into s).hasComponent id = true := by
  obtain ⟨t, ht⟩ := hasComponent_iff.1 h
  rw [hasComponent_iff, space?_withSpace]
  split
  · exact ⟨s, rfl⟩
  · exact ⟨t, ht⟩

/-- One component is replaced. -/
theorem Advance.of_space (hs : k.space? into = some s)
    (ha : Space.Advance (w.caps into ∨ into = k.selfId) (w.maps into) w.starting s s') :
    Advance w k (k.withSpace into s') := by
  refine ⟨rfl, fun d t ht => ?_, fun d t hn ht => ?_⟩
  · rw [space?_withSpace]
    by_cases hd : into = d
    · subst hd
      cases Option.some.inj (hs.symm.trans ht)
      exact ⟨s', if_pos rfl, ha⟩
    · rw [if_neg hd]
      exact ⟨t, ht, .refl t⟩
  · rw [space?_withSpace] at ht
    split at ht
    · next hd => cases (hd ▸ hs).symm.trans hn
    · cases hn.symm.trans ht

/-- One component is new. -/
theorem Advance.of_new (hn : k.space? into = none) (hp : s.pages = ∅) (hl : s.liveCaps = ∅) :
    Advance w k (k.withSpace into s) := by
  refine ⟨rfl, fun d t ht => ⟨t, ?_, .refl t⟩, fun d t hn' ht => ?_⟩
  · have hd : into ≠ d := by
      rintro rfl
      cases hn.symm.trans ht
    rw [space?_withSpace, if_neg hd]
    exact ht
  · rw [space?_withSpace] at ht
    split at ht
    · cases Option.some.inj ht
      exact ⟨fun _ => hp, fun _ => hl⟩
    · cases hn'.symm.trans ht

/-! ### The steps that the primitives share -/

theorem record_stays (event : Event) : Stays (Advance w) (record event : Step Kernel ε Unit) :=
  .modify fun _ => .of_components rfl rfl

theorem setSpace_staysFrom (hs : k.space? into = some s)
    (ha : Space.Advance (w.caps into ∨ into = k.selfId) (w.maps into) w.starting s s') :
    (setSpace into s' : Step Kernel ε Unit).StaysFrom (Advance w) k :=
  Step.leads_modify.2 (.of_space hs ha)

theorem setSpace_new_staysFrom (hn : k.space? into = none) (hp : s.pages = ∅)
    (hl : s.liveCaps = ∅) : (setSpace into s : Step Kernel ε Unit).StaysFrom (Advance w) k :=
  Step.leads_modify.2 (.of_new hn hp hl)

theorem knownSpace_leads (id : ComponentId) :
    (knownSpace id).Leads k (fun s k' => k' = k ∧ k.space? id = some s)
      (fun why k' => k' = k ∧ why = .refused (.unknownComponent id) ∧ k.space? id = none) := by
  refine Step.Leads.get_bind (Step.leads_require.2 ⟨fun s hs => ?_, fun hs => ?_⟩)
  · exact ⟨rfl, hs⟩
  · exact ⟨rfl, rfl, hs⟩

/-- A component is looked up, and the rest may use what was seen. -/
theorem knownSpace_bind {R : Kernel → Kernel → Prop} [IsPreorder Kernel R]
    {f : Space → Step Kernel Refusal α}
    (h : ∀ s, k.space? owner = some s → (f s).StaysFrom R k) :
    (knownSpace owner >>= f).StaysFrom R k := by
  refine Step.leads_bind.2 ((knownSpace_leads owner).mono ?_ ?_)
  · rintro s _ ⟨rfl, hs⟩
    exact h s hs
  · rintro why _ ⟨rfl, _⟩
    exact refl_of R _

theorem inject_stays (fault : Fault) : Stays (Advance w) (inject fault : Step Kernel ε Bool) := by
  refine .get_bind fun k => .ite (fun _ => ?_) fun _ => Stays.pure k
  refine StaysFrom.bind (Step.leads_set.2 (.of_components rfl rfl)) fun _ k' _ => ?_
  exact (record_stays _).bind (fun _ => Stays.pure) k'

/-- No fault fires where none is planned. -/
theorem inject_quiet (hq : k.faults.pending = []) (fault : Fault) :
    (inject fault : Step Kernel ε Bool).Leads k (fun fires k' => fires = false ∧ k' = k)
      (fun _ _ => False) := by
  apply Step.Leads.get_bind
  have htake : k.faults.take fault = (false, k.faults) := by
    unfold Faults.take
    rw [hq, if_neg List.not_mem_nil]
  rw [htake]
  exact Step.leads_pure.2 ⟨rfl, rfl⟩

theorem failOn_stays (fault : Fault) (reason : String) :
    Stays (Advance w) (failOn fault reason) :=
  (inject_stays fault).bind fun _ => .ite .refuse .pure

theorem allocateSlot_staysFrom (h : w.caps into ∨ into = k.selfId) :
    (allocateSlot into).StaysFrom (Advance w) k := by
  refine knownSpace_bind fun s hs => .ite (fun _ => Stays.refuse k) fun _ => ?_
  refine StaysFrom.bind (setSpace_staysFrom hs (.of_caps h)) fun _ k' _ => ?_
  exact Stays.pure k'

theorem allocateSlot_stays (h : w.caps into) : Stays (Advance w) (allocateSlot into) :=
  fun _ => allocateSlot_staysFrom (.inl h)

theorem revokeSlots_staysFrom (slots : List UInt64) (h : w.caps owner ∨ owner = k.selfId) :
    (revokeSlots owner slots).StaysFrom (Advance w) k := by
  refine knownSpace_bind fun s hs => ?_
  split
  · exact Stays.refuse k
  · exact setSpace_staysFrom hs (.of_caps h)

/-! ### Components -/

/-- A component just made has no pages and no capabilities. -/
theorem Space.empty_of_create? {layout : Layout} {name : String} {heap : Vaddr}
    {captbl : UInt64} (h : Space.create? layout name heap captbl = some s) :
    s.pages = ∅ ∧ s.liveCaps = ∅ := by
  obtain ⟨limit, _, rfl⟩ := Option.map_eq_some_iff.1 h
  exact ⟨rfl, rfl⟩

theorem space?_eq_none {id : ComponentId} (h : ¬ k.hasComponent id = true) :
    k.space? id = none := by
  unfold hasComponent at h
  rwa [Bool.not_eq_true, Option.isSome_eq_false_iff, Option.isNone_iff_eq_none] at h

/-- The heap and the capability table of a new component begin where they are asked to
begin, and the table has the slots that the layout says. -/
theorem Space.frontiers_of_create? {layout : Layout} {name : String} {heap : Vaddr}
    {captbl : UInt64} (h : Space.create? layout name heap captbl = some s) :
    s.heapFrontier = heap ∧ s.captblFrontier = captbl ∧
      s.captblLimit.toNat = captbl.toNat + layout.captblSize.toNat := by
  obtain ⟨limit, hlimit, rfl⟩ := Option.map_eq_some_iff.1 h
  exact ⟨rfl, rfl, word64?_eq_some_iff.1 hlimit⟩

/-- A new kernel has one component, with nothing mapped and no capabilities. -/
theorem space?_of_create? {selfId : ComponentId} {layout : Layout} {faults : List Fault}
    (h : create? selfId layout faults = some k) :
    ∃ s, (∀ d, k.space? d = if selfId = d then some s else none) ∧
      (s.pages = ∅ ∧ s.liveCaps = ∅) ∧
      s.heapFrontier = layout.heapBase ∧ s.captblFrontier = layout.captblBase ∧
      s.captblLimit.toNat = layout.captblBase.toNat + layout.captblSize.toNat := by
  obtain ⟨s, hs, rfl⟩ := Option.map_eq_some_iff.1 h
  refine ⟨s, fun d => ?_, Space.empty_of_create? hs, Space.frontiers_of_create? hs⟩
  simp only [space?, Std.ExtTreeMap.getElem?_insert, Std.LawfulEqCmp.compare_eq_iff_eq,
    Std.ExtTreeMap.getElem?_empty]

theorem createComponent_stays (hw : w.starting) (id : ComponentId) (name : String)
    (resources : Option Resources) :
    Stays (Advance w) (createComponent id name resources) := by
  refine .get_bind fun k => ?_
  dsimp only
  split
  · next hs =>
    refine StaysFrom.bind (setSpace_staysFrom hs (.of_starting hw)) fun _ k' _ => ?_
    exact record_stays _ k'
  · exact .refuse_bind
  · next hs =>
    refine .exact_bind fun space hspace => ?_
    obtain ⟨hp, hl⟩ := Space.empty_of_create? hspace
    refine StaysFrom.bind (setSpace_new_staysFrom hs hp hl) fun _ k' _ => record_stays _ k'

theorem createVmComponent_stays (id : ComponentId) (name : String) :
    Stays (Advance w) (createVmComponent id name) := by
  refine .get_bind fun k => .ite (fun _ => .refuse_bind) fun h => ?_
  refine .exact_bind fun space hspace => ?_
  obtain ⟨hp, hl⟩ := Space.empty_of_create? hspace
  exact StaysFrom.bind (setSpace_new_staysFrom (space?_eq_none h) hp hl) fun _ k' _ =>
    record_stays _ k'

/-! ### Threads and endpoints -/

theorem newThread_stays (owner : ComponentId) : Stays (Advance w) (newThread owner) := by
  refine fun k => knownSpace_bind fun _ _ => .get_bind ?_
  refine StaysFrom.bind (allocateSlot_staysFrom (.inr rfl)) fun slot k' _ => ?_
  refine .get_bind (.exact_bind fun nextTid _ => ?_)
  refine StaysFrom.bind (Step.leads_set.2 (.of_components rfl rfl)) fun _ k'' _ => ?_
  exact (record_stays _).bind (fun _ => Stays.pure) k''

theorem createThread_stays (owner : ComponentId) : Stays (Advance w) (createThread owner) :=
  (failOn_stays _ _).bind fun _ => newThread_stays owner

theorem aliasThread_stays (thread : Thread) (h : w.caps into) :
    Stays (Advance w) (aliasThread thread into) := by
  refine (failOn_stays _ _).bind fun _ => .get_bind fun k => ?_
  refine .ite (fun _ => .refuse_bind) fun _ => ?_
  refine StaysFrom.bind (allocateSlot_staysFrom (.inl h)) fun slot k' _ => ?_
  exact (record_stays _).bind (fun _ => Stays.pure) k'

theorem newRcv_stays (owner : ComponentId) : Stays (Advance w) (newRcv owner) := by
  refine (newThread_stays owner).bind fun thread => .get_bind fun k => ?_
  refine StaysFrom.bind (allocateSlot_staysFrom (.inr rfl)) fun rcv k₁ h₁ => ?_
  refine StaysFrom.bind (allocateSlot_staysFrom (.inr h₁.selfId.symm)) fun tcap k₂ _ => ?_
  exact (record_stays _).bind (fun _ => Stays.pure) k₂

theorem createRcv_stays (owner : ComponentId) : Stays (Advance w) (createRcv owner) :=
  (failOn_stays _ _).bind fun _ => newRcv_stays owner

theorem aliasRcv_stays (rcv : Rcv) (h : w.caps into) :
    Stays (Advance w) (aliasRcv rcv into) := by
  refine (failOn_stays _ _).bind fun _ => .get_bind fun k => ?_
  refine .ite (fun _ => .refuse_bind) fun _ => ?_
  refine Stays.bind (allocateSlot_stays h) (fun thread => ?_) k
  refine (allocateSlot_stays h).bind fun endpoint => ?_
  refine (allocateSlot_stays h).bind fun tcap => ?_
  exact (record_stays _).bind fun _ => .pure

theorem revokeRcvAlias_stays (aliases : RcvAliases) (h : w.caps owner) :
    Stays (Advance w) (revokeRcvAlias aliases owner) := by
  intro k
  refine StaysFrom.bind (revokeSlots_staysFrom _ (.inl h)) fun _ k' _ => ?_
  exact record_stays _ k'

theorem revokeRcv_stays (rcv : Rcv) : Stays (Advance w) (revokeRcv rcv) := by
  refine .get_bind fun k => .ite (fun _ => .refuse_bind) fun _ => ?_
  refine StaysFrom.bind (revokeSlots_staysFrom _ (.inr rfl)) fun _ k' _ => ?_
  refine StaysFrom.bind (Step.leads_modify.2 (.of_components rfl rfl)) fun _ k'' _ => ?_
  exact record_stays _ k''

theorem createAsnd_stays (rcv : Rcv) : Stays (Advance w) (createAsnd rcv) := by
  refine .get_bind fun k => ?_
  refine StaysFrom.bind (allocateSlot_staysFrom (.inr rfl)) fun slot k' _ => ?_
  exact (record_stays _).bind (fun _ => Stays.pure) k'

theorem aliasAsnd_stays (h : w.caps into) : Stays (Advance w) (aliasAsnd into) := by
  refine (failOn_stays _ _).bind fun _ => ?_
  refine (allocateSlot_stays h).bind fun slot => ?_
  exact (record_stays _).bind fun _ => .pure

theorem revokeAsnd_stays (asnd : Asnd) : Stays (Advance w) (revokeAsnd asnd) := by
  refine .get_bind fun k => ?_
  refine StaysFrom.bind (revokeSlots_staysFrom _ (.inr rfl)) fun _ k' _ => ?_
  exact record_stays _ k'

/-! ### Frames and page tables -/

theorem reserveFrames_stays (count : Nat) : Stays (Advance w) (reserveFrames count) := by
  refine .ite (fun _ => .refuse_bind) ((inject_stays _).bind fun fires => ?_)
  refine .ite (fun _ => .refuse_bind) (.get_bind fun k => .exact_bind fun taken _ => ?_)
  refine .ite (fun _ => .refuse_bind) fun _ => .exact_bind fun first _ => ?_
  refine StaysFrom.bind (Step.leads_set.2 (.of_components rfl rfl)) fun _ k' _ => ?_
  exact (record_stays _).bind (fun _ => Stays.pure) k'

/-- Where the address space has no room behind the pages, they are there and
the frontier is not. -/
theorem placeFrames_leads (id : ComponentId) (space : Space) (vaddr : Vaddr)
    (frames : List Paddr) :
    (placeFrames id space vaddr frames : Step Kernel ε Unit).Leads k
      (fun _ k' => ∃ frontier, vaddr.addPages frames.length = some frontier ∧
        k' = (k.withSpace id (space.mapPages vaddr.pageNumber frames)).withSpace id
          { space.mapPages vaddr.pageNumber frames with heapFrontier := frontier })
      (fun why k' => why = .abort ∧ vaddr.addPages frames.length = none ∧
        k' = k.withSpace id (space.mapPages vaddr.pageNumber frames)) := by
  refine Step.Leads.modify_bind (Step.Leads.exact_bind (fun frontier hf => ?_) fun hf => ?_)
  · exact Step.leads_modify.2 ⟨frontier, hf, rfl⟩
  · exact ⟨rfl, hf, rfl⟩

theorem placeFrames_staysFrom {space : Space} {vaddr : Vaddr} {frames : List Paddr}
    (hs : k.space? into = some space) (hm : w.maps into)
    (hv : space.heapFrontier.toNat ≤ vaddr.toNat) :
    (placeFrames into space vaddr frames : Step Kernel ε Unit).StaysFrom (Advance w) k := by
  have hplaced : Advance w k (k.withSpace into (space.mapPages vaddr.pageNumber frames)) :=
    .of_space hs (.of_mapPages hm hv)
  refine (placeFrames_leads into space vaddr frames).mono ?_ ?_
  · rintro _ k' ⟨frontier, hf, rfl⟩
    rw [Vaddr.addPages_eq_some_iff] at hf
    refine hplaced.trans (.of_space (by rw [space?_withSpace, if_pos rfl]) (.of_frontier hm ?_))
    rw [Space.heapFrontier_mapPages]
    omega
  · rintro why k' ⟨_, _, rfl⟩
    exact hplaced

/-- The frames of a run are placed in a component, once the run is known to have been
handed out. -/
abbrev placeRun (first : Paddr) (count : Nat) (align : UInt64) (into : ComponentId) (gap : Bool) :
    Step Kernel Refusal Vaddr := do
  let space ← knownSpace into
  let vaddr ← Step.exact (space.heapFrontier.alignUp align)
  let frames ← Step.exact (mappedRun? first count gap)
  placeFrames into space vaddr frames
  record (.framesMapped into vaddr count)
  pure vaddr

/-- A mapping of frames stops where it began, or comes to placing them, with a gap or
without; the run ends at an address, and one with a gap has several pages. -/
theorem aliasFrames_walks {first : Paddr} {count : Nat} {align : UInt64}
    {I : Bool → Kernel → Prop} {post : Vaddr → Kernel → Prop} {stop : Stop Refusal → Kernel → Prop}
    (hk : I false k) (hstop : ∀ why, stop why k)
    (hinject : (inject .discontiguousAlias : Step Kernel Refusal Bool).Leads k I stop)
    (hplace : ∀ gap k', (gap = true → 1 < count) → (∃ runEnd, first.addPages count = some runEnd) →
      I gap k' → (placeRun first count align into gap).Leads k' post stop) :
    (aliasFrames first count align into).Leads k post stop := by
  apply Step.Leads.get_bind
  refine Step.Leads.exact_bind (fun _ _ => ?_) fun _ => hstop _
  refine Step.Leads.exact_bind (fun runEnd hrun => ?_) fun _ => hstop _
  refine Step.Leads.ite (fun _ => Step.Leads.refuse_bind (hstop _)) fun _ => ?_
  dsimp only
  refine Step.Leads.ite (fun hmany => ?_) fun _ => ?_
  · exact Step.Leads.bind hinject fun gap k' => hplace gap k' (fun _ => hmany) ⟨runEnd, hrun⟩
  · exact Step.leads_bind.2 (Step.leads_pure.2 (hplace false k nofun ⟨runEnd, hrun⟩ hk))

theorem aliasFrames_leads (first : Paddr) (count : Nat) (align : UInt64) (hm : w.maps into) :
    (aliasFrames first count align into).Leads k
      (fun vaddr k' => Advance w k k' ∧ (count ≠ 0 → ∃ s, k'.space? into = some s ∧
        s.heapFrontier.toNat = vaddr.toNat + count * pageSize))
      (fun _ => Advance w k) := by
  refine aliasFrames_walks (I := fun _ => Advance w k) (.refl k) (fun _ => .refl k)
    (inject_stays _ k) fun gap k' _ _ hk' => ?_
  refine Step.leads_bind.2 ((knownSpace_leads into).mono ?_ ?_)
  · rintro space _ ⟨rfl, hs⟩
    refine Step.Leads.exact_bind (fun vaddr hv => ?_) fun _ => hk'
    refine Step.Leads.exact_bind (fun frames hf => ?_) fun _ => hk'
    have hstays : (placeFrames into space vaddr frames : Step Kernel Refusal Unit).StaysFrom
        (Advance w) _ := placeFrames_staysFrom hs hm (Vaddr.le_of_alignUp hv)
    refine Step.leads_bind.2 ((hstays.and (placeFrames_leads into space vaddr frames)).mono ?_ ?_)
    · rintro _ k'' ⟨hadv, frontier, hfrontier, rfl⟩
      refine Step.Leads.modify_bind (Step.leads_pure.2 ?_)
      refine ⟨(hk'.trans hadv).trans (.of_components rfl rfl), fun hc => ?_⟩
      rw [length_mappedRun? hf hc, Vaddr.addPages_eq_some_iff] at hfrontier
      exact ⟨_, space?_withSpace.trans (if_pos rfl), hfrontier⟩
    · rintro why k'' ⟨hadv, _⟩
      exact hk'.trans hadv
  · rintro why _ ⟨rfl, _⟩
    exact hk'

theorem mapDevice_stays (paddr : Paddr) (size : UInt64) (hm : w.maps into) :
    Stays (Advance w) (mapDevice into paddr size) := by
  unfold mapDevice
  intro k
  refine .ite (fun _ => .refuse_bind) fun _ => ?_
  dsimp only
  generalize paddr.word % 4096 = offset
  refine .ite (fun _ => .refuse_bind) fun _ => ?_
  refine .exact_bind fun covered _ => .exact_bind fun count _ => ?_
  refine knownSpace_bind fun space hs => ?_
  refine .exact_bind fun vaddr hv => .exact_bind fun frames _ => ?_
  have hle := Vaddr.le_of_alignUp hv
  refine StaysFrom.bind (placeFrames_staysFrom hs hm hle) fun _ k' _ => ?_
  exact (record_stays _).bind (fun _ => Stays.exact) k'

theorem initUlk_stays : Stays (Advance w) initUlk := by
  refine .get_bind fun k => .ite (fun _ => .refuse_bind) fun _ => ?_
  exact Step.leads_set.2 (.of_components rfl rfl)

theorem mapUlk_stays (hw : w.starting) (id : ComponentId) : Stays (Advance w) (mapUlk id) := by
  refine .get_bind fun k => .ite (fun _ => .refuse_bind) fun _ => ?_
  refine knownSpace_bind fun space hs => .ite (fun _ => .refuse_bind) fun _ => ?_
  refine StaysFrom.bind (setSpace_staysFrom hs (.of_starting hw)) fun _ k' _ => ?_
  exact record_stays _ k'

end CapabilityBroker.Kernel
