/-
CapabilityBroker/Proofs/Boot/Components.lean

The components that are there from the start.

The broker registers itself, and then one component after the other.  While it
does, its records are those of the components so far, every other slot is free,
and the kernel has no component that is not on record (`Enrolled`).  So there are
just two things that can stop a registration: the slot is none of the pool, or a
component before has it.
-/
import CapabilityBroker.Proofs.Boot.Manifest
import CapabilityBroker.Proofs.Move.Boot
import CapabilityBroker.Proofs.Sequence
import CapabilityBroker.Proofs.Sound.Basic

namespace CapabilityBroker

open Step (Stays)

/-! ### The kernel's side -/

namespace Kernel

variable {k : Kernel} {id : ComponentId}

/-- If its capability table ends within the word, a component is created unless the
kernel has it, and then it is the only one that is new. -/
theorem createComponent_adds (name : String) {resources : Option Resources}
    (hfits : (frontiersFrom k.layout resources).2.toNat + k.layout.captblSize.toNat < UInt64.size) :
    (createComponent id name resources).Leads k
      (fun _ k' => (∀ d, k'.hasComponent d = true → d = id ∨ k.hasComponent d = true) ∧
        k'.ulkReady = k.ulkReady)
      (fun _ _ => k.hasComponent id = true ∧ resources ≠ none) := by
  have hends : (createComponent id name resources).Leads k (fun _ k' => k'.ulkReady = k.ulkReady)
      (fun _ _ => k.hasComponent id = true ∧ resources ≠ none) := by
    apply Step.Leads.get_bind
    dsimp only
    split
    · exact Step.Leads.modify_bind (Step.leads_modify.2 rfl)
    · next s _ hs =>
      exact Step.Leads.refuse_bind ⟨hasComponent_iff.2 ⟨s, hs⟩, Option.some_ne_none _⟩
    · refine Step.Leads.exact_bind (fun s _ => ?_) fun hnone => ?_
      · exact Step.Leads.modify_bind (Step.leads_modify.2 rfl)
      · unfold Space.create? at hnone
        rw [Option.map_eq_none_iff, word64?_eq_none_iff] at hnone
        exact absurd hfits (Nat.not_lt.2 hnone)
  refine ((createComponent_moves rfl name resources).and hends).mono ?_ fun _ _ => And.right
  rintro _ k' ⟨⟨hmove, _⟩, hulk⟩
  refine ⟨fun d hd => ?_, hulk⟩
  by_cases hold : k.hasComponent d = true
  · exact .inr hold
  · obtain ⟨s, hs⟩ := hasComponent_iff.1 hd
    exact .inl (hmove.fresh d s (space?_eq_none hold) hs).1.symm

/-- With the region there, mapping it is refused only where it is mapped already. -/
theorem mapUlk_leads (hready : k.ulkReady = true)
    (hid : k.hasComponent id = true) :
    (mapUlk id).Leads k (fun _ k' => k'.ulkReady = true)
      (fun why k' => k' = k ∧ why = .refused (.alreadyMapped id)) := by
  obtain ⟨space, hspace⟩ := hasComponent_iff.1 hid
  refine Step.Leads.get_bind (Step.Leads.ite (fun hnot => ?_) fun _ => ?_)
  · rw [hready] at hnot
    cases hnot
  refine Step.leads_bind.2 ((knownSpace_leads id).mono ?_ ?_)
  · rintro found _ ⟨rfl, _⟩
    refine Step.Leads.ite (fun _ => Step.Leads.refuse_bind ⟨rfl, rfl⟩) fun _ => ?_
    exact Step.Leads.modify_bind (Step.leads_modify.2 hready)
  · rintro why _ ⟨_, _, hnone⟩
    cases hspace.symm.trans hnone

end Kernel

namespace Service

variable {b : Broker} {s : Settings} {m : Manifest} {rs : List ComponentRecord}
  {groups : List ComponentCaps} {ulk ulk' : Bool}

/-! ### Records -/

/-- When the pools are made, no component is on record, and the slots of those to come
have 32-bit numbers. -/
theorem makePools_unlisted {ε : Type} (settings : Settings) :
    (makePools settings : Step Broker ε Unit).Leads b
      (fun _ made => made.components.capacity < UInt32.size ∧
        ∀ i, made.components.at? i = none)
      (fun _ _ => True) := by
  refine (makePools_leads settings).mono ?_ fun _ _ _ => trivial
  rintro _ _ ⟨components, _, _, _, _, _, rfl, hcreate, -⟩
  obtain ⟨hsmall, rfl⟩ := Pool.create?_eq_some_iff.1 hcreate
  exact ⟨hsmall, fun _ => Pool.at?_create⟩

/-- The broker's own record. -/
def ownRecord (s : Settings) : ComponentRecord := ⟨s.selfId, brokerName, .broker, none, ∅⟩

/-- The record of a component that ran before the broker: the name that the manifest
gives it, and the capabilities and frontiers that were replayed. -/
def bootedRecord (m : Manifest) (caps : ComponentCaps) : ComponentRecord where
  id := caps.component
  name := (m.name? caps.component).getD ""
  kind := .booted
  resources := some (resourcesOf caps (m.frontiersOf caps.component))
  schedRcvs := ∅

/-- The records of the components that are there from the start. -/
def firstRecords (s : Settings) (m : Manifest) (groups : List ComponentCaps) :
    List ComponentRecord := ownRecord s :: groups.map (bootedRecord m)

/-- The records of components are those in a list, and every other slot is free.  The
kernel has each of these components, and apart from the broker's own no others; `ulk`
says whether it has the user-level kernel's region. -/
structure Enrolled (s : Settings) (rs : List ComponentRecord) (ulk : Bool) (b : Broker) :
    Prop where
  capacity : b.components.capacity = s.maxComponents.toNat
  records : ∀ i record, b.components.at? i = some record ↔ record ∈ rs ∧ record.id.number.toNat = i
  free : ∀ i, (∀ record ∈ rs, record.id.number.toNat ≠ i) → (b.components.entry i).slot = .free
  homed : b.Homed
  known : ∀ id, b.kernel.hasComponent id = true → id = s.selfId ∨ ∃ record ∈ rs, record.id = id
  ulk : b.kernel.ulkReady = ulk

theorem ComponentId.number_inj {id id' : ComponentId} (h : id.number.toNat = id'.number.toNat) :
    id = id' := congrArg ComponentId.mk (UInt64.toNat.inj h)

namespace Enrolled

variable {record : ComponentRecord} {id : ComponentId}

/-- The slot of an id is free, unless a component with that id is on record. -/
theorem slot_free_iff (h : Enrolled s rs ulk b) :
    (b.components.entry id.number.toNat).slot = .free ↔ id ∉ rs.map ComponentRecord.id := by
  constructor
  · intro hfree hmem
    obtain ⟨record, hrecord, rfl⟩ := List.mem_map.1 hmem
    obtain ⟨g, hg⟩ := Pool.at?_eq_some_iff.1 ((h.records _ _).2 ⟨hrecord, rfl⟩)
    exact Pool.slot_ne_free hg hfree
  · intro hmem
    refine h.free _ fun record hrecord heq => hmem (List.mem_map.2 ⟨record, hrecord, ?_⟩)
    exact ComponentId.number_inj heq

/-- A record comes under an id that had none. -/
theorem publish (h : Enrolled s rs ulk b) {b' : Broker} {slot : Reservation ComponentRecord}
    (hslot : slot.index = record.id.number.toNat) (hnew : record.id ∉ rs.map ComponentRecord.id)
    (hb : b'.components = (b.components.reserve record.id.number.toNat).publish slot record)
    (hhomed : b'.Homed)
    (hknown : ∀ d, b'.kernel.hasComponent d = true →
      d = record.id ∨ b.kernel.hasComponent d = true)
    (hulk : b'.kernel.ulkReady = b.kernel.ulkReady) :
    Enrolled s (rs ++ [record]) ulk b' where
  capacity := by
    rw [hb]
    exact h.capacity
  records i found := by
    have hentry : record.id.number.toNat ≠ i →
        (b.components.reserve record.id.number.toNat).at? i = b.components.at? i := fun hi =>
      Pool.at?_congr (by rw [Pool.entry_reserve, if_neg hi])
    rw [hb, Pool.at?_publish, hslot, List.mem_append, List.mem_singleton]
    split
    · next hi =>
      constructor
      · rintro ⟨⟩
        exact ⟨.inr rfl, hi⟩
      · rintro ⟨hold | rfl, hfound⟩
        · refine absurd (List.mem_map.2 ⟨found, hold, ?_⟩) hnew
          exact ComponentId.number_inj (hfound.trans hi.symm)
        · rfl
    · next hi =>
      rw [hentry hi, h.records]
      constructor
      · exact fun hold => ⟨.inl hold.1, hold.2⟩
      · rintro ⟨hold | rfl, hfound⟩
        · exact ⟨hold, hfound⟩
        · exact absurd hfound hi
  free i hi := by
    have hne : record.id.number.toNat ≠ i := hi record (List.mem_append_right _ List.mem_cons_self)
    rw [hb, Pool.entry_publish, hslot, if_neg hne, Pool.entry_reserve, if_neg hne]
    exact h.free i fun r hr => hi r (List.mem_append_left _ hr)
  homed := hhomed
  known d hd := by
    rcases hknown d hd with rfl | hold
    · exact .inr ⟨record, List.mem_append_right _ List.mem_cons_self, rfl⟩
    · refine (h.known d hold).imp_right ?_
      rintro ⟨r, hr, heq⟩
      exact ⟨r, List.mem_append_left _ hr, heq⟩
  ulk := hulk.trans h.ulk

/-- The components on record are those in the list. -/
theorem hasComponent_iff (h : Enrolled s rs ulk b) :
    b.hasComponent id = true ↔ id ∈ rs.map ComponentRecord.id := by
  unfold Broker.hasComponent Broker.component?
  rw [Option.isSome_iff_exists, List.mem_map]
  constructor
  · rintro ⟨record, hrecord⟩
    obtain ⟨hmem, heq⟩ := (h.records _ _).1 hrecord
    exact ⟨record, hmem, ComponentId.number_inj heq⟩
  · rintro ⟨record, hmem, rfl⟩
    exact ⟨record, (h.records _ _).2 ⟨hmem, rfl⟩⟩

/-- The kernel has every component on record. -/
theorem kernel_hasComponent (h : Enrolled s rs ulk b) (hid : id ∈ rs.map ComponentRecord.id) :
    b.kernel.hasComponent id = true := by
  obtain ⟨record, hmem, rfl⟩ := List.mem_map.1 hid
  obtain ⟨g, hg⟩ := Pool.at?_eq_some_iff.1 ((h.records _ _).2 ⟨hmem, rfl⟩)
  exact Kernel.hasComponent_iff.2 (h.homed _ g record hg).2

/-- The kernel goes on, and no component comes. -/
theorem withKernel {k : Kernel} (h : Enrolled s rs ulk b)
    (hk : Kernel.ObjectMove (fun _ => False) b.kernel k) (hulk : k.ulkReady = ulk') :
    Enrolled s rs ulk' { b with kernel := k } where
  capacity := h.capacity
  records := h.records
  free := h.free
  homed := h.homed.withKernel hk
  known id hid := by
    by_cases hold : b.kernel.hasComponent id = true
    · exact h.known id hold
    · obtain ⟨space, hspace⟩ := Kernel.hasComponent_iff.1 hid
      exact (hk.fresh id space (Kernel.space?_eq_none hold) hspace).1.elim
  ulk := hulk

/-- What is written down is no part of this. -/
theorem of_notes {trail : Trail Event} {journal : Trail JournalLine} (h : Enrolled s rs ulk b) :
    Enrolled s rs ulk { b with trail, journal } :=
  ⟨h.capacity, h.records, h.free, h.homed, h.known, h.ulk⟩

end Enrolled

/-! ### Registering components -/

/-- A component can be registered under its id. -/
def Registrable (s : Settings) (rs : List ComponentRecord) (id : ComponentId) : Prop :=
  IsSlot id.number.toNat s.maxComponents.toNat ∧ id ∉ rs.map ComponentRecord.id

/-- A component is registered if that can be done, and nothing else stands in the way;
the kernel is not asked before the slot is kept. -/
theorem registerComponent_publishes {id : ComponentId} (name : String) (kind : ComponentKind)
    {resources : Option Kernel.Resources} (h : Enrolled s rs ulk b) (hpools : s.PoolsFit)
    (hfits : (Kernel.frontiersFrom b.kernel.layout resources).2.toNat +
      b.kernel.layout.captblSize.toNat < UInt64.size)
    (hself : resources ≠ none → s.selfId ∈ rs.map ComponentRecord.id) :
    (registerComponent id name kind resources (Kernel.createComponent id name resources)).Needs b
      (Registrable s rs id)
      (fun _ b' => ∃ slot : Reservation ComponentRecord, slot.index = id.number.toNat ∧
        b'.components = (b.components.reserve id.number.toNat).publish slot
          ⟨id, name, kind, resources, ∅⟩ ∧
        (∀ d, b'.kernel.hasComponent d = true → d = id ∨ b.kernel.hasComponent d = true) ∧
        b'.kernel.ulkReady = b.kernel.ulkReady) := by
  have hlimit := hpools.components
  refine Step.Leads.require_bind (fun index hindex => ?_) fun hnone hneeds => ?_
  · rw [word32?_eq_some_iff] at hindex
    rw [hindex]
    refine Step.leads_bind.2 (Part.ask_leads (Pool.allocateAt_leads.mono ?_ ?_))
    · rintro slot _ ⟨hpos, hle, hfree, rfl, rfl⟩
      have hnew := h.slot_free_iff.1 hfree
      have hneeds : Registrable s rs id := ⟨⟨Nat.pos_of_ne_zero hpos, h.capacity ▸ hle⟩, hnew⟩
      refine Step.leads_cleanly.2 (Step.leads_bind.2 (Part.run_leads (Step.leads_explain.2
        ((Kernel.createComponent_adds name hfits).mono ?_ ?_))))
      · intro _ k hknown
        refine Step.leads_bind.2 ((Part.activate_leads ?_).mono ?_ fun _ _ => False.elim)
        · show (b.components.reserve id.number.toNat).entry id.number.toNat = _
          rw [Pool.entry_reserve, if_pos rfl]
          rfl
        · rintro handle _ ⟨rfl, rfl⟩
          exact Step.leads_modify.2 ⟨hneeds, _, rfl, rfl, hknown⟩
      -- The kernel knows no component that is not on record, apart from the broker's own.
      · rintro why k ⟨hthere, hresources⟩ _
        rcases h.known id hthere with rfl | ⟨record, hrecord, rfl⟩
        · exact hnew (hself hresources)
        · exact hnew (List.mem_map.2 ⟨record, hrecord, rfl⟩)
    · rintro why _ ⟨hnot, _⟩ ⟨⟨hpos, hle⟩, hnew⟩
      refine hnot ⟨Nat.ne_of_gt hpos, ?_, h.slot_free_iff.2 hnew⟩
      exact h.capacity ▸ hle
  · rw [word32?_eq_none_iff] at hnone
    obtain ⟨⟨_, hle⟩, _⟩ := hneeds
    exact absurd (Nat.lt_of_le_of_lt hle hlimit) (Nat.not_lt.2 hnone)

/-- After that its record stands behind those before. -/
theorem registerComponent_enrolls {id : ComponentId} (name : String) (kind : ComponentKind)
    {resources : Option Kernel.Resources} (h : Enrolled s rs ulk b) (hpools : s.PoolsFit)
    (hfits : (Kernel.frontiersFrom b.kernel.layout resources).2.toNat +
      b.kernel.layout.captblSize.toNat < UInt64.size)
    (hself : resources ≠ none → s.selfId ∈ rs.map ComponentRecord.id) :
    (registerComponent id name kind resources (Kernel.createComponent id name resources)).Needs b
      (Registrable s rs id)
      (fun _ b' => b.ObjectMove (fun _ _ => True) b' ∧
        Enrolled s (rs ++ [⟨id, name, kind, resources, ∅⟩]) ulk b') := by
  have hmoves : (registerComponent id name kind resources
      (Kernel.createComponent id name resources)).StaysFrom (Broker.ObjectMove fun _ _ => True) b :=
    registerComponent_objects name kind trivial
      (fun k => Kernel.createComponent_moves ⟨resources, trivial⟩ name resources) b
  refine ((registerComponent_publishes name kind h hpools hfits hself).also hmoves).mono ?_
  rintro _ b' hneeds ⟨hmove, slot, hslot, hcomponents, hknown, hulk⟩
  exact ⟨hmove, h.publish hslot hneeds.2 hcomponents (hmove.homed h.homed) hknown hulk⟩

/-! ### Adopting components -/

open Manifest (members)

theorem map_id_firstRecords :
    (firstRecords s m groups).map ComponentRecord.id = members s groups := by
  unfold firstRecords members
  rw [List.map_cons, List.map_map]
  rfl

theorem firstRecords_append (caps : ComponentCaps) :
    firstRecords s m (groups ++ [caps]) = firstRecords s m groups ++ [bootedRecord m caps] := by
  unfold firstRecords
  rw [List.map_append]
  rfl

/-- What it takes to adopt a component after those in `done`. -/
def Adoptable (s : Settings) (m : Manifest) (done : List ComponentCaps) (caps : ComponentCaps) :
    Prop :=
  (m.name? caps.component).isSome = true ∧ Registrable s (firstRecords s m done) caps.component

/-- Capability tables end within the word, wherever they begin. -/
structure TablesFit (l : Kernel.Layout) (m : Manifest) : Prop where
  base : l.captblBase.toNat + l.captblSize.toNat < UInt64.size
  frontiers : ∀ id, (m.frontiersOf id).captbl.toNat + l.captblSize.toNat < UInt64.size

theorem TablesFit.booted {l : Kernel.Layout} (h : TablesFit l m) (caps : ComponentCaps) :
    (Kernel.frontiersFrom l (some (resourcesOf caps (m.frontiersOf caps.component)))).2.toNat +
      l.captblSize.toNat < UInt64.size := by
  show (if (m.frontiersOf caps.component).captbl = 0 then l.captblBase
    else (m.frontiersOf caps.component).captbl).toNat + _ < _
  split
  · exact h.base
  · exact h.frontiers _

theorem adopt_enrolls (schedulers : Schedulers) {done : List ComponentCaps} {caps : ComponentCaps}
    (h : Enrolled s (firstRecords s m done) ulk b) (hpools : s.PoolsFit)
    (htables : TablesFit b.kernel.layout m) :
    (adopt m schedulers caps).Needs b (Adoptable s m done caps)
      (fun _ b' => b.ObjectMove (fun _ _ => True) b' ∧
        Enrolled s (firstRecords s m (done ++ [caps])) ulk b') := by
  refine Step.Leads.require_bind (fun name hname => ?_) fun hnone hneeds => ?_
  · have hself : s.selfId ∈ (firstRecords s m done).map ComponentRecord.id := List.mem_cons_self
    refine (registerComponent_enrolls name .booted h hpools (htables.booted caps)
      fun _ => hself).explain.bind And.right ?_
    rintro _ b₁ hneeds ⟨hmove, henrolled⟩
    have hrecord : bootedRecord m caps = ⟨caps.component, name, .booted,
        some (resourcesOf caps (m.frontiersOf caps.component)), ∅⟩ := by
      unfold bootedRecord
      rw [hname]
      rfl
    rw [← hrecord, ← firstRecords_append] at henrolled
    refine Step.Leads.modify_bind (Step.leads_modify.2 ⟨⟨?_, hneeds⟩, ?_, henrolled.of_notes⟩)
    · exact hname ▸ rfl
    · exact hmove.trans .of_notes
  · have hnamed := hneeds.1
    rw [hnone] at hnamed
    cases hnamed

/-- All components that a manifest asks for are adopted, if each has a name and a slot
of its own. -/
theorem adoptAll_enrolls (schedulers : Schedulers) (h : Enrolled s (firstRecords s m []) ulk b)
    (hpools : s.PoolsFit) (htables : TablesFit b.kernel.layout m) :
    (Step.each (adopt m schedulers) groups).Needs b (Successively (Adoptable s m) [] groups)
      (fun _ b' => b.ObjectMove (fun _ _ => True) b' ∧
        Enrolled s (firstRecords s m groups) ulk b') := by
  refine Step.needs_each (I := fun done b' => b.ObjectMove (fun _ _ => True) b' ∧
    Enrolled s (firstRecords s m done) ulk b') ?_ ⟨.refl b, h⟩
  rintro done caps b' ⟨hmove, henrolled⟩
  have htables' : TablesFit b'.kernel.layout m := by
    rw [hmove.kernel.layout]
    exact htables
  refine (adopt_enrolls schedulers henrolled hpools htables').mono ?_
  exact fun _ b'' _ ⟨hmove', henrolled'⟩ => ⟨hmove.trans hmove', henrolled'⟩

/-- The components can be adopted one after the other if they can be on record
together. -/
theorem successively_adoptable_iff : Successively (Adoptable s m) [] groups ↔
    (∀ caps ∈ groups, (m.name? caps.component).isSome = true ∧
      IsSlot caps.component.number.toNat s.maxComponents.toNat) ∧ (members s groups).Nodup := by
  have hneeds : Adoptable s m = fun done caps =>
      (((m.name? caps.component).isSome = true ∧
        IsSlot caps.component.number.toNat s.maxComponents.toNat) ∧ caps.component ≠ s.selfId) ∧
      caps.component ∉ done.map ComponentCaps.component := by
    funext done caps
    unfold Adoptable Registrable
    rw [map_id_firstRecords, members, List.mem_cons, not_or]
    simp only [and_assoc]
  rw [hneeds, Successively.and_iff, Successively.forall_iff, Successively.fresh_iff, members,
    List.nodup_cons, List.mem_map, not_exists]
  constructor
  · rintro ⟨heach, hnodup, _⟩
    exact ⟨fun caps hcaps => (heach caps hcaps).1,
      fun caps ⟨hcaps, heq⟩ => (heach caps hcaps).2 heq, hnodup⟩
  · rintro ⟨heach, hself, hnodup⟩
    exact ⟨fun caps hcaps => ⟨heach caps hcaps, fun heq => hself caps ⟨hcaps, heq⟩⟩, hnodup,
      fun _ _ => List.not_mem_nil⟩

/-! ### The user-level kernel's region -/

/-- The region can be shared with the components on record. -/
theorem shareUlk_enrolls {id : ComponentId} (h : Enrolled s rs true b) :
    (shareUlk id).Needs b (id ∈ rs.map ComponentRecord.id) (fun _ => Enrolled s rs true) := by
  refine Step.Leads.get_bind (Step.Leads.ite (fun hnot => Step.Leads.refuse_bind ?_) fun hid => ?_)
  · rw [Bool.not_eq_true', ← Bool.not_eq_true, h.hasComponent_iff] at hnot
    exact hnot
  rw [Bool.not_eq_true', Bool.not_eq_false, h.hasComponent_iff] at hid
  have hmap : (Kernel.mapUlk id).StaysFrom (Kernel.ObjectMove fun _ => False) b.kernel :=
    Kernel.mapUlk_moves id b.kernel
  refine Step.leads_bind.2 (Part.run_leads (Step.leads_attempt.2
    ((hmap.and (Kernel.mapUlk_leads h.ulk (h.kernel_hasComponent hid))).mono ?_ ?_)))
  · rintro _ k ⟨hk, hulk⟩
    exact Step.leads_pure.2 ⟨hid, h.withKernel hk hulk⟩
  · rintro why k ⟨hk, rfl, rfl⟩
    refine ⟨?_, nofun⟩
    rintro _ ⟨⟩
    exact Step.leads_pure.2 ⟨hid, h.withKernel hk h.ulk⟩

/-- The region can be shared with all components that the manifest names, if they are
on record. -/
theorem shareAll_enrolls {ids : List ComponentId} (h : Enrolled s rs true b) :
    (Step.each shareUlk ids).Needs b (∀ id ∈ ids, id ∈ rs.map ComponentRecord.id)
      (fun _ b' => b.ObjectMove (fun _ _ => True) b' ∧ Enrolled s rs true b') := by
  have hmoves : (Step.each shareUlk ids).StaysFrom (Broker.ObjectMove fun _ _ => True) b :=
    Stays.each (fun id _ => shareUlk_objects id) b
  have hall : (Step.each shareUlk ids).Needs b
      (Successively (fun _ id => id ∈ rs.map ComponentRecord.id) [] ids)
      (fun _ => Enrolled s rs true) :=
    Step.needs_each (I := fun _ => Enrolled s rs true) (fun _ _ _ => shareUlk_enrolls) h
  exact (hall.also hmoves).congr Successively.forall_iff

/-- The region is made, where it is not there yet. -/
theorem initUlk_enrolls (h : Enrolled s rs false b) :
    (kernelPart.run (Kernel.initUlk.explain Defect.kernel)).Leads b
      (fun _ b' => b.ObjectMove (fun _ _ => True) b' ∧ Enrolled s rs true b')
      (fun _ _ => False) := by
  have hquiet : ∀ {adds}, Kernel.ObjectMove adds b.kernel { b.kernel with ulkReady := true } :=
    .of_notes (fun _ => id) rfl
  refine Part.run_leads (Step.leads_explain.2 (Step.Leads.get_bind
    (Step.Leads.ite (fun hready => ?_) fun _ => ?_)))
  · exact absurd hready (h.ulk ▸ Bool.false_ne_true)
  · exact Step.leads_set.2 ⟨kernelPart_objects b _ hquiet, h.withKernel hquiet rfl⟩

end Service

end CapabilityBroker
