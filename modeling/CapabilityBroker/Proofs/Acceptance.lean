/-
CapabilityBroker/Proofs/Acceptance.lean

Which manifests the broker starts from.

The start goes through a manifest in seven phases, and each of them has its own
reasons to stop.  What a phase needs is said in its own words first
(`Startable`): that a list of components, or of regions, can be worked off one
after the other.  Taken together, that is no more than that the manifest is
consistent, and that the contiguous region fits behind the broker's heap
(`startable_iff`).
-/
import CapabilityBroker.Proofs.Boot.Components
import CapabilityBroker.Proofs.Boot.Regions
import CapabilityBroker.Proofs.Run

namespace CapabilityBroker.Service

variable {b b' : Broker} {kernel : Kernel} {s : Settings} {m : Manifest} {l : Kernel.Layout}
  {groups : List ComponentCaps} {rs rs' : List ComponentRecord} {ulk ulk' : Bool}

/-! ### What the phases need -/

/-- Every phase of the start finds what it needs. -/
structure Startable (s : Settings) (m : Manifest) (l : Kernel.Layout)
    (groups : List ComponentCaps) : Prop where
  tableEnd : ¬ m.captblEnd < s.captblFree
  plan : ∃ plan, m.plan = .ok plan
  replays : m.componentCaps = .ok groups
  self : Registrable s [] s.selfId
  adopted : Successively (Adoptable s m) [] groups
  sharers : ∀ id ∈ m.sharedAddressSpace, id ∈ (firstRecords s m groups).map ComponentRecord.id
  regions : Successively (Placeable s l) [] m.sharedRegions
  contig : Allots l (pagesOf m.sharedRegions) s.contigPages.toNat

/-- The contiguous region is empty, or fits behind the broker's heap. -/
def ContigFits (s : Settings) (l : Kernel.Layout) : Prop :=
  s.contigPages.toNat = 0 ∨ HeapRoom l s.contigPages.toNat

instance : Decidable (ContigFits s l) := inferInstanceAs (Decidable (_ ∨ _))

theorem startable_iff :
    Startable s m l groups ↔ m.Consistent s l groups ∧ ContigFits s l := by
  have hslots : (∀ id ∈ Manifest.members s groups, IsSlot id.number.toNat s.maxComponents.toNat) ↔
      IsSlot s.selfId.number.toNat s.maxComponents.toNat ∧
        ∀ caps ∈ groups, IsSlot caps.component.number.toNat s.maxComponents.toNat := by
    unfold Manifest.members
    rw [List.forall_mem_cons, List.forall_mem_map]
  constructor
  · intro h
    obtain ⟨hcaps, hapart⟩ := successively_adoptable_iff.1 h.adopted
    obtain ⟨hregion, hids, hpages, _⟩ := successively_placeable_iff.1 h.regions
    refine ⟨?_, h.contig.2⟩
    exact
      { tableEnd := UInt64.not_lt.1 h.tableEnd
        executions := Manifest.exists_plan.1 h.plan
        replays := ComponentCaps.groups_eq_ok_iff.1 h.replays
        slots := hslots.2 ⟨h.self.1, fun caps hc => (hcaps caps hc).2⟩
        apart := hapart
        named := fun caps hc => (hcaps caps hc).1
        sharers := map_id_firstRecords ▸ h.sharers
        regions := fun r hr => (hregion r hr).1
        regionsApart := hids
        sizes := fun r hr => (hregion r hr).2
        pages := Nat.zero_add (pagesOf _) ▸ hpages
        frames := h.contig.1 }
  · rintro ⟨h, hroom⟩
    obtain ⟨hself, hcaps⟩ := hslots.1 h.slots
    have hframes : pagesOf m.sharedRegions ≤ l.physFrames :=
      Nat.le_trans (Nat.le_add_right _ _) h.frames
    exact
      { tableEnd := UInt64.not_lt.2 h.tableEnd
        plan := Manifest.exists_plan.2 h.executions
        replays := ComponentCaps.groups_eq_ok_iff.2 h.replays
        self := ⟨hself, List.not_mem_nil⟩
        adopted := successively_adoptable_iff.2
          ⟨fun caps hc => ⟨h.named caps hc, hcaps caps hc⟩, h.apart⟩
        sharers := map_id_firstRecords ▸ h.sharers
        regions := successively_placeable_iff.2
          ⟨fun r hr => ⟨h.regions r hr, h.sizes r hr⟩, h.regionsApart,
            (Nat.zero_add _).symm ▸ h.pages, (Nat.zero_add _).symm ▸ hframes⟩
        contig := ⟨h.frames, hroom⟩ }

/-! ### The state that the phases begin in -/

/-- On a new machine nothing was handed out. -/
theorem drawn_of_create? (h : Kernel.create? s.selfId l [] = some kernel)
    (hfits : l.physBase.toNat + l.physFrames * pageSize < UInt64.size) : Drawn s l 0 kernel := by
  obtain ⟨space, hspace, _, hheap, _⟩ := Kernel.space?_of_create? h
  have hown : kernel.frontier? s.selfId = some l.heapBase := by
    rw [Kernel.frontier?_eq ((hspace s.selfId).trans (if_pos rfl)), hheap]
  obtain ⟨_, _, rfl⟩ := Option.map_eq_some_iff.1 h
  exact ⟨rfl, hfits, rfl, hown, rfl⟩

/-- A machine just made has the broker's component and no other, and no region of the
user-level kernel. -/
theorem bare_of_create? (h : Kernel.create? s.selfId l [] = some kernel) :
    (∀ id, kernel.hasComponent id = true → id = s.selfId) ∧ kernel.ulkReady = false := by
  obtain ⟨_, hspace, _⟩ := Kernel.space?_of_create? h
  refine ⟨fun id hid => ?_, ?_⟩
  · obtain ⟨_, hs⟩ := Kernel.hasComponent_iff.1 hid
    rw [hspace] at hs
    split at hs
    · next heq => exact heq.symm
    · cases hs
  · obtain ⟨_, _, rfl⟩ := Option.map_eq_some_iff.1 h
    rfl

/-- Components come on record, and no memory is set aside yet. -/
structure Underway (s : Settings) (l : Kernel.Layout) (rs : List ComponentRecord) (ulk : Bool)
    (b : Broker) : Prop where
  enrolled : Enrolled s rs ulk b
  stocked : Stocked s l 0 b
  spanned : Spanned s [] b

/-- An operation on objects sets no memory aside. -/
theorem Underway.of_objects {adds : ComponentId → Option Kernel.Resources → Prop}
    (h : Underway s l rs ulk b) (hmove : b.ObjectMove adds b')
    (henrolled : Enrolled s rs' ulk' b') : Underway s l rs' ulk' b' :=
  ⟨henrolled, h.stocked.of_objects hmove, h.spanned.of_objects hmove⟩

theorem Underway.logs {ε : Type} {level : Level} {message : String} (h : Underway s l rs ulk b) :
    (log level message : Step Broker ε Unit).Leads b (fun _ => Underway s l rs ulk)
      (fun _ _ => False) := by
  have hmove : ∀ {journal}, b.ObjectMove (fun _ _ => True) { b with journal } := .of_notes
  exact Step.leads_modify.2 (h.of_objects hmove h.enrolled.of_notes)

/-- Once the pools are made, nothing is on record and nothing is set aside. -/
theorem makePools_starts {ε : Type} (hpools : s.PoolsFit)
    (hkernel : Kernel.create? s.selfId l [] = some b.kernel)
    (hfits : l.physBase.toNat + l.physFrames * pageSize < UInt64.size) :
    (makePools s : Step Broker ε Unit).Leads b (fun _ => Underway s l [] false)
      (fun _ _ => False) := by
  obtain ⟨hbare, hulk⟩ := bare_of_create? hkernel
  refine (makePools_leads s).mono ?_ fun _ _ hnot => hnot hpools
  rintro _ _ ⟨components, threads, rcvs, asnds, pages, spans, rfl, hcomponents, _, _, _, hpages,
    hspans⟩
  obtain ⟨_, rfl⟩ := Pool.create?_eq_some_iff.1 hcomponents
  obtain ⟨_, rfl⟩ := Pool.create?_eq_some_iff.1 hpages
  obtain ⟨_, rfl⟩ := Pool.create?_eq_some_iff.1 hspans
  refine ⟨?_, ⟨drawn_of_create? hkernel hfits, rfl, Pool.dense_create _ _, rfl⟩, rfl, fun i => ?_⟩
  · exact
      { capacity := rfl
        records := fun i record => by
          refine ⟨fun hrecord => ?_, fun h => nomatch h.1⟩
          cases Pool.at?_create.symm.trans hrecord
        free := fun i _ => Pool.slot_create
        homed := fun i g record hg => absurd Pool.slot_create (Pool.slot_ne_free hg)
        known := fun id hid => .inl (hbare id hid)
        ulk := hulk }
  · exact ⟨nofun, fun _ => Pool.slot_create⟩

/-! ### The start -/

/-- The component records are exactly those that are there from the start. -/
def StartRecords (s : Settings) (m : Manifest) (groups : List ComponentCaps) (b : Broker) : Prop :=
  ∀ i record, b.components.at? i = some record ↔
    record ∈ firstRecords s m groups ∧ record.id.number.toNat = i

/-- The broker starts if every phase finds what it needs; nothing else can stop it. -/
theorem boot_starts (hpools : s.PoolsFit)
    (hkernel : Kernel.create? s.selfId l [] = some kernel)
    (hfits : l.physBase.toNat + l.physFrames * pageSize < UInt64.size) (htables : TablesFit l m) :
    (boot s m).Leads (.create kernel)
      (fun _ b' => ∃ groups, Startable s m l groups ∧ StartRecords s m groups b')
      (fun _ _ => ¬ ∃ groups, Startable s m l groups) := by
  apply Step.Leads.modify_bind
  refine Step.Leads.ite (fun hlow => Step.Leads.refuse_bind ?_) fun htable => ?_
  · exact fun ⟨_, h⟩ => h.tableEnd hlow
  refine Step.leads_bind.2 (Step.leads_explain.2 (Step.leads_ofExcept.2 ⟨?_, ?_⟩))
  swap
  · rintro why hwhy ⟨_, h⟩
    obtain ⟨plan, hplan⟩ := h.plan
    cases hwhy.symm.trans hplan
  intro plan hplan
  refine Step.leads_bind.2 (Step.leads_explain.2 (Step.leads_ofExcept.2 ⟨?_, ?_⟩))
  swap
  · rintro why hwhy ⟨_, h⟩
    cases hwhy.symm.trans h.replays
  intro groups hgroups
  -- From here on it is clear which capabilities are replayed.
  suffices h : Step.Needs _ _ (Startable s m l groups) (fun _ => StartRecords s m groups) by
    refine Step.Leads.mono h (fun _ _ hdone => ⟨groups, hdone⟩) fun _ _ hnot => ?_
    rintro ⟨_, hstart⟩
    cases hgroups.symm.trans hstart.replays
    exact hnot hstart
  refine (makePools_starts hpools hkernel hfits).needs_bind fun _ b₁ h₁ => ?_
  have hbase : (Kernel.frontiersFrom b₁.kernel.layout none).2.toNat +
      b₁.kernel.layout.captblSize.toNat < UInt64.size := by
    rw [h₁.stocked.machine.layout]
    exact htables.base
  refine (registerComponent_enrolls brokerName .broker h₁.enrolled hpools hbase
    (absurd rfl)).explain.bind Startable.self ?_
  rintro _ b₂ hself ⟨hmove, henrolled⟩
  have h₂ : Underway s l (firstRecords s m []) false b₂ := h₁.of_objects hmove henrolled
  refine h₂.logs.needs_bind fun _ b₂ h₂ => ?_
  have htables' : TablesFit b₂.kernel.layout m := by
    rw [h₂.stocked.machine.layout]
    exact htables
  refine (adoptAll_enrolls _ h₂.enrolled hpools htables').bind Startable.adopted ?_
  rintro _ b₃ hadopted ⟨hmove, henrolled⟩
  have h₃ := h₂.of_objects hmove henrolled
  refine (initUlk_enrolls h₃.enrolled).needs_bind ?_
  rintro _ b₄ ⟨hmove, henrolled⟩
  have h₄ := h₃.of_objects hmove henrolled
  refine (shareAll_enrolls h₄.enrolled).bind Startable.sharers ?_
  rintro _ b₅ hsharers ⟨hmove, henrolled⟩
  have h₅ := h₄.of_objects hmove henrolled
  refine (setAsideAll_spans hpools h₅.spanned h₅.stocked).bind Startable.regions ?_
  rintro _ b₆ hregions ⟨hsame, hstocked⟩
  have hframes : pagesOf m.sharedRegions ≤ l.physFrames :=
    Nat.zero_add (pagesOf _) ▸ (successively_placeable_iff.1 hregions).2.2.2
  refine (initContig_allots hstocked.machine hframes).bind Startable.contig ?_
  intro _ b₇ hcontig hsame'
  refine Step.Leads.modify_bind (Step.needs_pure.2 ⟨?_, fun i record => ?_⟩)
  · exact ⟨htable, ⟨plan, hplan⟩, hgroups, hself, hadopted, hsharers, hregions, hcontig⟩
  · show b₇.components.at? i = some record ↔ _
    rw [hsame', hsame]
    exact h₅.enrolled.records i record

/-- The tables of components end within the word. -/
theorem tablesFit_of_create? (hkernel : Kernel.create? s.selfId l [] = some kernel)
    (htables : ∀ (id : UInt64) (f : Frontiers), m.frontiers[id]? = some f →
      f.captbl.toNat + l.captblSize.toNat < UInt64.size) : TablesFit l m where
  base := by
    obtain ⟨_, hspace, _⟩ := Option.map_eq_some_iff.1 hkernel
    obtain ⟨_, hlimit, _⟩ := Option.map_eq_some_iff.1 hspace
    exact word64?_isSome_iff.1 ⟨_, hlimit⟩
  frontiers id := by
    unfold Manifest.frontiersOf
    cases hfound : m.frontiers[id.number]? with
    | none =>
      rw [Option.getD_none, UInt64.toNat_zero, Nat.zero_add]
      exact l.captblSize.toNat_lt
    | some frontiers => exact htables _ _ hfound

/-! ### An ordinary manifest -/

/-- The capabilities of the client, its scheduler and the bystander. -/
def ordinaryGroups : List ComponentCaps :=
  [⟨⟨5⟩, 20, 21, 22⟩, ⟨⟨6⟩, 23, 24, 25⟩, ⟨⟨7⟩, 26, 27, 28⟩]

/-- The ordinary manifest is consistent with every machine that has frames for the
contiguous region. -/
theorem ordinary_consistent (h : 64 ≤ l.physFrames) :
    Setting.ordinary.manifest.Consistent .small l ordinaryGroups where
  tableEnd := by decide
  executions := by decide
  replays := ComponentCaps.groups_eq_ok_iff.1 rfl
  slots := by decide
  apart := by decide
  named := by decide +kernel
  sharers := nofun
  regions := nofun
  regionsApart := List.nodup_nil
  sizes := nofun
  pages := Nat.zero_le _
  frames := h

theorem small_poolsFit : Settings.small.PoolsFit := by
  constructor <;> decide

/-- The ordinary manifest declares no frontiers. -/
theorem ordinary_tables (id : UInt64) (f : Frontiers) :
    Setting.ordinary.manifest.frontiers[id]? ≠ some f := by
  have hnone : Setting.ordinary.manifest.frontiers[id]? = none := Std.ExtTreeMap.getElem?_empty
  rw [hnone]
  exact nofun

/-! ### Acceptance -/

/-- On a fresh machine without faults whose frames and tables lie within the word, the
broker starts exactly from the consistent manifests, provided the contiguous region fits
behind its heap.  Then it has itself on record, the components whose capabilities were
replayed, and no others. -/
theorem boot_accepts_consistent_manifests (hpools : s.PoolsFit)
    (hkernel : Kernel.create? s.selfId l [] = some kernel)
    (hframes : l.physBase.toNat + l.physFrames * pageSize < UInt64.size)
    (htables : ∀ (id : UInt64) (f : Frontiers), m.frontiers[id]? = some f →
      f.captbl.toNat + l.captblSize.toNat < UInt64.size) :
    ((∃ image b, boot s m (.create kernel) = .ok image b) ↔
      (∃ groups, m.Consistent s l groups) ∧ ContigFits s l) ∧
    ∀ image b, boot s m (.create kernel) = .ok image b →
      ∃ groups, ComponentCaps.Triples m.captbl groups ∧ StartRecords s m groups b := by
  have hboot := boot_starts hpools hkernel hframes (tablesFit_of_create? hkernel htables)
  refine ⟨⟨?_, ?_⟩, ?_⟩
  · rintro ⟨image, b, hb⟩
    obtain ⟨groups, hstart, _⟩ := hboot.of_ok hb
    obtain ⟨hconsistent, hroom⟩ := startable_iff.1 hstart
    exact ⟨⟨groups, hconsistent⟩, hroom⟩
  · rintro ⟨⟨groups, hconsistent⟩, hroom⟩
    have hstart : Startable s m l groups := startable_iff.2 ⟨hconsistent, hroom⟩
    rcases hboot.ends with ⟨image, hb, _⟩ | ⟨why, _, hnot⟩
    · exact ⟨image, _, hb⟩
    · exact absurd ⟨groups, hstart⟩ hnot
  · intro image b hb
    obtain ⟨groups, hstart, hrecords⟩ := hboot.of_ok hb
    exact ⟨groups, (startable_iff.1 hstart).1.replays, hrecords⟩

/-- On the standard machine the ordinary manifest is accepted, and its three components
are on record beside the broker. -/
theorem ordinary_manifest_accepted : ∃ kernel image b,
    Kernel.create? Settings.small.selfId .standard [] = some kernel ∧
    boot .small Setting.ordinary.manifest (.create kernel) = .ok image b ∧
    StartRecords .small Setting.ordinary.manifest ordinaryGroups b := by
  have hcreate : (Kernel.create? Settings.small.selfId .standard []).isSome = true := by
    decide +kernel
  obtain ⟨kernel, hkernel⟩ := Option.isSome_iff_exists.1 hcreate
  have hroom : ContigFits .small .standard := .inr (by decide)
  obtain ⟨haccepts, hrecords⟩ := boot_accepts_consistent_manifests small_poolsFit hkernel
    (by decide) fun id f hf => absurd hf (ordinary_tables id f)
  obtain ⟨image, b, hboot⟩ := haccepts.2 ⟨⟨_, ordinary_consistent (by decide)⟩, hroom⟩
  obtain ⟨groups, htriples, hstart⟩ := hrecords image b hboot
  obtain rfl : groups = ordinaryGroups := by
    have hgroups := ComponentCaps.groups_eq_ok_iff.2 htriples
    exact (Except.ok.inj hgroups).symm
  exact ⟨kernel, image, b, hkernel, hboot, hstart⟩

/-! ### A heap that begins within a page -/

/-- The numbers of the settings and of the machine lie within the word, and so do the
tables that a manifest declares frontiers of. -/
structure WithinWord (s : Settings) (m : Manifest) (l : Kernel.Layout) : Prop where
  pages : s.maxPages.toNat + s.contigPages.toNat < UInt64.size
  frames : l.physBase.toNat + l.physFrames * pageSize < UInt64.size
  heap : l.heapBase.toNat + l.physFrames * pageSize < UInt64.size
  table : l.captblBase.toNat + l.captblSize.toNat < UInt64.size
  tables : ∀ (id : UInt64) (f : Frontiers), m.frontiers[id]? = some f →
    f.captbl.toNat + l.captblSize.toNat < UInt64.size

/-- Then there is room for the contiguous region of a consistent manifest behind a heap
that begins on a page boundary. -/
theorem WithinWord.contigFits (h : WithinWord s m l) (hconsistent : m.Consistent s l groups)
    (hbase : pageSize ∣ l.heapBase.toNat) : ContigFits s l :=
  .inr (heapRoom_of_fits h.heap (Nat.le_trans (Nat.le_add_left _ _) hconsistent.frames)
    (.inl hbase))

/-- A machine with as many frames as the contiguous region takes, and with a heap that
begins within a page.  Behind its base they would just fit the word; behind the next page
boundary they do not. -/
def brimming : Kernel.Layout := ⟨⟨0x01000000⟩, 64, ⟨18446744073709289471⟩, 16, 65536⟩

/-- That machine is within the word, and still it refuses a manifest that is consistent
with it. -/
theorem consistent_manifest_refused :
    Settings.small.PoolsFit ∧ WithinWord .small Setting.ordinary.manifest brimming ∧
    Setting.ordinary.manifest.Consistent .small brimming ordinaryGroups ∧
    ∃ kernel, Kernel.create? Settings.small.selfId brimming [] = some kernel ∧
      ∀ image b, boot .small Setting.ordinary.manifest (.create kernel) ≠ .ok image b := by
  have hwithin : WithinWord .small Setting.ordinary.manifest brimming :=
    ⟨by decide, by decide, by decide, by decide, fun id f hf => absurd hf (ordinary_tables id f)⟩
  have hcreate : (Kernel.create? Settings.small.selfId brimming []).isSome = true := by
    decide +kernel
  obtain ⟨kernel, hkernel⟩ := Option.isSome_iff_exists.1 hcreate
  refine ⟨small_poolsFit, hwithin, ordinary_consistent (by decide), kernel, hkernel, ?_⟩
  intro image b hboot
  obtain ⟨groups, hstart, _⟩ := (boot_starts small_poolsFit hkernel hwithin.frames
    (tablesFit_of_create? hkernel hwithin.tables)).of_ok hboot
  have hfull : ¬ ContigFits .small brimming := by decide
  exact hfull (startable_iff.1 hstart).2

end CapabilityBroker.Service
