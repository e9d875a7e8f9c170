/-
CapabilityBroker/Proofs/Roster/Service.lean

Broker and kernel have the same components.

In every state of a run the two rosters are equal, each record stands under its
own id, and no slot for a component is kept.  So a virtual machine gets the least
id without a record: the pool picks it, and the kernel cannot have it.  Only
where every id has a record is a virtual machine refused.

What must hold while the broker registers itself is less (`Broker.Tidy`): the
kernel has the broker's component from the start, before there is a record.
-/
import CapabilityBroker.Proofs.Authority
import CapabilityBroker.Proofs.Boot.Components
import CapabilityBroker.Proofs.Grants.Service
import CapabilityBroker.Proofs.Pool.Search
import CapabilityBroker.Proofs.LowWater
import CapabilityBroker.Proofs.Roster.Basic

namespace CapabilityBroker

open Step (Answers Stays)

variable {b b' : Broker} {settings : Settings} {id : ComponentId}

/-! ### The invariant -/

/-- The pool of component records is as large as the settings ask, regular, and none
of its slots is kept; each record stands under its own id.  A new component's
capability table ends within the word. -/
structure Broker.Tidy (settings : Settings) (b : Broker) : Prop where
  capacity : b.components.capacity = settings.maxComponents.toNat
  small : settings.maxComponents.toNat < Pool.capacityLimit
  regular : b.components.Regular
  settled : ∀ i, (b.components.entry i).slot ≠ .reserved
  placed : ∀ i c, b.components.at? i = some c → c.id.number.toNat = i
  tables : b.kernel.layout.captblBase.toNat + b.kernel.layout.captblSize.toNat < UInt64.size

/-- Moreover, the kernel has the components on record and no others, under the same
names and of the same kinds. -/
structure Broker.Rostered (settings : Settings) (b : Broker) : Prop
    extends Broker.Tidy settings b where
  listed : ∀ id, b.kernel.roster id = b.roster id

/-- The ids that a component can have and none on record has. -/
def Broker.unlisted (b : Broker) (settings : Settings) : Set Nat :=
  {i | 1 ≤ i ∧ i ≤ settings.maxComponents.toNat ∧ b.components.at? i = none}

theorem Broker.roster_eq_none (h : b.components.at? id.number.toNat = none) :
    b.roster id = none := by
  unfold roster component?
  rw [h]
  rfl

namespace Broker.Tidy

/-- A slot is free where there is no record. -/
theorem slot_free_iff (h : b.Tidy settings) {i : Nat} :
    (b.components.entry i).slot = .free ↔ b.components.at? i = none := by
  have hsettled := h.settled i
  unfold Pool.at?
  split
  · next o ho => simp [ho]
  · next hidle =>
    refine iff_of_true ?_ rfl
    cases hslot : (b.components.entry i).slot with
    | free => rfl
    | reserved => exact absurd hslot hsettled
    | active o => exact absurd hslot (hidle o)

theorem vacant_eq (h : b.Tidy settings) : b.components.vacant = b.unlisted settings := by
  refine Set.ext fun i => ?_
  show _ ∧ _ ∧ _ ↔ _ ∧ _ ∧ _
  rw [h.capacity, Pool.isFree_iff, h.slot_free_iff]

/-- All slots are active exactly if every id has a record. -/
theorem active_eq_iff (h : b.Tidy settings) :
    b.components.active = settings.maxComponents.toNat ↔ b.unlisted settings = ∅ := by
  have hfull : b.components.occupied.card = (Finset.Icc 1 b.components.capacity).card ↔
      b.components.occupied = Finset.Icc 1 b.components.capacity :=
    ⟨Finset.eq_of_subset_of_card_le (Finset.filter_subset _ _) ∘ Nat.le_of_eq ∘ Eq.symm,
      congrArg Finset.card⟩
  rw [Nat.card_Icc, Nat.add_sub_cancel] at hfull
  rw [h.regular.active_eq_card, ← h.capacity, hfull, Pool.occupied, Finset.filter_eq_self,
    Set.eq_empty_iff_forall_notMem]
  refine forall_congr' fun i => ?_
  rw [Finset.mem_Icc]
  constructor
  · rintro hall ⟨hpos, hle, hnone⟩
    have hsome := hall ⟨hpos, h.capacity ▸ hle⟩
    rw [hnone] at hsome
    cases hsome
  · rintro hnot ⟨hpos, hle⟩
    rw [Option.isSome_iff_ne_none]
    exact fun hnone => hnot ⟨hpos, h.capacity ▸ hle, hnone⟩

/-- A record comes into a slot under the id of the slot, and the kernel's roster gains
what the record says. -/
theorem enroll (h : b.Tidy settings) {p : Pool ComponentRecord}
    {slot : Reservation ComponentRecord} {record : ComponentRecord} {k : Kernel}
    (hregular : (p.publish slot record).Regular) (hcapacity : p.capacity = b.components.capacity)
    (hentry : ∀ i, slot.index ≠ i → p.entry i = b.components.entry i)
    (hindex : record.id.number.toNat = slot.index) (hlayout : k.layout = b.kernel.layout)
    (hroster : ∀ d, k.roster d =
      if record.id = d then some (record.name, record.manager?.isSome) else b.roster d) :
    Broker.Rostered settings { b with kernel := k, components := p.publish slot record } := by
  have hat : ∀ i, (p.publish slot record).at? i =
      if slot.index = i then some record else b.components.at? i := by
    intro i
    rw [Pool.at?_publish]
    refine ite_congr rfl (fun _ => rfl) fun hi => ?_
    exact Pool.at?_congr (hentry i hi)
  refine { capacity := hcapacity.trans h.capacity, small := h.small, regular := hregular,
           settled := fun i => ?_, placed := fun i c hc => ?_, tables := hlayout ▸ h.tables,
           listed := fun d => ?_ }
  · dsimp only
    rw [Pool.entry_publish]
    split
    · exact nofun
    · next hi =>
      rw [hentry i hi]
      exact h.settled i
  · rw [hat] at hc
    split at hc
    · next hi =>
      obtain rfl := Option.some.inj hc
      exact hindex.trans hi
    · exact h.placed i c hc
  · dsimp only
    rw [hroster]
    unfold Broker.roster Broker.component?
    rw [hat]
    by_cases hd : record.id = d
    · rw [if_pos hd, if_pos (hd ▸ hindex.symm)]
      rfl
    · rw [if_neg hd, if_neg]
      exact fun hi => hd (Service.ComponentId.number_inj (hindex.trans hi))

end Broker.Tidy

namespace Broker.Rostered

/-- Whatever leaves the rosters alone keeps them equal. -/
theorem of_same (h : b.Rostered settings) (hs : b.SameRoster b') : b'.Rostered settings where
  capacity := hs.components.capacity.trans h.capacity
  small := h.small
  regular := hs.components.regular h.regular
  settled i hreserved := h.settled i ((hs.components.slot_eq (.of_reserved hreserved)).symm.trans
    hreserved)
  placed i c hc := by
    obtain ⟨c₀, hc₀, ⟨_, rfl⟩, _⟩ := hs.components.exists_before hc
    exact h.placed i c₀ hc₀
  tables := hs.kernel.layout ▸ h.tables
  listed id := by rw [hs.kernel.roster, h.listed, hs.roster]

/-- The kernel has exactly the components on record. -/
theorem hasComponent (h : b.Rostered settings) (id : ComponentId) :
    b.kernel.hasComponent id = b.hasComponent id := by
  have hlisted := congrArg Option.isSome (h.listed id)
  unfold Kernel.roster Broker.roster at hlisted
  rwa [Option.isSome_map, Option.isSome_map] at hlisted

/-- A record has the name and the kind of the component, and stands under its id. -/
theorem component (h : b.Rostered settings) {record : ComponentRecord}
    (hrecord : b.component? id = some record) :
    record.id = id ∧ ∃ space, b.kernel.space? id = some space ∧ space.name = record.name ∧
      space.isVm = record.manager?.isSome := by
  refine ⟨Service.ComponentId.number_inj (h.placed _ _ hrecord), ?_⟩
  have hlisted := h.listed id
  unfold Kernel.roster Broker.roster at hlisted
  rw [hrecord] at hlisted
  obtain ⟨space, hspace, heq⟩ := Option.map_eq_some_iff.1 hlisted
  exact ⟨space, hspace, congrArg Prod.fst heq, congrArg Prod.snd heq⟩

end Broker.Rostered

/-! ### New components -/

/-- A virtual machine comes under the least id without a record; it is refused only
where there is none. -/
theorem createVm_enrolls (h : b.Rostered settings) (manager : ComponentId) :
    (createVm manager).Leads b
      (fun id b' => b'.Rostered settings ∧ IsLeast (b.unlisted settings) id.number.toNat ∧
        b'.component? id = some ⟨id, vmName, .virtualMachine manager, none, ∅⟩)
      (fun why b' => b' = b ∧ b.unlisted settings = ∅ ∧
        why = .refused (.pool (.exhausted b.components.name))) := by
  refine Step.leads_bind.2 (Part.ask_leads (Pool.allocate_leads.mono ?_ ?_))
  · rintro slot _ ⟨hfirst, hslot, rfl⟩
    have hleast := h.regular.firstFree?_eq_some_iff.1 hfirst
    have hfree := Pool.isFree_iff.1 hleast.1.2.2
    refine Step.leads_cleanly.2 (Step.Leads.exact_bind (fun number hnumber => ?_) fun hnone => ?_)
    · rw [word64?_eq_some_iff] at hnumber
      refine Step.leads_bind.2 (Part.run_leads (Step.leads_explain.2
        ((Kernel.createVmComponent_enters vmName h.tables).mono ?_ ?_)))
      · rintro _ k ⟨hlayout, hroster⟩
        let p : Pool ComponentRecord :=
          { b.components.reserve slot.index with lowWater := slot.index + 1 }
        have hholds : p.Holds slot := by
          rw [hslot]
          exact (Pool.entry_reserve b.components slot.index slot.index).trans (if_pos rfl)
        let record : ComponentRecord := ⟨⟨number⟩, vmName, .virtualMachine manager, none, ∅⟩
        have hregular : (p.publish slot record).Regular := by
          refine (h.regular.reserve hfree hleast.1.1 hleast.1.2.1 (Nat.le_add_left 1 _)
            (Nat.succ_le_succ hleast.1.2.1) fun i hpos hlt hne => ?_).publish hholds
          rw [Bool.eq_false_iff]
          intro hvacant
          have hle := hleast.2 ⟨hpos, by have := hleast.1.2.1; omega, hvacant⟩
          omega
        have henrolled := h.enroll hregular rfl
          (fun i hi => (Pool.entry_reserve b.components _ i).trans (if_neg hi)) hnumber hlayout
          fun d => (hroster d).trans (by rw [← h.listed d]; rfl)
        refine Step.leads_bind.2 ((Part.activate_leads hholds).mono ?_ fun _ _ => False.elim)
        rintro _ _ ⟨rfl, rfl⟩
        refine Step.Leads.modify_bind (Step.Leads.modify_bind (Step.leads_pure.2 ?_))
        rw [← h.vacant_eq, hnumber]
        exact ⟨henrolled.of_same ⟨⟨rfl, rfl, rfl⟩, .refl _⟩, hleast,
          Pool.at?_publish.trans (if_pos hnumber.symm)⟩
      -- The kernel does not have the id, as there is no record under it.
      · rintro why k htaken
        refine absurd ((h.listed _).trans (Broker.roster_eq_none ?_)) htaken
        show b.components.at? number.toNat = none
        rw [hnumber]
        exact h.slot_free_iff.1 hfree
    · rw [word64?_eq_none_iff] at hnone
      have hle := hleast.1.2.1
      rw [h.capacity] at hle
      have hword : Pool.capacityLimit < UInt64.size := by decide
      exact absurd (Nat.lt_of_le_of_lt hle (h.small.trans hword)) (Nat.not_lt.2 hnone)
  · rintro why _ ⟨hnone, rfl, rfl⟩
    exact ⟨rfl, h.vacant_eq ▸ h.regular.firstFree?_eq_none_iff.1 hnone, rfl⟩

/-- A component that is registered comes under its id. -/
theorem registerComponent_lists (h : b.Tidy settings)
    (hothers : ∀ d, id ≠ d → b.kernel.roster d = b.roster d)
    (hplain : b.roster id = none → ∀ n, b.kernel.roster id ≠ some (n, true)) (name : String)
    {kind : ComponentKind} (hkind : ∀ manager, kind ≠ .virtualMachine manager)
    (resources : Option Kernel.Resources) :
    (registerComponent id name kind resources (Kernel.createComponent id name resources)).Leads b
      (fun _ => Broker.Rostered settings) (fun _ _ => True) := by
  refine Step.Leads.require_bind (fun index hindex => ?_) fun _ => trivial
  rw [word32?_eq_some_iff] at hindex
  rw [hindex]
  refine Step.leads_bind.2 (Part.ask_leads (Pool.allocateAt_leads.mono ?_ fun _ _ _ => trivial))
  rintro slot _ ⟨hpos, hle, hfree, rfl, rfl⟩
  have hnone := Broker.roster_eq_none (h.slot_free_iff.1 hfree)
  refine Step.leads_cleanly.2 (Step.leads_bind.2 (Part.run_leads (Step.leads_explain.2
    ((Kernel.createComponent_enters name resources (hplain hnone)).mono ?_ fun _ _ _ => trivial))))
  rintro _ k ⟨hlayout, hroster⟩
  let record : ComponentRecord := ⟨id, name, kind, resources, ∅⟩
  have hmanager : record.manager? = none := ComponentRecord.manager?_eq_none hkind
  have hholds : (b.components.reserve id.number.toNat).Holds
      (b.components.reservation id.number.toNat) :=
    (Pool.entry_reserve b.components _ _).trans (if_pos rfl)
  have hregular : ((b.components.reserve id.number.toNat).publish
      (b.components.reservation id.number.toNat) record).Regular :=
    (h.regular.reserve hfree (Nat.pos_of_ne_zero hpos) hle h.regular.pos h.regular.bound
      fun i hi hlt _ => h.regular.busy i hi hlt).publish hholds
  have hlisted : ∀ d, k.roster d =
      if record.id = d then some (record.name, record.manager?.isSome) else b.roster d := by
    intro d
    rw [hroster, hmanager]
    exact ite_congr rfl (fun _ => rfl) (hothers d)
  have henrolled := h.enroll hregular rfl
    (fun i hi => (Pool.entry_reserve b.components _ i).trans (if_neg hi)) rfl hlayout hlisted
  refine Step.leads_bind.2 ((Part.activate_leads hholds).mono ?_ fun _ _ => False.elim)
  rintro _ _ ⟨rfl, rfl⟩
  exact Step.leads_modify.2 (henrolled.of_same ⟨⟨rfl, rfl, rfl⟩, .refl _⟩)

namespace Service

variable {s : Setting} {image : Image} {i : Invocation}

/-! ### The start -/

/-- Equal rosters stay equal. -/
def KeepsRosters (settings : Settings) (b b' : Broker) : Prop :=
  b.Rostered settings → b'.Rostered settings

instance : IsPreorder Broker (KeepsRosters settings) where
  refl _ h := h
  trans _ _ _ h h' := h' ∘ h

theorem keepsRosters_of_same {ε α : Type} {s : Step Broker ε α} (hs : Stays Broker.SameRoster s) :
    Answers (KeepsRosters settings) s := hs.answers_mono fun _ _ hsame h => h.of_same hsame

theorem adopt_keepsRosters (m : Manifest) (schedulers : Schedulers) (caps : ComponentCaps) :
    Answers (KeepsRosters settings) (adopt m schedulers caps) := by
  intro b
  refine Step.Leads.require_bind (fun name _ => ?_) fun _ => trivial
  have hregister : (registerComponent caps.component name .booted
      (some (resourcesOf caps (m.frontiersOf caps.component)))
      (Kernel.createComponent caps.component name
        (some (resourcesOf caps (m.frontiersOf caps.component))))).Leads b
      (fun _ => KeepsRosters settings b) (fun _ _ => True) := by
    refine (Step.Leads.given fun (h : b.Rostered settings) => registerComponent_lists h.toTidy
      (fun d _ => h.listed d) (fun hnone n => ?_) name (fun _ hkind => by cases hkind) _).mono
      (fun _ _ hb' => hb') fun _ _ _ => trivial
    rw [h.listed, hnone]
    exact nofun
  refine Step.leads_bind.2 (Step.leads_explain.2 (hregister.mono ?_ fun _ _ _ => trivial))
  intro _ b₁ h₁
  have hlog : ∀ journal, KeepsRosters settings b₁ { b₁ with journal } :=
    fun journal h => h.of_same (.of_others rfl rfl)
  exact Step.Leads.modify_bind (Step.leads_modify.2 fun h => hlog _ (h₁ h))

theorem shareUlk_sameRoster (id : ComponentId) : Stays Broker.SameRoster (shareUlk id) :=
  shareUlk_walks (kernelPart_sameRoster.run (Kernel.mapUlk_sameRoster id).attempt)

/-- The pools that are made are tidy, and nobody is on record. -/
theorem makePools_tidy {ε : Type}
    (hfits : b.kernel.layout.captblBase.toNat + b.kernel.layout.captblSize.toNat < UInt64.size) :
    (makePools settings : Step Broker ε Unit).Leads b
      (fun _ made => made.Tidy settings ∧ made.kernel = b.kernel ∧ ∀ id, made.roster id = none)
      (fun _ _ => True) := by
  refine (makePools_leads settings).mono ?_ fun _ _ _ => trivial
  rintro _ _ ⟨components, _, _, _, _, _, rfl, hcreate, -⟩
  obtain ⟨hsmall, rfl⟩ := Pool.create?_eq_some_iff.1 hcreate
  have hnone : ∀ i, (Pool.create "comp" settings.maxComponents.toNat :
      Pool ComponentRecord).at? i = none := fun _ => Pool.at?_create
  refine ⟨⟨rfl, hsmall, Pool.regular_create _ _, fun i => ?_, fun i c hc => ?_, hfits⟩, rfl,
    fun id => Broker.roster_eq_none (hnone _)⟩
  · dsimp only
    rw [Pool.entry_create]
    exact nofun
  · cases (hnone i).symm.trans hc

/-- At first the kernel has the broker's component and no other. -/
theorem roster_of_create? {kernel : Kernel}
    (hc : Kernel.create? s.selfId s.layout s.faults = some kernel) :
    kernel.layout = s.layout ∧
      s.layout.captblBase.toNat + s.layout.captblSize.toNat < UInt64.size ∧
      ∀ d, kernel.roster d = if s.selfId = d then some (brokerName, false) else none := by
  obtain ⟨space, hspace, rfl⟩ := Option.map_eq_some_iff.1 hc
  obtain ⟨hname, hplain⟩ := Kernel.Space.face_of_create? hspace
  refine ⟨rfl, ?_, fun d => ?_⟩
  · obtain ⟨_, hword, _⟩ := Option.map_eq_some_iff.1 hspace
    rw [word64?_eq_some_iff] at hword
    exact hword ▸ UInt64.toNat_lt _
  · unfold Kernel.roster Kernel.space?
    simp only [Std.ExtTreeMap.getElem?_insert, Std.LawfulEqCmp.compare_eq_iff_eq,
      Std.ExtTreeMap.getElem?_empty]
    split
    · exact congrArg some (Prod.ext hname hplain)
    · rfl

theorem keepsRosters_admitsStart (settings : Settings) (manifest : Manifest) :
    AdmitsStart (KeepsRosters settings) manifest where
  log level message := keepsRosters_of_same (sameRoster_tacit.log level message)
  adopt _ _ schedulers caps _ := adopt_keepsRosters manifest schedulers caps
  initUlk := keepsRosters_of_same (kernelPart_sameRoster.run Kernel.initUlk_sameRoster.explain)
  shareUlk id := keepsRosters_of_same (shareUlk_sameRoster id)
  setAside region := keepsRosters_of_same (setAside_memory memory_sameRoster region)

/-- The rosters are equal when the start is over. -/
theorem boot_rostered {kernel : Kernel}
    (hc : Kernel.create? s.selfId s.layout s.faults = some kernel)
    (hself : s.selfId = s.settings.selfId) :
    (boot s.settings s.manifest).Leads (.create kernel) (fun _ b => b.Rostered s.settings)
      (fun _ _ => True) := by
  obtain ⟨hlayout, hfits, hroster⟩ := roster_of_create? hc
  rw [hself] at hroster
  have htables : kernel.layout.captblBase.toNat + kernel.layout.captblSize.toNat < UInt64.size :=
    hlayout ▸ hfits
  -- The kernel knows its own component before the broker registers it.
  have hown : ∀ made : Broker,
      (made.Tidy s.settings ∧ made.kernel = kernel ∧ ∀ id, made.roster id = none) →
      (registerComponent s.settings.selfId brokerName .broker none
        (Kernel.createComponent s.settings.selfId brokerName none)).Leads made
        (fun _ => Broker.Rostered s.settings) (fun _ _ => True) := by
    rintro made ⟨htidy, hkernel, hnobody⟩
    refine registerComponent_lists htidy (fun d hd => ?_) (fun _ n => ?_) brokerName
      (fun _ hkind => by cases hkind) none
    · rw [hkernel, hnobody]
      exact (hroster d).trans (if_neg hd)
    · rw [hkernel, hroster, if_pos rfl]
      exact nofun
  have hcontig : ∀ first b, first.Rostered s.settings → KeepsRosters s.settings first b →
      (initContig s.settings.selfId s.settings.contigPages.toNat).Leads b
        (fun _ => KeepsRosters s.settings first) (fun _ _ => True) := fun first b _ hb =>
    (keepsRosters_of_same (memory_sameRoster.initContig _ _) b).mono
      (fun _ _ h => trans_of (KeepsRosters s.settings) hb h) fun _ _ _ => trivial
  have hend : ∀ (first b : Broker) barriers, KeepsRosters s.settings first b →
      KeepsRosters s.settings first { b with barriers } :=
    fun first b barriers hb h => (hb h).of_same (.of_others rfl rfl)
  have hboot := boot_stages
    (fun journal => makePools_tidy (b := { Broker.create kernel with journal }) htables) hown
    (keepsRosters_admitsStart s.settings s.manifest) hcontig hend
  refine hboot.mono ?_ fun _ _ _ => trivial
  rintro image b ⟨_, first, hfirst, hb⟩
  exact hb hfirst

/-! ### Requests for virtual machines -/

/-- A component on record gets a machine to manage, under the least id without a
record.  If there is no such id, or no record of the caller, nothing happens but a
line in the journal. -/
theorem createVm_ends (image : Image) (h : b.Rostered settings) :
    (dispatch image i .createVmComponent).Leads b
      (fun progress b' => b'.Rostered settings ∧
        ((∃ id, progress = .finished (.component id) ∧
          IsLeast (b.unlisted settings) id.number.toNat ∧
          b'.component? id = some ⟨id, vmName, .virtualMachine i.caller, none, ∅⟩) ∨
        ((b.unlisted settings = ∅ ∨ ¬ b.hasComponent i.caller = true) ∧
          progress = .finished (.nullFor .createVmComponent) ∧
          ∃ journal, b' = { b with journal })))
      (fun _ _ => False) := by
  have hjournal : ∀ journal, Broker.Rostered settings { b with journal } :=
    fun _ => h.of_same (.of_others rfl rfl)
  refine dispatch_walks (Step.leads_map.2 (Step.leads_map.2 (Step.leads_bind.2
    ((acting_leads i).mono ?_ ?_))))
  · rintro _ _ ⟨rfl, rfl, _⟩
    refine (createVm_enrolls h i.caller).mono ?_ ?_
    · rintro id b' ⟨hrostered, hleast, hrecord⟩
      exact ⟨hrostered, .inl ⟨id, rfl, hleast, hrecord⟩⟩
    · rintro _ _ ⟨rfl, hnone, rfl⟩
      refine ⟨fun failure _ _ journal => ?_, fun failure defect hwhy hdefect => ?_, nofun⟩
      · exact ⟨hjournal journal, .inr ⟨.inl hnone, rfl, journal, rfl⟩⟩
      · obtain rfl := Stop.refused.inj hwhy
        cases hdefect
  · rintro _ _ ⟨rfl, rfl, hno⟩
    refine ⟨fun failure _ _ journal => ?_, fun failure defect hwhy hdefect => ?_, nofun⟩
    · exact ⟨hjournal journal, .inr ⟨.inr hno, rfl, journal, rfl⟩⟩
    · obtain rfl := Stop.refused.inj hwhy
      cases hdefect

/-- Every action keeps the rosters equal. -/
theorem Action.rostered (h : b.Rostered settings) (image : Image) (action : Action) :
    (action.after image b).Rostered settings := by
  by_cases hvm : ∃ i, action = .request i .createVmComponent
  · obtain ⟨i, rfl⟩ := hvm
    exact ((createVm_ends image h).mono (fun _ _ h => h.1) fun _ _ => False.elim).final
  · exact h.of_same (action.stays_unless_vm parts_sameRoster.admitsThreads
      sameRoster_tacit.ignoresSignals memory_sameRoster image
      (fun i heq => hvm ⟨i, heq⟩) b)

/-- The rosters are equal in every state of a run. -/
theorem Reached.rostered (h : Reached s image b) (hself : s.selfId = s.settings.selfId) :
    b.Rostered s.settings := by
  induction h with
  | boot created booted => exact (boot_rostered created hself).of_ok booted
  | act action _ ih => exact action.rostered ih image

/-- Broker and kernel agree on who is there.  Where the machine knows the broker
under the id that the settings give it, in every state of every run the kernel has a
component exactly if there is a record of it, with the same name, and knows it as a
virtual machine exactly if the record does.  A record stands in the slot of its id,
and whoever manages a machine manages it for good.  So a component on record that
asks for a virtual machine is refused only while all slots are active; else it gets
the least id without a record, whatever was refused before. -/
theorem rosters_agree (h : Reached s image b) (hself : s.selfId = s.settings.selfId) :
    (∀ id, b.kernel.hasComponent id = b.hasComponent id) ∧
      (∀ id record, b.component? id = some record → record.id = id ∧
        (∃ space, b.kernel.space? id = some space ∧ space.name = record.name ∧
          (space.isVm = true ↔ ∃ manager, record.kind = .virtualMachine manager)) ∧
        ∀ manager, record.kind = .virtualMachine manager → ∀ actions : List Action,
          ∃ record', (actions.foldl (fun b action => action.after image b) b).component? id
            = some record' ∧ record'.kind = .virtualMachine manager) ∧
      (∀ index record, b.components.at? index = some record →
        record.id.number.toNat = index) ∧
      ∀ i : Invocation, b.hasComponent i.caller = true →
        (b.components.active = s.settings.maxComponents.toNat ∧ ∃ journal,
          dispatch image i .createVmComponent b
            = .ok (.finished (.nullFor .createVmComponent)) { b with journal }) ∨
        (b.components.active < s.settings.maxComponents.toNat ∧ ∃ id b',
          dispatch image i .createVmComponent b = .ok (.finished (.component id)) b' ∧
          IsLeast {n | 1 ≤ n ∧ n ≤ s.settings.maxComponents.toNat ∧ b.components.at? n = none}
            id.number.toNat ∧
          b'.component? id = some ⟨id, vmName, .virtualMachine i.caller, none, ∅⟩) := by
  have hrostered := h.rostered hself
  refine ⟨hrostered.hasComponent, fun id record hrecord => ?_, hrostered.placed,
    fun i hcaller => ?_⟩
  · obtain ⟨hid, space, hspace, hname, hkind⟩ := hrostered.component hrecord
    refine ⟨hid, ⟨space, hspace, hname, ?_⟩, fun manager hmanager actions => ?_⟩
    · rw [hkind, Option.isSome_iff_exists]
      exact exists_congr fun _ => manager?_eq_some_iff
    · obtain ⟨record', hrecord', hsame⟩ := (h.persists actions).manager hrecord
      rw [manager?_eq_some_iff.2 hmanager] at hsame
      exact ⟨record', hrecord', manager?_eq_some_iff.1 hsame⟩
  · have hactive := hrostered.active_eq_iff
    rcases (createVm_ends image hrostered).ends with
      ⟨progress, hend, -, ⟨id, rfl, hleast, hrecord⟩ | ⟨hnone | hno, rfl, journal, hb'⟩⟩ |
      ⟨_, _, hfalse⟩
    · have hle := hrostered.regular.active_le
      rw [hrostered.capacity] at hle
      refine .inr ⟨lt_of_le_of_ne hle fun hfull => ?_, id, _, hend, hleast, hrecord⟩
      rw [hactive.1 hfull] at hleast
      exact hleast.1
    · exact .inl ⟨hactive.2 hnone, journal, hb' ▸ hend⟩
    · exact absurd hcaller hno
    · exact hfalse.elim

/-- Refused requests cost nothing: after some of them, and one virtual machine, the
next one is the least number that is still free between the broker, the machine and
the components of the manifest. -/
theorem next_machine_gets_least_id :
    ∃ image b b', Reached .ordinary image b ∧
      (∀ id, b.kernel.hasComponent id = b.hasComponent id) ∧
      dispatch image ⟨⟨6⟩, ⟨0⟩⟩ .createVmComponent b = .ok (.finished (.component ⟨3⟩)) b' ∧
      b'.component? ⟨3⟩ = some ⟨⟨3⟩, vmName, .virtualMachine ⟨6⟩, none, ∅⟩ := by
  have hrun : (Setting.ordinary.run
      [.request ⟨⟨77⟩, ⟨0⟩⟩ .createVmComponent, .request ⟨⟨5⟩, ⟨0⟩⟩ .createVmComponent,
        .request ⟨⟨5⟩, ⟨0⟩⟩ (.allocateHeapPages 0 none)]).any
      (fun p => (p.2.hasComponent ⟨6⟩ && p.2.components.active == 5) &&
        ((p.2.components.at? 1).isSome && (p.2.components.at? 2).isSome) &&
        (p.2.components.at? 3).isNone) = true := by decide +kernel
  obtain ⟨image, b, h, hshows⟩ := exists_reached hrun
  simp only [Bool.and_eq_true, beq_iff_eq, Option.isNone_iff_eq_none] at hshows
  obtain ⟨⟨⟨hcaller, hactive⟩, hone, htwo⟩, hthree⟩ := hshows
  obtain ⟨hboth, _, _, hvm⟩ := rosters_agree h rfl
  rcases hvm ⟨⟨6⟩, ⟨0⟩⟩ hcaller with ⟨hfull, _⟩ | ⟨_, id, b', hend, hleast, hrecord⟩
  · rw [hactive] at hfull
    cases hfull
  · have hthird : id.number.toNat = 3 := by
      have hle := hleast.2 ⟨by decide, by decide, hthree⟩
      obtain ⟨hpos, _, hfree⟩ := hleast.1
      have hneOne : id.number.toNat ≠ 1 := by
        intro heq
        rw [← heq, hfree] at hone
        cases hone
      have hneTwo : id.number.toNat ≠ 2 := by
        intro heq
        rw [← heq, hfree] at htwo
        cases htwo
      omega
    obtain rfl : id = ⟨3⟩ := ComponentId.number_inj hthird
    exact ⟨image, b, b', h, hboth, hend, hrecord⟩

end Service

end CapabilityBroker
