/-
CapabilityBroker/Proofs/Roster/Basic.lean

Who is there, and under which name.

The roster of the kernel says of each component its name and whether it is a
virtual machine; the roster of the broker says the same of each record.  Only
two operations write either of them: a registration during the start, and the
creation of a virtual machine.  Everything else leaves both alone
(`Broker.SameRoster`), whatever it comes to and whatever faults are planned; of
the records of components it changes no more than their scheduling endpoints.

A primitive on objects or memory leaves the kernel's roster alone because it is
an advance under a warrant that allows everything but renaming, and brings no
component.
-/
import CapabilityBroker.Proofs.Move.Boot
import CapabilityBroker.Proofs.Move.Parts
import CapabilityBroker.Proofs.Pool.Custody

namespace CapabilityBroker

open Step (Stays StaysFrom)

/-! ### Objects that change where they are -/

namespace Pool

variable {α : Type} {C : α → α → Prop} {p p' p'' : Pool α} {i : Nat}

/-- The slot is the same, up to a change of its object along `C`. -/
def Entry.Amends (C : α → α → Prop) (e e' : Entry α) : Prop :=
  e' = e ∨ ∃ o o', C o o' ∧ e = ⟨e.generation, .active o⟩ ∧ e' = ⟨e.generation, .active o'⟩

/-- Objects change along `C` where they are, and nothing else happens. -/
structure Amends (C : α → α → Prop) (p p' : Pool α) : Prop where
  capacity : p'.capacity = p.capacity
  lowWater : p'.lowWater = p.lowWater
  active : p'.active = p.active
  entry : ∀ i, Entry.Amends C (p.entry i) (p'.entry i)

theorem Entry.Amends.trans [IsPreorder α C] {e e' e'' : Entry α} (h : Amends C e e')
    (h' : Amends C e' e'') : Amends C e e'' := by
  rcases h with rfl | ⟨o, o₁, hc, he, rfl⟩
  · exact h'
  · rcases h' with rfl | ⟨o₂, o₃, hc', he₂, rfl⟩
    · exact .inr ⟨o, o₁, hc, he, rfl⟩
    · obtain rfl := Slot.active.inj (congrArg Entry.slot he₂)
      exact .inr ⟨o, o₃, trans_of C hc hc', he, rfl⟩

namespace Amends

theorem refl (p : Pool α) : Amends C p p := ⟨rfl, rfl, rfl, fun _ => .inl rfl⟩

theorem trans [IsPreorder α C] (h : Amends C p p') (h' : Amends C p' p'') : Amends C p p'' :=
  ⟨h'.capacity.trans h.capacity, h'.lowWater.trans h.lowWater, h'.active.trans h.active,
    fun i => (h.entry i).trans (h'.entry i)⟩

theorem modify {f : α → α} (hf : ∀ o, C o (f o)) (hd : Handle α) : Amends C p (p.modify hd f) := by
  obtain ⟨entries, heq⟩ := modify_eq p hd f
  refine ⟨by rw [heq], by rw [heq], by rw [heq], fun i => ?_⟩
  rw [entry_modify]
  split
  · next o ho =>
    split
    · next hi =>
      obtain rfl := hi
      have hentry := get?_eq_some_iff.1 ho
      refine .inr ⟨o, f o, hf o, ?_, ?_⟩ <;> rw [hentry]
    · exact .inl rfl
  · exact .inl rfl

/-- An object that is there afterwards was there before. -/
theorem exists_before [IsPreorder α C] (h : Amends C p p') {o' : α} (ho : p'.at? i = some o') :
    ∃ o, p.at? i = some o ∧ C o o' := by
  obtain ⟨g, hg⟩ := at?_eq_some_iff.1 ho
  rcases h.entry i with heq | ⟨o, o₁, hc, hold, hnew⟩
  · exact ⟨o', at?_eq_some (heq.symm.trans hg), refl_of C o'⟩
  · obtain rfl := Slot.active.inj (congrArg Entry.slot (hnew.symm.trans hg))
    exact ⟨o, at?_eq_some hold, hc⟩

/-- An object that is there before is there afterwards. -/
theorem exists_after [IsPreorder α C] (h : Amends C p p') {o : α} (ho : p.at? i = some o) :
    ∃ o', p'.at? i = some o' ∧ C o o' := by
  obtain ⟨g, hg⟩ := at?_eq_some_iff.1 ho
  rcases h.entry i with heq | ⟨o₁, o', hc, hold, hnew⟩
  · exact ⟨o, at?_eq_some (heq.trans hg), refl_of C o⟩
  · obtain rfl := Slot.active.inj (congrArg Entry.slot (hold.symm.trans hg))
    exact ⟨o', at?_eq_some hnew, hc⟩

theorem isSome_at? [IsPreorder α C] (h : Amends C p p') (i : Nat) :
    (p'.at? i).isSome = (p.at? i).isSome := by
  rw [Bool.eq_iff_iff, Option.isSome_iff_exists, Option.isSome_iff_exists]
  constructor
  · rintro ⟨o', ho'⟩
    obtain ⟨o, ho, _⟩ := h.exists_before ho'
    exact ⟨o, ho⟩
  · rintro ⟨o, ho⟩
    obtain ⟨o', ho', _⟩ := h.exists_after ho
    exact ⟨o', ho'⟩

/-- A slot that holds no object is as it was. -/
theorem slot_eq (h : Amends C p p') (hidle : (p'.entry i).Idle) :
    (p'.entry i).slot = (p.entry i).slot := by
  rcases h.entry i with heq | ⟨_, o', _, _, hnew⟩
  · rw [heq]
  · exact absurd (congrArg Entry.slot hnew) (hidle o')

/-- No object comes. -/
theorem moves [IsPreorder α C] {P : α → Prop} (h : Amends C p p') : Moves C P p p' where
  kept i g o ho := by
    rcases h.entry i with heq | ⟨o₁, o', hc, hold, hnew⟩
    · exact ⟨o, refl_of C o, heq.trans ho⟩
    · obtain ⟨hgeneration, hslot⟩ := Entry.mk.inj (hold.symm.trans ho)
      obtain rfl := Slot.active.inj hslot
      exact ⟨o', hc, hgeneration ▸ hnew⟩
  added i g o' ho' := by
    left
    rcases h.entry i with heq | ⟨o, o₁, hc, hold, hnew⟩
    · exact ⟨o', refl_of C o', heq.symm.trans ho'⟩
    · obtain ⟨hgeneration, hslot⟩ := Entry.mk.inj (hnew.symm.trans ho')
      obtain rfl := Slot.active.inj hslot
      exact ⟨o, hc, hgeneration ▸ hold⟩
  based hp := by
    refine ⟨h.lowWater ▸ hp.mark, ?_⟩
    rcases h.entry 0 with heq | ⟨o, _, _, hold, _⟩
    · exact heq ▸ hp.unused
    · cases hp.unused.symm.trans (congrArg Entry.slot hold)

theorem regular [IsPreorder α C] (h : Amends C p p') (hp : p.Regular) : p'.Regular where
  pos := h.lowWater ▸ hp.pos
  bound := by
    rw [h.lowWater, h.capacity]
    exact hp.bound
  busy i hi hlt := by
    rw [isFree_eq_false_iff]
    intro hfree
    have hsame := h.slot_eq (.of_free hfree)
    exact isFree_eq_false_iff.1 (hp.busy i hi (h.lowWater ▸ hlt)) (hsame.symm.trans hfree)
  outside i hi := by
    have hfresh := hp.outside i (h.capacity ▸ hi)
    rcases h.entry i with heq | ⟨o, _, _, hold, _⟩
    · exact heq.trans hfresh
    · rw [hfresh] at hold
      cases congrArg Entry.slot hold
  counted := by
    rw [h.active, hp.counted]
    exact (objects_congr h.capacity h.isSome_at?).symm

end Amends

end Pool

/-! ### The kernel's roster -/

namespace Kernel

variable {k k' : Kernel} {id : ComponentId} {s s' : Space} {ε α : Type}

/-- The components of the kernel, each with its name and whether it is a virtual
machine. -/
def roster (k : Kernel) (id : ComponentId) : Option (String × Bool) :=
  (k.space? id).map fun s => (s.name, s.isVm)

/-- No component comes, and none changes its name or its kind. -/
structure SameRoster (k k' : Kernel) : Prop where
  selfId : k'.selfId = k.selfId
  layout : k'.layout = k.layout
  roster : k'.roster = k.roster

instance : IsPreorder Kernel SameRoster where
  refl _ := ⟨rfl, rfl, rfl⟩
  trans _ _ _ h h' :=
    ⟨h'.selfId.trans h.selfId, h'.layout.trans h.layout, h'.roster.trans h.roster⟩

theorem roster_withSpace (id d : ComponentId) (s : Space) :
    (k.withSpace id s).roster d = if id = d then some (s.name, s.isVm) else k.roster d := by
  unfold roster
  rw [space?_withSpace]
  split <;> rfl

/-- A component is replaced by one of its name and kind. -/
theorem SameRoster.of_space (hs : k.space? id = some s) (hname : s'.name = s.name)
    (hvm : s'.isVm = s.isVm) : k.SameRoster (k.withSpace id s') := by
  refine ⟨rfl, rfl, funext fun d => ?_⟩
  rw [roster_withSpace]
  split
  · next hd =>
    obtain rfl := hd
    unfold Kernel.roster
    rw [hs, hname, hvm]
    rfl
  · rfl

theorem SameRoster.of_advance (h : Advance .nameless k k') (hlayout : k'.layout = k.layout)
    (hnew : ∀ d, k.space? d = none → k'.space? d = none) : k.SameRoster k' := by
  refine ⟨h.selfId, hlayout, funext fun d => ?_⟩
  unfold Kernel.roster
  cases hs : k.space? d with
  | none => rw [hnew d hs]
  | some s =>
    obtain ⟨s', hs', hadv⟩ := h.spaces d s hs
    rw [hs']
    exact congrArg some (Prod.ext (hadv.shared not_false).1 hadv.isVm)

/-- A primitive on objects that brings no component. -/
theorem sameRoster_of_objects {p : Step Kernel ε α} (ha : Stays (Advance .nameless) p)
    (ho : Stays (ObjectMove fun _ => False) p) : Stays SameRoster p := by
  have hsame : ∀ k k', Advance .nameless k k' → ObjectMove (fun _ => False) k k' →
      k.SameRoster k' := by
    refine fun k k' hadv hmove => .of_advance hadv hmove.layout fun d hnone => ?_
    cases hs : k'.space? d with
    | none => rfl
    | some s => exact (hmove.fresh d s hnone hs).1.elim
  exact fun k => ((ha k).and (ho k)).mono (fun _ k' h => hsame k k' h.1 h.2)
    fun _ k' h => hsame k k' h.1 h.2

/-- A primitive on memory. -/
theorem sameRoster_of_memory {p : Step Kernel ε α} (ha : Stays (Advance .nameless) p)
    (hm : Stays MemoryMove p) : Stays SameRoster p := by
  have hsame : ∀ k k', Advance .nameless k k' → MemoryMove k k' → k.SameRoster k' :=
    fun k k' hadv hmove => .of_advance hadv hmove.layout hmove.absent
  exact fun k => ((ha k).and (hm k)).mono (fun _ k' h => hsame k k' h.1 h.2)
    fun _ k' h => hsame k k' h.1 h.2

theorem initUlk_sameRoster : Stays SameRoster initUlk :=
  sameRoster_of_objects initUlk_stays initUlk_moves

/-- The shared region does not matter. -/
theorem mapUlk_sameRoster (id : ComponentId) : Stays SameRoster (mapUlk id) := by
  refine .get_bind fun k => .ite (fun _ => .refuse_bind) fun _ => ?_
  refine knownSpace_bind fun s hs => .ite (fun _ => .refuse_bind) fun _ => ?_
  refine StaysFrom.bind (Step.leads_modify.2 (.of_space hs rfl rfl)) fun _ k' _ => ?_
  exact Step.leads_modify.2 ⟨rfl, rfl, rfl⟩

/-! ### New components -/

theorem Space.face_of_create? {layout : Layout} {name : String} {heap : Vaddr} {captbl : UInt64}
    (h : create? layout name heap captbl = some s) : s.name = name ∧ s.isVm = false := by
  obtain ⟨_, _, rfl⟩ := Option.map_eq_some_iff.1 h
  exact ⟨rfl, rfl⟩

/-- A component that is created without refusal has the name that was asked for, and
is no virtual machine unless it was one. -/
theorem createComponent_enters (name : String) (resources : Option Resources)
    (hvm : ∀ n, k.roster id ≠ some (n, true)) :
    (createComponent id name resources).Leads k
      (fun _ k' => k'.layout = k.layout ∧
        ∀ d, k'.roster d = if id = d then some (name, false) else k.roster d)
      (fun _ _ => True) := by
  apply Step.Leads.get_bind
  dsimp only
  split
  · next s hs =>
    refine Step.Leads.modify_bind (Step.leads_modify.2 ⟨rfl, fun d => ?_⟩)
    have hplain : s.isVm = false := by
      unfold roster at hvm
      rw [hs] at hvm
      exact Bool.eq_false_iff.2 fun h => hvm s.name (congrArg some (Prod.ext rfl h))
    exact (roster_withSpace id d _).trans (by rw [hplain])
  · exact Step.Leads.refuse_bind trivial
  · refine Step.Leads.exact_bind (fun s hs => ?_) fun _ => trivial
    obtain ⟨hname, hplain⟩ := Space.face_of_create? hs
    refine Step.Leads.modify_bind (Step.leads_modify.2 ⟨rfl, fun d => ?_⟩)
    exact (roster_withSpace id d s).trans (by rw [hname, hplain])

/-- Where capability tables end within the word, a virtual machine is refused only if
its id is taken. -/
theorem createVmComponent_enters (name : String)
    (hfits : k.layout.captblBase.toNat + k.layout.captblSize.toNat < UInt64.size) :
    (createVmComponent id name).Leads k
      (fun _ k' => k'.layout = k.layout ∧
        ∀ d, k'.roster d = if id = d then some (name, true) else k.roster d)
      (fun _ _ => k.roster id ≠ none) := by
  refine Step.Leads.get_bind (Step.Leads.ite (fun htaken => Step.Leads.refuse_bind ?_) fun _ => ?_)
  · obtain ⟨s, hs⟩ := Option.isSome_iff_exists.1 htaken
    unfold roster
    rw [hs]
    exact Option.some_ne_none _
  · refine Step.Leads.exact_bind (fun s hs => ?_) fun hnone => ?_
    · obtain ⟨hname, -⟩ := Space.face_of_create? hs
      refine Step.Leads.modify_bind (Step.leads_modify.2 ⟨rfl, fun d => ?_⟩)
      exact (roster_withSpace id d _).trans (by rw [hname])
    · unfold Space.create? at hnone
      rw [Option.map_eq_none_iff, word64?_eq_none_iff] at hnone
      exact absurd hfits (Nat.not_lt.2 hnone)

end Kernel

/-! ### The roster of the broker -/

variable {b b' : Broker} {ε α σ : Type}

/-- The components on record, each with its name and whether it is a virtual
machine. -/
def Broker.roster (b : Broker) (id : ComponentId) : Option (String × Bool) :=
  (b.component? id).map fun c => (c.name, c.manager?.isSome)

theorem ComponentRecord.manager?_eq_none {c : ComponentRecord}
    (h : ∀ manager, c.kind ≠ .virtualMachine manager) : c.manager? = none := by
  unfold manager?
  cases hkind : c.kind with
  | virtualMachine manager => exact absurd hkind (h manager)
  | _ => rfl

/-- No component comes, for the kernel or on record, and none changes its name or its
kind. -/
structure Broker.SameRoster (b b' : Broker) : Prop where
  kernel : b.kernel.SameRoster b'.kernel
  components : b.components.Amends (ComponentRecord.Follows True) b'.components

instance : IsPreorder Broker Broker.SameRoster where
  refl b := ⟨refl_of Kernel.SameRoster b.kernel, .refl _⟩
  trans _ _ _ h h' :=
    ⟨trans_of Kernel.SameRoster h.kernel h'.kernel, h.components.trans h'.components⟩

namespace Broker.SameRoster

/-- A record stays, with its name and its kind. -/
theorem component? (h : b.SameRoster b') {id : ComponentId} {c : ComponentRecord}
    (hc : b.component? id = some c) :
    ∃ endpoints, b'.component? id = some { c with schedRcvs := endpoints } := by
  obtain ⟨_, hc', ⟨endpoints, rfl⟩, _⟩ := h.components.exists_after hc
  exact ⟨endpoints, hc'⟩

theorem roster (h : b.SameRoster b') (id : ComponentId) : b'.roster id = b.roster id := by
  unfold Broker.roster
  cases hc : b.component? id with
  | none =>
    have hnone : b'.component? id = none := by
      rw [← Option.not_isSome_iff_eq_none]
      intro hsome
      obtain ⟨c, hc'⟩ := Option.isSome_iff_exists.1 hsome
      obtain ⟨_, hold, _⟩ := h.components.exists_before hc'
      cases hc.symm.trans hold
    rw [hnone]
  | some c =>
    obtain ⟨endpoints, hc'⟩ := h.component? hc
    rw [hc']
    rfl

/-- Neither the kernel's components nor the records of components are touched. -/
theorem of_others (hk : b'.kernel = b.kernel) (hc : b'.components = b.components) :
    b.SameRoster b' := ⟨hk ▸ refl_of Kernel.SameRoster _, hc ▸ .refl _⟩

end Broker.SameRoster

/-! ### Operations -/

theorem sameRoster_tacit : Tacit Broker.SameRoster := fun _ _ _ _ _ => .of_others rfl rfl

theorem kernelPart_sameRoster : kernelPart.Allows Broker.SameRoster Kernel.SameRoster :=
  fun _ _ h => ⟨h, .refl _⟩

theorem parts_sameRoster : Service.AdmitsParts Broker.SameRoster where
  toAdmitsNotes := sameRoster_tacit.notes
  pools _ _ _ _ := .of_others rfl rfl
  endpoints b holder core rcv := by
    refine ⟨refl_of Kernel.SameRoster _, .modify (fun c => ?_) holder⟩
    exact ⟨⟨_, rfl⟩, fun hno => absurd trivial hno⟩
  ask ha ho := kernelPart_sameRoster.run (Kernel.sameRoster_of_objects ha ho).explain

theorem memory_sameRoster : AdmitsMemory Kernel.SameRoster Broker.SameRoster where
  toAdmitsNotes := sameRoster_tacit.notes
  kernel := kernelPart_sameRoster
  reads := refl_of Kernel.SameRoster
  spans _ _ := .of_others rfl rfl
  region _ _ := .of_others rfl rfl
  carvings _ _ _ _ := .of_others rfl rfl
  pages _ _ _ := .of_others rfl rfl
  reserve count := Kernel.sameRoster_of_memory (Kernel.reserveFrames_stays count)
    (memory_admits.reserve count)
  frames first count align into ha := Kernel.sameRoster_of_memory
    (fun _ => (Kernel.aliasFrames_leads first count align trivial).mono (fun _ _ h => h.1)
      fun _ _ => id)
    (memory_admits.frames first count align into ha)
  device into paddr size := Kernel.sameRoster_of_memory (Kernel.mapDevice_stays paddr size trivial)
    (memory_admits.device into paddr size)

end CapabilityBroker
