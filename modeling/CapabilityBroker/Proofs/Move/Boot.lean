/-
CapabilityBroker/Proofs/Move/Boot.lean

The start of the system, step by step.

The pools are made, and from there on the start is a sequence of operations on
objects and memory: components are adopted, the shared spans and the contiguous
region are set aside.  `boot_moves` runs any preorder along it that has the moves
on objects.  Only a start that succeeds counts, so it is enough to know what a
step leaves when it answers.
-/
import CapabilityBroker.Proofs.Move.Service

namespace CapabilityBroker

open Step (Answers Stays)

variable {b b' : Broker}

namespace Service

/-- The state after the pools were made: nothing is on record, and every pool
can number its slots. -/
structure Made (settings : Settings) (b made : Broker) : Prop where
  kernel : made.kernel = b.kernel
  contig : made.contig = b.contig
  components : ∀ i, (made.components.entry i).Idle
  threads : ∀ i, (made.threads.entry i).Idle
  rcvs : ∀ i, (made.rcvs.entry i).Idle
  asnds : ∀ i, (made.asnds.entry i).Idle
  pages : ∀ i, (made.pages.entry i).Idle
  spans : ∀ i, (made.spans.entry i).Idle
  pageCount : made.pages.capacity = settings.maxPages.toNat
  pagesFit : settings.maxPages.toNat < Pool.capacityLimit

theorem makePools_made {ε : Type} (settings : Settings) :
    (makePools settings : Step Broker ε Unit).Leads b (fun _ made => Made settings b made)
      (fun _ _ => True) := by
  refine (makePools_leads settings).mono ?_ fun _ _ _ => trivial
  rintro _ _ ⟨components, threads, rcvs, asnds, pages, spans, rfl, h₁, h₂, h₃, h₄, h₅, h₆⟩
  obtain ⟨hfits, hpages⟩ := Pool.create?_eq_some_iff.1 h₅
  exact ⟨rfl, rfl, Pool.idle_of_create? h₁, Pool.idle_of_create? h₂, Pool.idle_of_create? h₃,
    Pool.idle_of_create? h₄, Pool.idle_of_create? h₅, Pool.idle_of_create? h₆, hpages ▸ rfl, hfits⟩

/-- What a manifest says of the resources of the components it adopts; the
broker itself has none on record. -/
def Replays (m : Manifest) (id : ComponentId) (resources : Option Kernel.Resources) : Prop :=
  resources = none ∨ ∃ groups caps, m.componentCaps = .ok groups ∧ caps ∈ groups ∧
    caps.component = id ∧ resources = some (resourcesOf caps (m.frontiersOf id))

variable {m : Manifest}

theorem adopt_objects {groups : List ComponentCaps} (hgroups : m.componentCaps = .ok groups)
    (schedulers : Schedulers) {caps : ComponentCaps} (hcaps : caps ∈ groups) :
    Stays (Broker.ObjectMove (Replays m)) (adopt m schedulers caps) := by
  refine adopt_walks objects_tacit.log fun name resources heq => ?_
  have hadds : Replays m caps.component resources :=
    .inr ⟨groups, caps, hgroups, hcaps, rfl, heq⟩
  exact registerComponent_objects name .booted hadds fun k =>
    Kernel.createComponent_moves ⟨_, hadds⟩ name _

theorem shareUlk_objects {adds : ComponentId → Option Kernel.Resources → Prop}
    (id : ComponentId) : Stays (Broker.ObjectMove adds) (shareUlk id) :=
  shareUlk_walks (kernelPart_objects.run (Kernel.mapUlk_moves id).attempt)

section Memory

variable {K : Kernel → Kernel → Prop} {R : Broker → Broker → Prop} [IsPreorder Broker R]

/-- The pages of a region that is set aside are mapped nowhere. -/
theorem setAside_records (h : AdmitsRecords R) (hreserve : ∀ count, Stays R (reserveFrames count))
    (region : SharedRegion) : Stays R (setAside region) :=
  (h.allocateSharedAt _ _ (hreserve _)).explain.bind fun _ => h.log _ _

theorem setAside_memory (h : AdmitsMemory K R) (region : SharedRegion) :
    Stays R (setAside region) := setAside_records h.toAdmitsRecords h.reserveFrames region

end Memory

/-- A preorder that has the moves on objects, and in which spans and the region
can be set aside, has the whole start. -/
theorem admitsBoot_of_moves {R : Broker → Broker → Prop} (settings : Settings)
    (manifest : Manifest) (hobjects : ∀ b b', b.ObjectMove (Replays manifest) b' → R b b')
    (hspans : ∀ region, Answers R (setAside region))
    (hcontig : Answers R (initContig settings.selfId settings.contigPages.toNat)) :
    AdmitsBoot R settings manifest := by
  have hself : Replays manifest settings.selfId none := .inl rfl
  have hregister := registerComponent_objects brokerName .broker hself fun k =>
    Kernel.createComponent_moves ⟨none, hself⟩ brokerName none
  exact
    { log := fun level message => (objects_tacit.log level message).answers_mono hobjects
      adopt := fun _ hgroups schedulers _ hcaps =>
        (adopt_objects hgroups schedulers hcaps).answers_mono hobjects
      initUlk := (kernelPart_objects.run Kernel.initUlk_moves.explain).answers_mono hobjects
      shareUlk := fun id => (shareUlk_objects id).answers_mono hobjects
      setAside := hspans
      self := hregister.answers_mono hobjects
      initContig := hcontig
      barriers := fun b barriers => hobjects b _ .of_notes }

/-- So it has the start from pools of which no more is known than that nothing is on
record. -/
theorem boot_moves {R : Broker → Broker → Prop} [IsPreorder Broker R] (settings : Settings)
    (manifest : Manifest) (hobjects : ∀ b b', b.ObjectMove (Replays manifest) b' → R b b')
    (hspans : ∀ region, Answers R (setAside region))
    (hcontig : Answers R (initContig settings.selfId settings.contigPages.toNat)) :
    (boot settings manifest).Leads b
      (fun image b' => Describes settings manifest image ∧
        ∃ made, Made settings b made ∧ R made b')
      (fun _ _ => True) := by
  have hmake : ∀ journal, (makePools settings : Step Broker Defect Unit).Leads { b with journal }
      (fun _ made => Made settings b made) (fun _ _ => True) := fun journal => by
    refine (makePools_made settings).mono (fun _ made hmade => ?_) fun _ _ _ => trivial
    exact ⟨hmade.kernel, hmade.contig, hmade.components, hmade.threads, hmade.rcvs, hmade.asnds,
      hmade.pages, hmade.spans, hmade.pageCount, hmade.pagesFit⟩
  exact boot_keeps hmake (admitsBoot_of_moves settings manifest hobjects hspans hcontig)

/-! ### The number of pages -/

/-- The pool of pages is as large as it was made. -/
def AsManyPages (b b' : Broker) : Prop := b.pages.AsLarge b'.pages

instance : IsPreorder Broker AsManyPages where
  refl _ := rfl
  trans _ _ _ h h' := h'.trans h

theorem AsManyPages.of_move (h : b.Move b') : AsManyPages b b' := by
  rcases h with hobjects | hmemory
  · exact congrArg Pool.capacity hobjects.pages
  · exact hmemory.pageCount

/-- In every state of a run there are as many pages as the settings ask for, and
the pool of pages can number them. -/
theorem Reached.pageCount {s : Setting} {image : Image} (h : Reached s image b) :
    b.pages.capacity = s.settings.maxPages.toNat ∧
      s.settings.maxPages.toNat < Pool.capacityLimit := by
  induction h with
  | @boot kernel b created booted =>
    have hobjects : ∀ b b' : Broker, b.ObjectMove (Replays s.manifest) b' → AsManyPages b b' :=
      fun _ _ hmove => congrArg Pool.capacity hmove.pages
    have hspans : ∀ region, Answers AsManyPages (setAside region) := fun region =>
      (setAside_memory memory_admits region).answers_mono fun _ _ => Broker.MemoryMove.pageCount
    have hcontig : Answers AsManyPages
        (initContig s.settings.selfId s.settings.contigPages.toNat) :=
      (memory_admits.initContig _ _).answers_mono fun _ _ => Broker.MemoryMove.pageCount
    have hboot := boot_moves (b := .create kernel) s.settings s.manifest hobjects hspans hcontig
    obtain ⟨_, made, hmade, hcapacity⟩ := hboot.of_ok booted
    exact ⟨Eq.trans hcapacity hmade.pageCount, hmade.pagesFit⟩
  | @act b action _ ih => exact ⟨Eq.trans (AsManyPages.of_move (action.moves image b)) ih.1, ih.2⟩

end Service

end CapabilityBroker
