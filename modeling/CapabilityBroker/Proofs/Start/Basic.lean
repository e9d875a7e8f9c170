/-
CapabilityBroker/Proofs/Start/Basic.lean

What leaves the initialization alone.

Only signals, and the cores' calls to begin, touch barriers, drive the scheduler or
write a transition on the trail.  Everything else leaves the three as they were
(`Broker.SameStart`), and so does the start of the broker up to its end, where the
barriers are set up.
-/
import CapabilityBroker.Proofs.Roster.Service

namespace CapabilityBroker

open Step (Answers Stays)

variable {b b' : Broker}

/-- The transitions on the trail, in order. -/
def Broker.transitions (b : Broker) : List (ComponentId × Phase) :=
  b.trail.toList.filterMap Event.transition?

/-- Neither barriers nor the scheduler nor the transitions on the trail change. -/
structure Broker.SameStart (b b' : Broker) : Prop where
  barriers : b'.barriers = b.barriers
  scheduler : b'.scheduler = b.scheduler
  transitions : b'.transitions = b.transitions

instance : IsPreorder Broker Broker.SameStart where
  refl _ := ⟨rfl, rfl, rfl⟩
  trans _ _ _ h h' := ⟨h'.barriers.trans h.barriers, h'.scheduler.trans h.scheduler,
    h'.transitions.trans h.transitions⟩

theorem Event.transition?_eq_none {event : Event} (h : event.isRoutine = true) :
    event.transition? = none := by
  cases event <;> first | rfl | cases h

/-- Any other event leaves the transitions as they are. -/
theorem Broker.transitions_record (b : Broker) {event : Event} (h : event.transition? = none) :
    Broker.transitions { b with trail := b.trail.record event } = b.transitions := by
  unfold Broker.transitions
  rw [Trail.toList_record, List.filterMap_append, List.filterMap_cons_none h,
    List.filterMap_nil, List.append_nil]

theorem sameStart_notes : AdmitsNotes Broker.SameStart where
  lines _ _ := ⟨rfl, rfl, rfl⟩
  events b _ he := ⟨rfl, rfl, b.transitions_record (Event.transition?_eq_none he)⟩

theorem kernelPart_sameStart : kernelPart.Allows Broker.SameStart fun _ _ => True :=
  fun _ _ _ => ⟨rfl, rfl, rfl⟩

theorem componentPool_sameStart {S : Pool ComponentRecord → Pool ComponentRecord → Prop} :
    componentPool.Allows Broker.SameStart S := fun _ _ _ => ⟨rfl, rfl, rfl⟩

/-- The kernel may do anything. -/
theorem runKernel_sameStart {ε α : Type} (s : Step Kernel ε α) :
    Stays Broker.SameStart (kernelPart.run s) := kernelPart_sameStart.runAny s

theorem parts_sameStart : Service.AdmitsParts Broker.SameStart where
  toAdmitsNotes := sameStart_notes
  pools _ _ _ _ := ⟨rfl, rfl, rfl⟩
  endpoints _ _ _ _ := ⟨rfl, rfl, rfl⟩
  ask _ _ := runKernel_sameStart _

theorem memory_sameStart : AdmitsMemory (fun _ _ => True) Broker.SameStart where
  toAdmitsNotes := sameStart_notes
  kernel := kernelPart_sameStart
  reads _ := trivial
  spans _ _ := ⟨rfl, rfl, rfl⟩
  region _ _ := ⟨rfl, rfl, rfl⟩
  carvings b _ _ _ := ⟨rfl, rfl, b.transitions_record rfl⟩
  pages _ _ _ := ⟨rfl, rfl, rfl⟩
  reserve _ := .always
  frames _ _ _ _ _ := .always
  device _ _ _ := .always

/-! ### Components -/

theorem registerComponent_sameStart (id : ComponentId) (name : String) (kind : ComponentKind)
    (resources : Option Kernel.Resources) (create : Step Kernel Kernel.Refusal Unit) :
    Stays Broker.SameStart (registerComponent id name kind resources create) :=
  registerComponent_walks (C := Eq) componentPool_sameStart sameStart_notes _ _ _ _
    (runKernel_sameStart _)

theorem createVm_sameStart (manager : ComponentId) : Stays Broker.SameStart (createVm manager) :=
  createVm_walks (C := Eq) componentPool_sameStart sameStart_notes _ fun _ => runKernel_sameStart _

namespace Service

variable {image : Image} {s : Setting}

/-- Whatever is no signal leaves the initialization alone. -/
theorem Action.sameStart (image : Image) {action : Action} (hsignal : action.isSignal = false)
    (b : Broker) : b.SameStart (action.after image b) := by
  by_cases hvm : ∃ i, action = .request i .createVmComponent
  · obtain ⟨i, rfl⟩ := hvm
    have hperform : Stays Broker.SameStart (perform image i .createVmComponent) :=
      Stays.map (Stays.map fun b => acting_bind (createVm_sameStart _ b))
    exact (dispatch_stays (fun _ _ => sameStart_notes.log _ _) hperform b).final
  · exact action.stays_of_threads parts_sameStart.admitsThreads memory_sameStart image
      (fun i heq => hvm ⟨i, heq⟩) hsignal b

/-! ### The start -/

theorem sameStart_admitsStart (manifest : Manifest) :
    AdmitsStart Broker.SameStart manifest where
  log level message := (sameStart_notes.log level message).answers
  adopt _ _ _ _ _ := (adopt_walks sameStart_notes.log fun _ _ _ =>
    registerComponent_sameStart _ _ _ _ _).answers
  initUlk := (runKernel_sameStart _).answers
  shareUlk _ := (shareUlk_walks (runKernel_sameStart _)).answers
  setAside region := (setAside_memory memory_sameStart region).answers

/-- When the broker has started, the scheduler was asked for nothing, and no
initialization was begun. -/
theorem boot_idle {kernel : Kernel} (settings : Settings) (manifest : Manifest) :
    (boot settings manifest).Leads (.create kernel)
      (fun _ b => b.scheduler = .empty ∧ b.transitions = []) (fun _ _ => True) := by
  have hmake : ∀ journal, (makePools settings : Step Broker Defect Unit).Leads
      { Broker.create kernel with journal }
      (fun _ made => made.scheduler = .empty ∧ made.transitions = []) (fun _ _ => True) := by
    intro journal
    refine (makePools_leads settings).mono ?_ fun _ _ _ => trivial
    rintro _ _ ⟨_, _, _, _, _, _, rfl, -⟩
    exact ⟨rfl, rfl⟩
  have hself : Stays Broker.SameStart (registerComponent settings.selfId brokerName .broker none
      (Kernel.createComponent settings.selfId brokerName none)) :=
    registerComponent_sameStart _ _ _ _ _
  -- The barriers are set up at the end, so from here on only the two others are kept.
  have hcontig : ∀ made b : Broker, made.SameStart b →
      (initContig settings.selfId settings.contigPages.toNat).Leads b
        (fun _ b' => b'.scheduler = made.scheduler ∧ b'.transitions = made.transitions)
        (fun _ _ => True) := by
    intro made b h
    refine ((memory_sameStart.initContig _ _).answers b).mono ?_ fun _ _ _ => trivial
    intro _ _ h'
    have hall := trans_of Broker.SameStart h h'
    exact ⟨hall.scheduler, hall.transitions⟩
  have hboot := boot_walks hmake hself.answers (sameStart_admitsStart manifest) hcontig
    fun _ _ _ h => h
  refine hboot.mono ?_ fun _ _ _ => trivial
  rintro image b ⟨_, made, ⟨hscheduler, htransitions⟩, h⟩
  exact ⟨h.1.trans hscheduler, h.2.trans htransitions⟩

/-- There is a fresh barrier for every component that the manifest plans, and no
other. -/
theorem boot_barriers (settings : Settings) (manifest : Manifest) :
    (boot settings manifest).Leads b
      (fun image b' => manifest.plan = .ok image.plan ∧
        b'.barriers = .over (image.plan.map Prod.fst) settings.numCores.toNat)
      (fun _ _ => True) := by
  apply Step.Leads.modify_bind
  refine Step.Leads.ite (fun _ => .refuse_bind trivial) fun _ => ?_
  refine Step.leads_bind.2 (Step.leads_explain.2 (Step.leads_ofExcept.2 ⟨fun plan hplan => ?_,
    fun _ _ => trivial⟩))
  refine .forget_bind fun groups _ => .forget_bind fun _ _ => .forget_bind fun _ _ => ?_
  refine .forget_bind fun _ _ => .forget_bind fun _ _ => .forget_bind fun _ _ => ?_
  refine .forget_bind fun _ _ => .forget_bind fun _ _ => .forget_bind fun _ _ => ?_
  exact Step.Leads.modify_bind (Step.leads_pure.2 ⟨hplan, rfl⟩)

end Service

end CapabilityBroker
