/-
CapabilityBroker/Proofs/Memory/Service.lean

What requests come to in memory.

`Effect` says it for every request, whether it is answered, refused or aborts.
A request for memory puts a run of pages on record or draws frames at most; a
request for a span shares it; a request for device memory leaves the records
alone.  `Broker.RunStep` is what is left of it where the kind of the request does
not matter.  Every action is such a step, and so is what is done at the start, so
that an invariant of the steps is one of the runs.
-/
import CapabilityBroker.Proofs.Memory.Spans
import CapabilityBroker.Proofs.Move.Boot

namespace CapabilityBroker

open Kernel (DeviceIn RunAt)
open Step (Answers Stays StaysFrom)

variable {b b' : Broker} {id : Nat} {into : ComponentId} {align : UInt64} {count : Nat}
  {new : ComponentId → Nat → Paddr → Prop} {α : Type}

namespace Broker

/-! ### Mappings that are not on record -/

/-- The records of pages and spans stay as they are, and page tables gain at most
the entries in `new`. -/
structure Spares (new : ComponentId → Nat → Paddr → Prop) (b b' : Broker) : Prop where
  pages : b'.pages = b.pages
  spans : b'.spans = b.spans
  fills : b.Fills new b'

theorem Spares.refl (b : Broker) : b.Spares new b := ⟨rfl, rfl, .refl b⟩

theorem Spares.of_notes {trail : Trail Event} {journal : Trail JournalLine}
    (h : b.Spares new b') : b.Spares new { b' with trail, journal } :=
  ⟨h.pages, h.spans, h.fills.trans (.of_same rfl rfl)⟩

/-- A span that is not mapped leaves entries behind only where its mapping
aborts. -/
theorem Withholds.spares {why : Stop Failure} (h : b.Withholds id into align why b') :
    b.Spares (fun _ _ _ => why = .abort) b' := by
  cases h with
  | @strays span head hspan hhead hpages why b' hs =>
    refine ⟨hs.rest ▸ rfl, hs.rest ▸ rfl, hs.fills.spends, hs.fills.quiet, ?_⟩
    intro _ hq id n frame hframe
    cases why with
    | abort => exact .inr rfl
    | refused reason =>
      obtain ⟨rfl, _⟩ := hs.refused hq reason rfl
      exact .inl hframe
  | _ => exact .refl b

/-- The span with an id was mapped into a component, and noted; or no page was
noted, and where no mapping aborted nothing was mapped. -/
inductive SharesSpan (aborts : Prop) (id : Nat) (into : ComponentId) (b b' : Broker) : Prop
  | shares {span : Span} {head : Page} {align : UInt64} {vaddr : Vaddr}
      (hspan : b.spans.at? id = some span) (h : b.Shares span head into align vaddr b')
  | spares (h : b.Spares (fun _ _ _ => aborts) b')

theorem SharesSpan.mono {aborts aborts' : Prop} (h : b.SharesSpan aborts id into b')
    (hp : aborts → aborts') : b.SharesSpan aborts' id into b' := by
  cases h with
  | shares hspan h => exact .shares hspan h
  | spares h => exact .spares ⟨h.pages, h.spans, h.fills.mono fun _ _ _ _ _ => hp⟩

/-- What a step of a run does to memory: pages came on record or frames were
drawn, a span was shared, or the entries in `new` were mapped and not noted. -/
inductive MemoryStep (new : ComponentId → Nat → Paddr → Prop) (b b' : Broker) : Prop
  | expands (h : b.Expands b')
  | shares {id : Nat} {span : Span} {head : Page} {into : ComponentId} {align : UInt64}
      {vaddr : Vaddr} (hspan : b.spans.at? id = some span)
      (h : b.Shares span head into align vaddr b')
  | spares (h : b.Spares new b')

/-- A step of a run: what it does to memory, and what it keeps. -/
structure RunStep (new : ComponentId → Nat → Paddr → Prop) (b b' : Broker) : Prop where
  memory : b.MemoryStep new b'
  selfId : b'.kernel.selfId = b.kernel.selfId
  layout : b'.kernel.layout = b.kernel.layout
  capacity : b'.pages.capacity = b.pages.capacity
  homed : b.Homed → b'.Homed
  numbered : b.kernel.Numbered → b'.kernel.Numbered
  rooted : b.kernel.Rooted → b'.kernel.Rooted

theorem RunStep.of_objects {adds : ComponentId → Option Kernel.Resources → Prop}
    (h : b.ObjectMove adds b') : b.RunStep new b' :=
  ⟨.expands (.draws h.draws), h.kernel.selfId, h.kernel.layout, congrArg Pool.capacity h.pages,
    h.homed, h.kernel.numbered, h.kernel.rooted⟩

theorem RunStep.of_memory (hm : b.MemoryMove b') (h : b.MemoryStep new b') : b.RunStep new b' :=
  ⟨h, hm.kernel.selfId, hm.kernel.layout, hm.pageCount, hm.homed, hm.kernel.numbered,
    hm.kernel.rooted⟩

/-- No step plans a fault. -/
theorem MemoryStep.quiet (h : b.MemoryStep new b') (hq : b.Quiet) : b'.Quiet := by
  cases h with
  | expands hexpands =>
    cases hexpands with
    | draws hd => exact hd.fills.quiet hq
    | publishes r hp _ => exact hp.fills.quiet hq
    | registers r hp _ => exact hp.fills.quiet hq
  | shares _ hs => exact hs.fills.quiet hq
  | spares hs => exact hs.fills.quiet hq

/-! ### Notes -/

theorem Expands.of_notes {trail : Trail Event} {journal : Trail JournalLine}
    (h : b.Expands b') : b.Expands { b' with trail, journal } := by
  cases h with
  | draws h => exact .draws (h.trans .of_notes)
  | publishes r h hspans => exact .publishes r h.of_notes hspans
  | registers r h hspans => exact .registers r h.of_notes hspans

theorem SharesSpan.of_notes {aborts : Prop} {trail : Trail Event} {journal : Trail JournalLine}
    (h : b.SharesSpan aborts id into b') :
    b.SharesSpan aborts id into { b' with trail, journal } := by
  cases h with
  | shares hspan h => exact .shares hspan { h with fills := h.fills.trans (.of_same rfl rfl) }
  | spares h => exact .spares h.of_notes

end Broker

/-! ### The contiguous region -/

/-- The frames of the region are handed out, and mapped into the broker. -/
theorem contigBase_spares (selfId : ComponentId) (count : Nat) :
    (contigBase selfId count).Leads b
      (fun base b' => b' = { b with kernel := b'.kernel } ∧
        b.Spares (fun id _ _ => id = selfId) b' ∧
        b'.kernel.nextFrame = b.kernel.nextFrame + count ∧
        (b.Bounded → b.kernel.nextFrame + count ≤ b.kernel.layout.physFrames) ∧
        (count ≠ 0 → b.kernel.layout.IsFrame b.kernel.nextFrame base))
      (fun _ _ => True) := by
  refine Step.Leads.ite (fun h0 => ?_) fun hc => ?_
  · subst h0
    exact Step.leads_pure.2 ⟨rfl, .refl b, rfl, Broker.Bounded.frames, fun hne => absurd rfl hne⟩
  refine Step.leads_bind.2 (Part.run_leads (Step.leads_explain.2
    ((Kernel.reserveFrames_grows count).mono ?_ fun _ _ _ => trivial)))
  rintro base k ⟨hroom, hfirst, hgrows⟩
  have hclaims : b.Claims base count { b with kernel := k } :=
    Broker.claims_drawn hroom hfirst hgrows
  refine Step.leads_bind.2 ((mapVerified_maps (by decide)).mono ?_ fun _ _ _ => trivial)
  intro vaddr b₂ hmaps
  refine Step.leads_pure.2 ⟨hmaps.rest, ⟨hmaps.rest ▸ rfl, hmaps.rest ▸ rfl, ?_⟩,
    hmaps.frames.trans hgrows.frames, fun _ => hroom, fun _ =>
      Kernel.Layout.isFrame_of_addPages hfirst⟩
  exact hclaims.fills.of_none.trans (hmaps.fills.mono fun _ _ _ _ _ => And.left)

/-- What is set aside is spent or waits; only the first region counts. -/
theorem initContig_spares (selfId : ComponentId) (count : Nat) :
    (initContig selfId count).Leads b (fun _ => b.Spares fun id _ _ => id = selfId)
      (fun _ _ => True) := by
  refine Step.leads_bind.2 ((contigBase_spares selfId count).mono ?_ fun _ _ _ => trivial)
  rintro base b₁ ⟨hrest, hspares, hnext, hroom, hbase⟩
  refine Step.Leads.modify_bind (Step.leads_modify.2 (Broker.Spares.of_notes ?_))
  cases hregion : b₁.contig with
  | none =>
    refine ⟨hspares.pages, hspares.spans, fun hb => ?_, hspares.fills.quiet,
      hspares.fills.entries⟩
    have hspends := Broker.spends_region (hspares.fills.spends hb).layout hnext (hroom hb) hbase
    rw [hrest]
    exact hspends
  | some region => exact hspares

namespace Service

variable {i : Invocation}

/-! ### Operations -/

/-- The operation comes to something that may depend on whether it aborts. -/
def Comes (E : Prop → Broker → Prop) (s : Operation α) (b : Broker) : Prop :=
  s.Leads b (fun _ => E False) (fun why => E (why = .abort))

section Comes

variable {E : Prop → Broker → Prop} {s : Operation α}

theorem Comes.map {β : Type} {g : α → β} (h : Comes E s b) : Comes E (g <$> s) b :=
  Step.leads_map.2 h

theorem acting_comes {f : ComponentId → Operation α} (hE : ∀ p, E p b)
    (h : Comes E (f i.caller) b) : Comes E (acting i >>= f) b :=
  acting_leads_bind (fun _ => hE _) fun _ => h

theorem alignment_comes {align : Option UInt64} {f : UInt64 → Operation α} (hE : ∀ p, E p b)
    (h : ∀ align, pageSize ∣ align.toNat → Comes E (f align) b) :
    Comes E (alignment align >>= f) b :=
  alignment_leads_bind (fun _ => hE _) fun _ => h _

/-- What was done is done, even if its answer does not fit the reply. -/
theorem Comes.reply {β γ : Type} {fits : α → Option β} {g : α → β → γ}
    (hE : ∀ p b', E False b' → E p b') (h : Comes E s b) :
    Comes E (s >>= fun answer => Step.exact (fits answer) >>= fun n => pure (g answer n)) b := by
  refine Step.leads_bind.2 (h.mono ?_ fun _ _ => id)
  intro _ b' hb'
  exact Step.Leads.exact_bind (fun _ _ => Step.leads_pure.2 hb') fun _ => hE _ b' hb'

end Comes

theorem comes_of_draws {s : Operation α} (h : s.StaysFrom Broker.Draws b) :
    Comes (fun _ => b.Expands) s b :=
  h.mono (fun _ _ => .draws) fun _ _ => .draws

/-- Pages without a span. -/
theorem comes_of_publishes {β : Type} {carve : Operation (Handle Page × β)}
    (h : carve.Leads b
      (fun answer b' => ∃ r : PageRun, r.start = answer.1.index ∧ r.count = count ∧
        b.Publishes r b' ∧ b'.spans = b.spans)
      (fun _ => b.Draws)) : Comes (fun _ => b.Expands) carve b := by
  refine h.mono ?_ fun _ _ => .draws
  rintro answer b' ⟨r, _, _, hpublishes, hspans⟩
  refine .publishes r hpublishes ?_
  rw [hspans]
  exact .refl _

theorem mapSpan_comes (ha : pageSize ∣ align.toNat) :
    Comes (fun aborts => b.SharesSpan aborts id into) (mapSpan id into align) b := by
  refine (mapSpan_shares ha).mono ?_ fun why b' hwithholds => .spares hwithholds.spares
  exact fun answer b' ⟨span, head, hspan, _, hshares⟩ => .shares hspan hshares

theorem mapPhysical_spares {paddr : Paddr} {size : UInt64} :
    (mapPhysical into paddr size).StaysFrom (Broker.Spares (DeviceIn into paddr size)) b := by
  have hgrown : ∀ k, b.kernel.Grows 0 (DeviceIn into paddr size) k →
      b.Spares (DeviceIn into paddr size) { b with kernel := k } := fun k hgrows =>
    ⟨rfl, rfl, .of_grows (hgrows.mono fun _ _ _ _ => trivial) fun _ => hgrows⟩
  refine Step.Leads.ite (fun _ => Step.Leads.refuse_bind (.refl b)) fun _ => ?_
  refine Part.run_leads (Step.leads_explain.2 (Kernel.mapDevice_grows.mono ?_ ?_))
  · exact fun _ k hk => hgrown k hk.2
  · exact fun _ k hk => hgrown k hk.2

/-! ### Requests -/

/-- What a request comes to. -/
def Effect (i : Invocation) (aborts : Prop) : Request → Broker → Broker → Prop
  | .mapPhysicalRegion paddr size, b, b' => b.Spares (DeviceIn i.caller paddr size) b'
  | .mapSharedSpan span _, b, b' => b.SharesSpan aborts span.toNat i.caller b'
  | .mapSharedSpanInVm vm span _, b, b' => b.SharesSpan aborts span.toNat vm b'
  | _, b, b' => b.Expands b'

variable {aborts : Prop}

theorem Effect.mono {request : Request} {aborts' : Prop} (h : Effect i aborts request b b')
    (hp : aborts → aborts') : Effect i aborts' request b b' := by
  cases request with
  | mapSharedSpan span align => exact Broker.SharesSpan.mono h hp
  | mapSharedSpanInVm vm span align => exact Broker.SharesSpan.mono h hp
  | _ => exact h

theorem Effect.of_notes {request : Request} {trail : Trail Event} {journal : Trail JournalLine}
    (h : Effect i aborts request b b') : Effect i aborts request b { b' with trail, journal } := by
  cases request with
  | mapPhysicalRegion paddr size => exact Broker.Spares.of_notes h
  | mapSharedSpan span align => exact Broker.SharesSpan.of_notes h
  | mapSharedSpanInVm vm span align => exact Broker.SharesSpan.of_notes h
  | _ => exact Broker.Expands.of_notes h

theorem comes_of_objects {s : Operation α} (h : Stays (Broker.ObjectMove machinesOnly) s) :
    Comes (fun _ => b.Expands) s b :=
  comes_of_draws ((h b).mono (fun _ _ hmove => hmove.draws) fun _ _ hmove => hmove.draws)

theorem mapSharedSpanInVm_comes (vm : ComponentId) (align : Option UInt64) :
    Comes (fun aborts => b.SharesSpan aborts id vm) (mapSharedSpanInVm i vm id align) b := by
  have hnone : ∀ p : Prop, b.SharesSpan p id vm b := fun _ => .spares (.refl b)
  refine managing_leads (fun _ => hnone _) (fun _ _ _ _ _ => (hnone _).of_notes) fun _ _ _ => ?_
  exact alignment_comes hnone fun align ha => mapSpan_comes ha

/-- Every operation behind a request comes to what is said of the request. -/
theorem perform_comes (image : Image) (i : Invocation) (request : Request) :
    Comes (fun aborts => Effect i aborts request b) (perform image i request) b := by
  have hnone : ∀ p : Prop, (fun _ : Prop => b.Expands) p b := fun _ => .draws (.refl b)
  cases request with
  | translate vaddr =>
    exact .map (.map (acting_comes hnone (comes_of_draws (translate_stays _ _ b))))
  | allocateHeapPages count align =>
    refine .map (.map (acting_comes hnone (alignment_comes hnone fun align ha => ?_)))
    exact Comes.map (comes_of_publishes (allocatePages_expands _ ha))
  | mapPhysicalRegion paddr size =>
    exact .map (.map (acting_comes (fun _ => Broker.Spares.refl b) mapPhysical_spares))
  | allocateSharedPages count align =>
    refine .map (Comes.reply (fun _ _ => id) (acting_comes hnone (alignment_comes hnone ?_)))
    exact fun align ha => allocateShared_expands _ ha
  | mapSharedSpan span align =>
    refine .map (Comes.reply (fun _ _ h => h.mono False.elim) (acting_comes ?_ ?_))
    · exact fun _ => .spares (.refl b)
    · exact alignment_comes (fun _ => .spares (.refl b)) fun align ha => mapSpan_comes ha
  | mapSharedSpanInVm vm span align =>
    exact .map (Comes.reply (fun _ _ h => h.mono False.elim) (mapSharedSpanInVm_comes _ _))
  | allocateContiguousPages count =>
    refine .map (.map (acting_comes hnone (Comes.map ?_)))
    exact comes_of_publishes (carveContig_publishes (by decide))
  | allocateContiguousShared count align =>
    refine .map (Comes.reply (fun _ _ => id) (acting_comes hnone (alignment_comes hnone ?_)))
    exact fun align ha => allocateContiguousShared_expands _ ha
  | _ => exact comes_of_objects (perform_objects image i rfl)

/-- So does its dispatch, which aborts where the operation does. -/
theorem dispatch_comes (image : Image) (i : Invocation) (request : Request) :
    (dispatch image i request).Leads b (fun _ => Effect i False request b)
      (fun why => Effect i (why = .abort) request b) := by
  refine Step.leads_bind.2 (Step.leads_attempt.2 ((perform_comes image i request).mono ?_ ?_))
  · intro progress b' heffect
    exact Step.leads_pure.2 heffect
  · intro why b' heffect
    constructor
    · rintro failure rfl
      have heffect' : Effect i False request b b' := heffect.mono nofun
      dsimp only
      split
      · exact Step.leads_refuse.2 (heffect'.mono False.elim)
      · exact Step.Leads.modify_bind (Step.leads_pure.2 heffect'.of_notes)
    · rintro rfl
      exact heffect.mono fun _ => rfl

/-- An operation that is answered is answered in its dispatch. -/
theorem dispatch_of_answered {image : Image} {request : Request} {progress : Progress Reply}
    (h : perform image i request b = .ok progress b') :
    dispatch image i request b = .ok progress b' := by
  refine Step.bind_eq_ok_iff.2 ⟨.ok progress, b', ?_, rfl⟩
  unfold Step.attempt
  rw [h]

/-! ### Runs -/

/-- The entries that a request may leave in page tables without noting them. -/
def strays (i : Invocation) (aborts : Prop) : Request → ComponentId → Nat → Paddr → Prop
  | .mapPhysicalRegion paddr size => DeviceIn i.caller paddr size
  | .mapSharedSpan .. | .mapSharedSpanInVm .. => fun _ _ _ => aborts
  | _ => fun _ _ _ => False

theorem step_of_sharesSpan (h : b.SharesSpan aborts id into b') :
    b.MemoryStep (fun _ _ _ => aborts) b' := by
  cases h with
  | shares hspan h => exact .shares hspan h
  | spares h => exact .spares h

theorem Effect.step {request : Request} (h : Effect i aborts request b b') :
    b.MemoryStep (strays i aborts request) b' := by
  cases request with
  | mapPhysicalRegion paddr size => exact .spares h
  | mapSharedSpan span align => exact step_of_sharesSpan h
  | mapSharedSpanInVm vm span align => exact step_of_sharesSpan h
  | _ => exact .expands h

/-- Whether a request aborts in its dispatch. -/
def Aborts (image : Image) (b : Broker) (i : Invocation) (request : Request) : Prop :=
  ∃ b', dispatch image i request b = .error .abort b'

theorem dispatch_effect (image : Image) (b : Broker) (i : Invocation) (request : Request) :
    Effect i (Aborts image b i request) request b ((dispatch image i request).final b) := by
  rcases (dispatch_comes image i request).ends with ⟨_, _, heffect⟩ | ⟨why, hend, heffect⟩
  · exact heffect.mono False.elim
  · refine heffect.mono ?_
    rintro rfl
    exact ⟨_, hend⟩

/-- The entries that an action may leave in page tables without noting them. -/
def Action.strays (image : Image) (b : Broker) : Action → ComponentId → Nat → Paddr → Prop
  | .request i r => Service.strays i (Aborts image b i r) r
  | _ => fun _ _ _ => False

theorem Action.step (image : Image) (action : Action) (b : Broker) :
    b.RunStep (action.strays image b) (action.after image b) := by
  cases action with
  | request i r =>
    have hstep := (dispatch_effect image b i r).step
    rcases dispatch_moves image i r b with hobjects | hmemory
    · exact ⟨hstep, hobjects.kernel.selfId, hobjects.kernel.layout,
        congrArg Pool.capacity hobjects.pages,
        hobjects.homed, hobjects.kernel.numbered, hobjects.kernel.rooted⟩
    · exact .of_memory hmemory hstep
  | parallelInit core isInitCore =>
    have hinit : Stays (Broker.ObjectMove machinesOnly)
        (Service.parallelInit image core isInitCore) := parallelInit_objects image core isInitCore
    exact .of_objects (hinit b).final
  | parallelMain core =>
    have hmain : Stays (Broker.ObjectMove machinesOnly) (Service.parallelMain image core) :=
      parallelMain_objects image core
    exact .of_objects (hmain b).final

/-- A shared region is set aside as a span, or the start fails. -/
theorem setAside_step (region : SharedRegion) :
    (setAside region).Leads b (fun _ => b.RunStep new) (fun _ _ => True) := by
  have hmemory : Stays Broker.MemoryMove (setAside region) := setAside_memory memory_admits region
  have hexpands : (setAside region).Leads b (fun _ => b.Expands) (fun _ _ => True) := by
    refine Step.leads_bind.2 (Step.leads_explain.2 ((allocateSharedAt_expands (by decide)).mono ?_
      fun _ _ _ => trivial))
    exact fun _ b' hexpands => Step.leads_modify.2 hexpands.of_notes
  exact ((hmemory b).and hexpands).mono (fun _ _ h => .of_memory h.1 (.expands h.2))
    fun _ _ _ => trivial

theorem initContig_step (selfId : ComponentId) (count : Nat) :
    (initContig selfId count).Leads b (fun _ => b.RunStep fun id _ _ => id = selfId)
      (fun _ _ => True) :=
  ((memory_admits.initContig selfId count b).and (initContig_spares selfId count)).mono
    (fun _ _ h => .of_memory h.1 (.spares h.2)) fun _ _ _ => trivial

/-- What holds when the pools are made, and is kept by steps that leave only
entries of the broker's own without note, holds when the start has succeeded. -/
theorem boot_upholds {I : Broker → Prop} {settings : Settings} {manifest : Manifest}
    (hmade : ∀ made, Made settings b made → I made)
    (hstep : ∀ b b', b.RunStep (fun id _ _ => id = settings.selfId) b' → I b → I b') :
    (boot settings manifest).Leads b (fun _ => I) (fun _ _ => True) := by
  have hkeeps : IsPreorder Broker (fun b b' => I b → I b') :=
    { refl := fun _ => id, trans := fun _ _ _ h h' => h' ∘ h }
  have hobjects : ∀ b b' : Broker, b.ObjectMove (Replays manifest) b' → I b → I b' :=
    fun b b' hmove => hstep b b' (.of_objects hmove)
  have hspans : ∀ region, Answers (fun b b' => I b → I b') (setAside region) := fun region b =>
    (setAside_step region).mono (fun _ b' => hstep b b') fun _ _ _ => trivial
  have hcontig : Answers (fun b b' => I b → I b')
      (initContig settings.selfId settings.contigPages.toNat) := fun b =>
    (initContig_step _ _).mono (fun _ b' => hstep b b') fun _ _ _ => trivial
  have hboot := boot_moves (b := b) settings manifest hobjects hspans hcontig
  refine hboot.mono ?_ fun _ _ _ => trivial
  rintro image b' ⟨_, made, h, hupholds⟩
  exact hupholds (hmade made h)

variable {s : Setting} {image : Image}

/-- What holds when the pools are made, and is kept by every step, holds in every
state of a run. -/
theorem Reached.upholds {I : Broker → Prop}
    (hmade : ∀ kernel made, Kernel.create? s.selfId s.layout s.faults = some kernel →
      Made s.settings (.create kernel) made → I made)
    (hstep : ∀ new b b', b.RunStep new b' → I b → I b') (h : Reached s image b) : I b := by
  induction h with
  | @boot kernel b created booted =>
    have hboot : (Service.boot s.settings s.manifest).Leads (.create kernel) (fun _ => I)
        (fun _ _ => True) := boot_upholds (fun made => hmade kernel made created) (hstep _)
    exact hboot.of_ok booted
  | @act b action _ ih => exact hstep _ b _ (action.step image b) ih

/-- The machine is the one that the run was started on. -/
theorem Reached.layout (h : Reached s image b) : b.kernel.layout = s.layout := by
  refine h.upholds ?_ fun new b b' hstep hlayout => hstep.layout.trans hlayout
  intro kernel made created hmade
  obtain ⟨space, _, rfl⟩ := Option.map_eq_some_iff.1 created
  rw [hmade.kernel]
  rfl

/-- The broker is the component that the machine knows it as. -/
theorem Reached.selfId (h : Reached s image b) : b.kernel.selfId = s.selfId := by
  refine h.upholds ?_ fun new b b' hstep hself => hstep.selfId.trans hself
  intro kernel made created hmade
  obtain ⟨space, _, rfl⟩ := Option.map_eq_some_iff.1 created
  rw [hmade.kernel]
  rfl

theorem Reached.numbered (h : Reached s image b) : b.kernel.Numbered := by
  refine h.upholds (fun kernel made created hmade => ?_) fun new b b' hstep => hstep.numbered
  rw [hmade.kernel]
  exact Kernel.numbered_of_create? created

/-- Where tables begin behind the null slot, the null slot is never in use. -/
theorem Reached.rooted (h : Reached s image b) : b.kernel.Rooted := by
  refine h.upholds (fun kernel made created hmade => ?_) fun new b b' hstep => hstep.rooted
  rw [hmade.kernel]
  exact Kernel.rooted_of_create? created

end Service

end CapabilityBroker
