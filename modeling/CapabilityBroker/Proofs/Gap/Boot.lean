/-
CapabilityBroker/Proofs/Gap/Boot.lean

The contiguous region at the start, and what becomes of a gap in it.

The region is the only thing that is mapped while the broker starts, and it comes last.
Whatever is done before that (`setUp`) leaves no gap and speaks of none, even where it
stops (`Uneventful`), and it leaves the broker a component of its own to map into
(`setUp_leads`).  So the start has the rule of an operation that maps, counted from the
state before the region (`boot_checked`).
-/
import CapabilityBroker.Proofs.Gap.Memory
import CapabilityBroker.Proofs.Move.Boot

namespace CapabilityBroker

open Step (Stays Certain)

variable {α β : Type} {b b' : Broker} {component : ComponentId}

/-! ### Steps that leave no gap -/

/-- No gap was left, and every component is still there. -/
structure Kernel.Intact (k k' : Kernel) : Prop where
  gaps : k.Gapless k'
  spaces : ∀ id s, k.space? id = some s → ∃ s', k'.space? id = some s'

instance : IsPreorder Kernel Kernel.Intact where
  refl k := ⟨rfl, fun _ s hs => ⟨s, hs⟩⟩
  trans _ _ _ h h' := by
    refine ⟨trans_of Kernel.Gapless h.gaps h'.gaps, fun id s hs => ?_⟩
    obtain ⟨s', hs'⟩ := h.spaces id s hs
    exact h'.spaces id s' hs'

/-- The kernel is intact, and no region came. -/
structure Broker.Intact (b b' : Broker) : Prop where
  kernel : b.kernel.Intact b'.kernel
  contig : b'.contig = b.contig

instance : IsPreorder Broker Broker.Intact where
  refl b := ⟨refl_of Kernel.Intact b.kernel, rfl⟩
  trans _ _ _ h h' := ⟨trans_of Kernel.Intact h.kernel h'.kernel, h'.contig.trans h.contig⟩

namespace Kernel

theorem Intact.of_move {k k' : Kernel} (h : k.ObjectMove (fun _ => True) k') (hg : k.Gapless k') :
    k.Intact k' := ⟨hg, fun d s hs => (h.spaces d s hs).imp fun _ => And.left⟩

theorem stays_intact {s : Step Kernel Refusal α} (h : Stays (ObjectMove fun _ => True) s)
    (hg : Stays Gapless s) : Stays Intact s := fun k =>
  ((h k).and (hg k)).mono (fun _ _ h => .of_move h.1 h.2) fun _ _ h => .of_move h.1 h.2

theorem createComponent_intact (name : String) (resources : Option Resources) {k : Kernel} :
    (createComponent component name resources).Leads k
      (fun _ k' => k.Intact k' ∧ ∃ s, k'.space? component = some s) (fun _ => k.Intact) := by
  have hrecord : Stays Gapless
      (record (.componentCreated component name) : Step Kernel Refusal Unit) := record_gapless nofun
  have hset : ∀ space, Stays Gapless (setSpace component space : Step Kernel Refusal Unit) :=
    fun space => .modify fun _ => rfl
  have hgaps : Stays Gapless (createComponent component name resources) := by
    refine .get_bind fun k => ?_
    dsimp only
    split
    · exact (hset _).bind (fun _ => hrecord) k
    · exact .refuse_bind
    · exact Stays.bind Stays.exact (fun _ => (hset _).bind fun _ => hrecord) k
  have hmoves : (createComponent component name resources).Leads k
      (fun _ k' => k.ObjectMove (fun _ => True) k' ∧ ∃ s, k'.space? component = some s)
      (fun _ => k.ObjectMove fun _ => True) := createComponent_moves trivial name resources
  exact (hmoves.and (hgaps k)).mono (fun _ _ h => ⟨.of_move h.1.1 h.2, h.1.2⟩)
    fun _ _ h => .of_move h.1 h.2

theorem initUlk_intact : Stays Intact initUlk :=
  stays_intact initUlk_moves (.get_bind fun _ => .ite (fun _ => .refuse_bind) fun _ =>
    Step.leads_set.2 rfl)

theorem mapUlk_intact (id : ComponentId) : Stays Intact (mapUlk id) := by
  refine stays_intact (mapUlk_moves id) (.get_bind fun k => ?_)
  refine .ite (fun _ => .refuse_bind) fun _ => ?_
  refine knownSpace_bind fun s hs => .ite (fun _ => .refuse_bind) fun _ => ?_
  have hset : Stays Gapless (setSpace id { s with ulkMapped := true } : Step Kernel Refusal Unit) :=
    .modify fun _ => rfl
  have hrecord : Stays Gapless (record (.ulkMapped id) : Step Kernel Refusal Unit) :=
    record_gapless nofun
  exact hset.bind (fun _ => hrecord) k

theorem reserveFrames_intact (count : Nat) : Stays Intact (reserveFrames count) := by
  have hspaces : ∀ {k k' : Kernel}, k'.components = k.components ∧ k.Gapless k' → k.Intact k' := by
    rintro k k' ⟨hcomponents, hgaps⟩
    refine ⟨hgaps, fun d s hs => ⟨s, ?_⟩⟩
    unfold space? at hs ⊢
    rwa [hcomponents]
  exact fun k => (reserveFrames_gapless count k).mono (fun _ _ => hspaces) fun _ _ => hspaces

end Kernel

/-! ### Parts of the start -/

theorem kernelPart_intact : kernelPart.Allows Broker.Intact Kernel.Intact := fun _ _ h => ⟨h, rfl⟩

theorem componentPool_intact {S : Pool ComponentRecord → Pool ComponentRecord → Prop} :
    componentPool.Allows Broker.Intact S := fun b _ _ => ⟨refl_of Kernel.Intact b.kernel, rfl⟩

theorem records_intact : AdmitsRecords Broker.Intact where
  lines b _ := ⟨refl_of Kernel.Intact b.kernel, rfl⟩
  events b _ _ := ⟨refl_of Kernel.Intact b.kernel, rfl⟩
  spans b _ := ⟨refl_of Kernel.Intact b.kernel, rfl⟩
  pages b _ _ := ⟨refl_of Kernel.Intact b.kernel, rfl⟩

/-- Pages that are mapped nowhere have no gap. -/
theorem allocatePages_silent (count : Nat) (align : UInt64) :
    Silent (allocatePages none count align) := by
  refine fun b => Step.Leads.ite (fun _ => Step.Leads.refuse_bind ?_) fun _ => ?_
  · rintro _ ⟨⟩
    exact not_ofGap rfl
  refine Certain.bind ask_silent (fun run => Certain.cleanly ?_) b
  refine (reserveFrames_silent count).bind fun first => Certain.pure.bind fun mapped => ?_
  exact (publishRun_silent _ _ _).bind fun head => .pure

theorem allocateSharedAt_silent (span count : Nat) (align : UInt64) :
    Silent (allocateSharedAt span count align) :=
  ask_silent.bind fun _ => Certain.cleanly <|
    (allocatePages_silent _ _).bind fun _ => activateSpan_silent _ _ _

theorem not_ofGap_id {defect : Defect}
    (h : ∀ component page expected found,
      defect ≠ .contiguityViolation component page expected found) : ¬ OfGap id defect := by
  rintro ⟨_, rfl, _, _, _, _, heq⟩
  exact h _ _ _ _ heq

/-- The step leaves no gap and speaks of none, whatever it comes to. -/
structure Uneventful (s : Step Broker Defect α) : Prop where
  intact : Stays Broker.Intact s
  silent : s.Certain (OfGap id)

/-- The start has stopped, without a gap and without a word of one. -/
def Broker.Halts (b : Broker) (why : Stop Defect) (b' : Broker) : Prop :=
  b.Intact b' ∧ ∀ reason, why = .refused reason → ¬ OfGap id reason

namespace Uneventful

variable {s : Step Broker Defect α} {f : α → Step Broker Defect β}

theorem bind (hs : Uneventful s) (hf : ∀ a, Uneventful (f a)) : Uneventful (s >>= f) :=
  ⟨hs.intact.bind fun a => (hf a).intact, hs.silent.bind fun a => (hf a).silent⟩

theorem pure {a : α} : Uneventful (pure a) := ⟨.pure, .pure⟩

theorem exact {o : Option α} : Uneventful (Step.exact o) := ⟨.exact, .exact⟩

/-- A flaw of the manifest is no gap. -/
theorem ofExcept {r : Except Flaw α} : Uneventful ((Step.ofExcept r).explain .manifest) := by
  refine ⟨Stays.explain fun b => Step.leads_ofExcept.2 ⟨?_, ?_⟩,
    .explain fun b => Step.leads_ofExcept.2 ⟨fun _ _ => trivial, fun _ _ _ _ => ?_⟩⟩
  · exact fun _ _ => refl_of Broker.Intact b
  · exact fun _ _ => refl_of Broker.Intact b
  · exact not_ofGap_id nofun

theorem each {f : α → Step Broker Defect Unit} {l : List α} (hf : ∀ a, Uneventful (f a)) :
    Uneventful (Step.each f l) := ⟨.each fun a _ => (hf a).intact, .each fun a => (hf a).silent⟩

theorem log (level : Level) (message : String) : Uneventful (log level message) :=
  ⟨records_intact.log level message, .modify⟩

/-- An operation with no word of a gap has none as a part of the start either. -/
theorem ofFailure {s : Operation α} (hs : Stays Broker.Intact s) (hsilent : Silent s) :
    Uneventful (s.explain .ofFailure) := by
  refine ⟨hs.explain, .explain fun b => (hsilent b).mono (fun _ _ => id) ?_⟩
  rintro why _ hwhy failure rfl
  refine not_ofGap_id fun _ _ _ _ heq => hwhy failure rfl ?_
  cases failure with
  | fatal defect => exact ⟨defect, rfl, _, _, _, _, heq⟩
  | _ => cases heq

/-- What the kernel refuses is no gap. -/
theorem kernel {s : Step Kernel Kernel.Refusal α} (hs : Stays Kernel.Intact s) :
    Uneventful (kernelPart.run (s.explain .kernel)) :=
  ⟨kernelPart_intact.run hs.explain, .within (.of_explain fun _ => not_ofGap_id nofun)⟩

/-- In a sequence that set out from `first`. -/
theorem bind_from {first : Broker} {post : β → Broker → Prop} (hs : Uneventful s)
    (h : first.Intact b) (k : ∀ a b', first.Intact b' → (f a).Leads b' post first.Halts) :
    (s >>= f).Leads b post first.Halts := by
  refine Step.leads_bind.2 (((hs.intact b).and (hs.silent b)).mono ?_ ?_)
  · exact fun a b' hb => k a b' (trans_of Broker.Intact h hb.1)
  · exact fun why b' hb => ⟨trans_of Broker.Intact h hb.1, hb.2⟩

/-- Its components are there at the end too. -/
theorem leads_from {first : Broker} {space : Kernel.Space} (hs : Uneventful s)
    (h : first.Intact b) (hspace : b.kernel.space? component = some space) :
    s.Leads b (fun _ b' => first.Intact b' ∧ ∃ space', b'.kernel.space? component = some space')
      first.Halts :=
  ((hs.intact b).and (hs.silent b)).mono
    (fun _ _ hb => ⟨trans_of Broker.Intact h hb.1, hb.1.kernel.spaces _ _ hspace⟩)
    fun _ _ hb => ⟨trans_of Broker.Intact h hb.1, hb.2⟩

end Uneventful

/-! ### Components -/

theorem registerComponent_intact (component : ComponentId) (name : String) (kind : ComponentKind)
    (resources : Option Kernel.Resources) :
    Stays Broker.Intact (registerComponent component name kind resources
      (Kernel.createComponent component name resources)) := by
  have hcreate : Stays Kernel.Intact (Kernel.createComponent component name resources) := fun k =>
    (Kernel.createComponent_intact name resources).mono (fun _ _ => And.left) fun _ _ h => h
  exact registerComponent_walks (C := Eq) componentPool_intact records_intact.toAdmitsNotes _ _ _ _
    (kernelPart_intact.run hcreate.explain)

theorem registerComponent_silent (component : ComponentId) (name : String) (kind : ComponentKind)
    (resources : Option Kernel.Resources) (create : Step Kernel Kernel.Refusal Unit) :
    Silent (registerComponent component name kind resources create) := by
  refine Certain.bind (fun b => Step.leads_require.2 ⟨fun _ _ => trivial, ?_⟩) fun index =>
    ask_silent.bind fun slot => Certain.cleanly (Certain.bind askKernel_silent fun _ =>
      ask_silent.bind fun _ => .modify)
  rintro _ _ ⟨⟩
  exact not_ofGap rfl

theorem registerComponent_uneventful (component : ComponentId) (name : String)
    (kind : ComponentKind) (resources : Option Kernel.Resources) :
    Uneventful ((registerComponent component name kind resources
      (Kernel.createComponent component name resources)).explain .ofFailure) :=
  .ofFailure (registerComponent_intact _ _ _ _) (registerComponent_silent _ _ _ _ _)

/-- A component that is registered is one of the kernel's. -/
theorem registerComponent_exists (component : ComponentId) (name : String) (kind : ComponentKind)
    (resources : Option Kernel.Resources) :
    ((registerComponent component name kind resources
      (Kernel.createComponent component name resources)).explain Defect.ofFailure).Leads b
      (fun _ b' => ∃ s, b'.kernel.space? component = some s) (fun _ _ => True) := by
  refine Step.leads_explain.2 ?_
  refine .forget_bind fun index b₁ => .forget_bind fun slot b₂ => Step.leads_cleanly.2 ?_
  refine Step.leads_bind.2 (Part.run_leads (Step.leads_explain.2
    ((Kernel.createComponent_intact name resources).mono ?_ fun _ _ _ => trivial)))
  rintro _ k ⟨_, hspace⟩
  refine Step.leads_bind.2 (Part.ask_leads ?_)
  exact .of_forall (fun _ _ => Step.leads_modify.2 hspace) fun _ _ => trivial

namespace Service

theorem adopt_uneventful (manifest : Manifest) (schedulers : Schedulers) (caps : ComponentCaps) :
    Uneventful (adopt manifest schedulers caps) := by
  refine ⟨adopt_walks records_intact.log fun _ _ _ => registerComponent_intact _ _ _ _, ?_⟩
  refine Certain.bind (fun b => Step.leads_require.2 ⟨fun _ _ => trivial, ?_⟩) fun name => ?_
  · rintro _ _ ⟨⟩
    exact not_ofGap_id nofun
  · exact (registerComponent_uneventful _ _ _ _).silent.bind fun _ =>
      Certain.modify.bind fun _ => .modify

theorem shareUlk_uneventful (id : ComponentId) : Uneventful (shareUlk id) := by
  refine ⟨shareUlk_walks (kernelPart_intact.run (Kernel.mapUlk_intact id).attempt), ?_⟩
  refine .get_bind fun b b => Step.Leads.ite (fun _ => Step.Leads.refuse_bind ?_) fun _ => ?_
  · rintro _ ⟨⟩
    exact not_ofGap_id nofun
  refine Certain.bind (.within .attempt) (fun result => ?_) b
  split
  · exact .pure
  · exact .pure
  · exact .refuse (not_ofGap_id nofun)

theorem setAside_uneventful (region : SharedRegion) : Uneventful (setAside region) := by
  have hreserve : ∀ count, Stays Broker.Intact (reserveFrames count) :=
    fun count => kernelPart_intact.run (Kernel.reserveFrames_intact count).explain
  have hallocate := records_intact.allocateSharedAt region.id.toNat 4096
    (hreserve region.size.toNat)
  exact (Uneventful.ofFailure hallocate (allocateSharedAt_silent _ _ _)).bind
    fun _ => .log _ _

/-! ### The start up to the region -/

/-- All that the start does before it sets the contiguous region aside. -/
def setUp (settings : Settings) (manifest : Manifest) :
    Step Broker Defect (List (ComponentId × Execution)) := do
  log .info "capmgr: starting the capability manager"
  if manifest.captblEnd < settings.captblFree then
    Step.refuse (.captblEndTooLow manifest.captblEnd settings.captblFree)
  let plan ← (Step.ofExcept manifest.plan).explain .manifest
  let groups ← (Step.ofExcept manifest.componentCaps).explain .manifest
  makePools settings
  let selfId := settings.selfId
  (registerComponent selfId brokerName .broker none
    (Kernel.createComponent selfId brokerName none)).explain .ofFailure
  let schedulers := Schedulers.ofManifest manifest
  log .info ("capmgr: processing " ++ decimal manifest.captbl.length
    ++ " capabilities for components that have already been booted")
  Step.each (adopt manifest schedulers) groups
  kernelPart.run (Kernel.initUlk.explain .kernel)
  Step.each shareUlk manifest.sharedAddressSpace
  Step.each setAside manifest.sharedRegions
  pure plan

theorem boot_eq (settings : Settings) (manifest : Manifest) :
    boot settings manifest = (do
      let plan ← setUp settings manifest
      initContig settings.selfId settings.contigPages.toNat
      modify fun b =>
        { b with barriers := Barriers.over (plan.map Prod.fst) settings.numCores.toNat }
      pure ⟨settings, manifest, plan, Schedulers.ofManifest manifest⟩) := by
  unfold boot setUp
  by_cases hlow : manifest.captblEnd < settings.captblFree
  · simp only [if_pos hlow, bind_assoc, pure_bind]
  · simp only [if_neg hlow, bind_assoc, pure_bind]

theorem makePools_uneventful (settings : Settings) : Uneventful (makePools settings) := by
  have hmodify : ∀ components threads rcvs asnds pages spans, Uneventful (modify fun b : Broker =>
      { b with components, threads, rcvs, asnds, pages, spans }) := fun _ _ _ _ _ _ =>
    ⟨.modify fun b => ⟨refl_of Kernel.Intact b.kernel, rfl⟩, .modify⟩
  exact .bind .exact fun _ => .bind .exact fun _ => .bind .exact fun _ => .bind .exact fun _ =>
    .bind .exact fun _ => .bind .exact fun _ => hmodify _ _ _ _ _ _

/-- Up to the region there is no gap, and then the broker has a component to map the
region into. -/
theorem setUp_leads (settings : Settings) (manifest : Manifest) :
    (setUp settings manifest).Leads b
      (fun _ b' => b.Intact b' ∧ ∃ s, b'.kernel.space? settings.selfId = some s) b.Halts := by
  refine Uneventful.bind_from (.log _ _) (refl_of Broker.Intact b) fun _ b₁ h₁ => ?_
  refine Step.Leads.ite (fun _ => Step.Leads.refuse_bind ⟨h₁, ?_⟩) fun _ => ?_
  · rintro _ ⟨⟩
    exact not_ofGap_id nofun
  refine Uneventful.bind_from .ofExcept h₁ fun plan b₂ h₂ => ?_
  refine Uneventful.bind_from .ofExcept h₂ fun groups b₃ h₃ => ?_
  refine (makePools_uneventful settings).bind_from h₃ fun _ b₄ h₄ => ?_
  have hregister := registerComponent_uneventful settings.selfId brokerName .broker none
  refine Step.leads_bind.2 ((((hregister.intact b₄).and (hregister.silent b₄)).and
    (registerComponent_exists _ _ _ _)).mono ?_ ?_)
  · rintro _ b₅ ⟨⟨h₅, _⟩, s, hs⟩
    -- From here on the broker's component is there, and it stays.
    refine Uneventful.leads_from (.bind (.log _ _) fun _ => ?_) (trans_of Broker.Intact h₄ h₅) hs
    refine .bind (.each fun caps => adopt_uneventful _ _ caps) fun _ => ?_
    refine .bind (.kernel Kernel.initUlk_intact) fun _ => ?_
    refine .bind (.each fun id => shareUlk_uneventful id) fun _ => ?_
    exact .bind (.each fun region => setAside_uneventful region) fun _ => .pure
  · exact fun _ _ h => ⟨trans_of Broker.Intact h₄ h.1.1, h.1.2⟩

/-! ### The start -/

/-- The start maps the region and nothing else.  Where it breaks off over the region,
that is counted from the state before. -/
theorem boot_checked (settings : Settings) (manifest : Manifest) (hnone : b.contig = none) :
    (boot settings manifest).Leads b
      (fun _ b' => b.kernel.Gapless b'.kernel ∧ ∃ vaddr base,
        b'.contig = some ⟨base, settings.contigPages.toNat, 0⟩ ∧
        b'.kernel.TranslatesRun settings.selfId vaddr base settings.contigPages.toNat)
      (fun why b' => b.Halts why b' ∨ ∃ plan first, setUp settings manifest b = .ok plan first ∧
        b.kernel.Gapless first.kernel ∧
        first.Breaks id settings.selfId 4096 settings.contigPages.toNat why b') := by
  rw [boot_eq]
  refine Step.leads_bind.2 (((setUp_leads settings manifest).and (Step.leads_self _ _)).mono ?_
    fun _ _ h => .inl h.1)
  rintro plan first ⟨⟨hintact, s, hs⟩, hends⟩
  have hfirst : first.contig = none := hintact.contig.trans hnone
  refine Step.leads_bind.2 ((initContig_checked hs hfirst).mono ?_ ?_)
  · rintro _ b' ⟨hgaps, vaddr, base, hregion, hrun⟩
    refine Step.Leads.modify_bind (Step.leads_pure.2 ⟨?_, vaddr, base, hregion, hrun⟩)
    exact trans_of Kernel.Gapless hintact.kernel.gaps hgaps
  · exact fun why b' hbreaks => .inr ⟨plan, first, hends, hintact.kernel.gaps, hbreaks⟩

end Service

end CapabilityBroker
