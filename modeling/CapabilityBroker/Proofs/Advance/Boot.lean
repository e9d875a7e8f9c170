/-
CapabilityBroker/Proofs/Advance/Boot.lean

What the start of the system may do.

Making the pools is the one thing that is not an advance, as it throws the
old pools away; it happens before there is anything in them.  From then on
the start may do everything but publish threads, and each core's part
publishes the initial threads of the plan and no others.

Other relations pass through the start in the same way.  What they have to
have is said phase by phase (`AdmitsStart`, `AdmitsBoot`), and `boot_keeps`
runs them from the pools just made to the end.
-/
import CapabilityBroker.Proofs.Advance.Service
import CapabilityBroker.Service.Boot

namespace CapabilityBroker

open Step (Answers Stays StaysFrom)

/-- What the start may do before any core begins its part. -/
def Warrant.ofBoot : Warrant where
  caps _ := True
  maps _ := True
  starting := True
  threads _ := False

/-- What a core's part of the start may do. -/
def Warrant.ofStart (image : Image) : Warrant where
  caps _ := False
  maps _ := False
  starting := True
  threads t := t.sched = .none ∧ t.held = .unaliased ∧ (t.client, .init) ∈ image.plan

variable {w : Warrant} {b b' : Broker}

/-! ### Making the pools -/

/-- Every pool can number its slots. -/
structure Settings.PoolsFit (s : Settings) : Prop where
  components : s.maxComponents.toNat < Pool.capacityLimit
  threads : s.maxThreads.toNat < Pool.capacityLimit
  rcvs : s.maxRcvs.toNat < Pool.capacityLimit
  asnds : s.maxAsnds.toNat < Pool.capacityLimit
  pages : s.maxPages.toNat < Pool.capacityLimit
  spans : s.maxSpans.toNat < Pool.capacityLimit

theorem Pool.not_lt_of_create? {α : Type} {name : String} {capacity : Nat}
    (h : (Pool.create? name capacity : Option (Pool α)) = none) : ¬ capacity < capacityLimit := by
  intro hlt
  unfold create? at h
  rw [if_pos hlt] at h
  cases h

/-- The pools are made, if each of them can number its slots. -/
theorem makePools_leads {ε : Type} (settings : Settings) :
    (makePools settings : Step Broker ε Unit).Leads b
      (fun _ b' => ∃ components threads rcvs asnds pages spans,
        b' = { b with components, threads, rcvs, asnds, pages, spans } ∧
        Pool.create? "comp" settings.maxComponents.toNat = some components ∧
        Pool.create? "thd" settings.maxThreads.toNat = some threads ∧
        Pool.create? "rcv" settings.maxRcvs.toNat = some rcvs ∧
        Pool.create? "asnd" settings.maxAsnds.toNat = some asnds ∧
        Pool.create? "page" settings.maxPages.toNat = some pages ∧
        Pool.create? "span" settings.maxSpans.toNat = some spans)
      (fun _ _ => ¬ settings.PoolsFit) := by
  refine Step.Leads.exact_bind (fun components h₁ => ?_) fun hnone hfit =>
    Pool.not_lt_of_create? hnone hfit.components
  refine Step.Leads.exact_bind (fun threads h₂ => ?_) fun hnone hfit =>
    Pool.not_lt_of_create? hnone hfit.threads
  refine Step.Leads.exact_bind (fun rcvs h₃ => ?_) fun hnone hfit =>
    Pool.not_lt_of_create? hnone hfit.rcvs
  refine Step.Leads.exact_bind (fun asnds h₄ => ?_) fun hnone hfit =>
    Pool.not_lt_of_create? hnone hfit.asnds
  refine Step.Leads.exact_bind (fun pages h₅ => ?_) fun hnone hfit =>
    Pool.not_lt_of_create? hnone hfit.pages
  refine Step.Leads.exact_bind (fun spans h₆ => ?_) fun hnone hfit =>
    Pool.not_lt_of_create? hnone hfit.spans
  exact Step.leads_modify.2 ⟨components, threads, rcvs, asnds, pages, spans, rfl, h₁, h₂, h₃, h₄,
    h₅, h₆⟩

/-- A pool just made holds nothing. -/
theorem Pool.idle_of_create? {α : Type} {name : String} {capacity : Nat} {p : Pool α}
    (h : Pool.create? name capacity = some p) (i : Nat) : (p.entry i).Idle := by
  obtain ⟨_, rfl⟩ := Pool.create?_eq_some_iff.1 h
  rw [Pool.entry_create]
  exact .of_free rfl

namespace Service

/-! ### The steps of the start -/

section Walks

variable {R : Broker → Broker → Prop} [IsPreorder Broker R]

/-- A component that is adopted is registered, and that is all but for the journal. -/
theorem adopt_walks {manifest : Manifest} {schedulers : Schedulers} {caps : ComponentCaps}
    (hlog : ∀ level message, Stays R (log level message : Step Broker Defect Unit))
    (hregister : ∀ name resources,
      resources = some (resourcesOf caps (manifest.frontiersOf caps.component)) →
      Stays R (registerComponent caps.component name .booted resources
        (Kernel.createComponent caps.component name resources))) :
    Stays R (adopt manifest schedulers caps) :=
  Stays.require.bind fun name => (hregister name _ rfl).explain.bind fun _ =>
    (hlog _ _).bind fun _ => hlog _ _

/-- All that sharing does is one mapping, whatever comes of it. -/
theorem shareUlk_walks {id : ComponentId}
    (hmap : Stays R (kernelPart.run (Kernel.mapUlk id).attempt : Step Broker Defect _)) :
    Stays R (shareUlk id) := by
  refine .get_bind fun b => .ite (fun _ => .refuse_bind) fun _ => hmap.bind (fun result => ?_) b
  split
  · exact .pure
  · exact .pure
  · exact .refuse

end Walks

theorem adopt_stays (hw : w.starting) (manifest : Manifest) (schedulers : Schedulers)
    (caps : ComponentCaps) : Stays (Broker.Advance w) (adopt manifest schedulers caps) :=
  adopt_walks advance_tacit.log fun name resources _ =>
    registerComponent_stays _ _ _ _ (Kernel.createComponent_stays hw _ name resources)

theorem shareUlk_stays (hw : w.starting) (id : ComponentId) :
    Stays (Broker.Advance w) (shareUlk id) :=
  shareUlk_walks (kernelPart_admits.run (Kernel.mapUlk_stays (w := w.toWarrant) hw id).attempt)

theorem setAside_stays (region : SharedRegion) : Stays (Broker.Advance w) (setAside region) :=
  (allocateSharedAt_stays _ _ _).explain.bind fun _ => advance_tacit.log _ _

/-- What the image of a started system has to do with its manifest. -/
structure Describes (settings : Settings) (m : Manifest) (image : Image) : Prop where
  settings : image.settings = settings
  plan : m.plan = .ok image.plan
  schedulers : image.schedulers = .ofManifest m
  manifest : image.manifest = m

/-- A relation that each part of the start, from the adoption of the components to the
shared spans, stays in where it answers. -/
structure AdmitsStart (R : Broker → Broker → Prop) (manifest : Manifest) : Prop where
  log : ∀ level message, Answers R (log level message : Step Broker Defect Unit)
  adopt : ∀ groups, manifest.componentCaps = .ok groups → ∀ schedulers, ∀ caps ∈ groups,
    Answers R (adopt manifest schedulers caps)
  initUlk : Answers R (kernelPart.run (Kernel.initUlk.explain Defect.kernel))
  shareUlk : ∀ id, Answers R (shareUlk id)
  setAside : ∀ region, Answers R (setAside region)

/-- A relation that the start stays in from the pools just made to its end, with the
registration of the broker, the contiguous region and the barriers. -/
structure AdmitsBoot (R : Broker → Broker → Prop) (settings : Settings) (manifest : Manifest) :
    Prop extends AdmitsStart R manifest where
  self : Answers R (registerComponent settings.selfId brokerName .broker none
    (Kernel.createComponent settings.selfId brokerName none))
  initContig : Answers R (initContig settings.selfId settings.contigPages.toNat)
  barriers : ∀ b barriers, R b { b with barriers }

/-- The pools are made, the broker registers itself, and from there on each part of
the start that answers stays in a preorder, up to the contiguous region; what is so
when that is set aside is so at the end. -/
theorem boot_stages {R Q : Broker → Broker → Prop} [IsPreorder Broker R] {M S : Broker → Prop}
    {settings : Settings} {manifest : Manifest}
    (hmake : ∀ journal, (makePools settings : Step Broker Defect Unit).Leads { b with journal }
      (fun _ made => M made) (fun _ _ => True))
    (hself : ∀ made, M made → (registerComponent settings.selfId brokerName .broker none
      (Kernel.createComponent settings.selfId brokerName none)).Leads made (fun _ => S)
        (fun _ _ => True))
    (hstart : AdmitsStart R manifest)
    (hcontig : ∀ first b, S first → R first b →
      (initContig settings.selfId settings.contigPages.toNat).Leads b
        (fun _ => Q first) (fun _ _ => True))
    (hend : ∀ first b barriers, Q first b → Q first { b with barriers }) :
    (boot settings manifest).Leads b
      (fun image b' => Describes settings manifest image ∧ ∃ first, S first ∧ Q first b')
      (fun _ _ => True) := by
  apply Step.Leads.modify_bind
  refine Step.Leads.ite (fun _ => .refuse_bind trivial) fun _ => ?_
  refine Step.leads_bind.2 (Step.leads_explain.2 (Step.leads_ofExcept.2 ⟨?_, fun _ _ => trivial⟩))
  intro plan hplan
  refine Step.leads_bind.2 (Step.leads_explain.2 (Step.leads_ofExcept.2 ⟨?_, fun _ _ => trivial⟩))
  intro groups hgroups
  refine Step.leads_bind.2 ((hmake _).mono ?_ fun _ _ _ => trivial)
  intro _ made hmade
  refine Step.leads_bind.2 (Step.leads_explain.2 ((hself made hmade).mono ?_ fun _ _ _ => trivial))
  intro _ first hfirst
  suffices h : Step.Leads _ first
      (fun image b' => Describes settings manifest image ∧ Q first b') (fun _ _ => True) from
    h.mono (fun image b' h => ⟨h.1, first, hfirst, h.2⟩) fun _ _ _ => trivial
  refine (hstart.log _ _).bind_from (refl_of R first) fun _ b₂ h₂ => ?_
  refine Answers.bind_from (.each fun caps hcaps => ?_) h₂ fun _ b₃ h₃ => ?_
  · exact hstart.adopt groups hgroups _ caps hcaps
  refine hstart.initUlk.bind_from h₃ fun _ b₄ h₄ => ?_
  refine Answers.bind_from (.each fun id _ => hstart.shareUlk id) h₄ fun _ b₅ h₅ => ?_
  refine Answers.bind_from (.each fun region _ => hstart.setAside region) h₅ fun _ b₆ h₆ => ?_
  refine Step.leads_bind.2 ((hcontig first b₆ hfirst h₆).mono (fun _ b₇ h₇ => ?_)
    fun _ _ _ => trivial)
  exact Step.Leads.modify_bind (Step.leads_pure.2 ⟨⟨rfl, hplan, rfl, rfl⟩, hend _ _ _ h₇⟩)

/-- The same, where the preorder has the registration of the broker itself too. -/
theorem boot_walks {R Q : Broker → Broker → Prop} [IsPreorder Broker R] {M : Broker → Prop}
    {settings : Settings} {manifest : Manifest}
    (hmake : ∀ journal, (makePools settings : Step Broker Defect Unit).Leads { b with journal }
      (fun _ made => M made) (fun _ _ => True))
    (hself : Answers R (registerComponent settings.selfId brokerName .broker none
      (Kernel.createComponent settings.selfId brokerName none)))
    (hstart : AdmitsStart R manifest)
    (hcontig : ∀ made b, R made b → (initContig settings.selfId settings.contigPages.toNat).Leads b
      (fun _ => Q made) (fun _ _ => True))
    (hend : ∀ made b barriers, Q made b → Q made { b with barriers }) :
    (boot settings manifest).Leads b
      (fun image b' => Describes settings manifest image ∧ ∃ made, M made ∧ Q made b')
      (fun _ _ => True) := by
  -- What was reached by then is said of the pools as they were made.
  have hself' : ∀ made, M made → (registerComponent settings.selfId brokerName .broker none
      (Kernel.createComponent settings.selfId brokerName none)).Leads made
        (fun _ first => ∃ made, M made ∧ R made first) (fun _ _ => True) := fun made hmade =>
    (hself made).mono (fun _ _ h => ⟨made, hmade, h⟩) fun _ _ _ => trivial
  have hcontig' : ∀ first b, (∃ made, M made ∧ R made first) → R first b →
      (initContig settings.selfId settings.contigPages.toNat).Leads b
        (fun _ b' => ∃ made, M made ∧ Q made b') (fun _ _ => True) := by
    rintro first b ⟨made, hmade, hfirst⟩ hb
    exact (hcontig made b (trans_of R hfirst hb)).mono (fun _ _ h => ⟨made, hmade, h⟩)
      fun _ _ _ => trivial
  have hend' : ∀ (_ b : Broker) barriers, (∃ made, M made ∧ Q made b) →
      ∃ made, M made ∧ Q made { b with barriers } := by
    rintro _ b barriers ⟨made, hmade, hq⟩
    exact ⟨made, hmade, hend made b barriers hq⟩
  refine (boot_stages hmake hself' hstart hcontig' hend').mono ?_ fun _ _ _ => trivial
  rintro image b' ⟨himage, _, _, hends⟩
  exact ⟨himage, hends⟩

/-- The same, where one preorder has all of it. -/
theorem boot_keeps {R : Broker → Broker → Prop} [IsPreorder Broker R] {M : Broker → Prop}
    {settings : Settings} {manifest : Manifest}
    (hmake : ∀ journal, (makePools settings : Step Broker Defect Unit).Leads { b with journal }
      (fun _ made => M made) (fun _ _ => True))
    (hboot : AdmitsBoot R settings manifest) :
    (boot settings manifest).Leads b
      (fun image b' => Describes settings manifest image ∧ ∃ made, M made ∧ R made b')
      (fun _ _ => True) := by
  have hcontig : ∀ made b, R made b →
      (initContig settings.selfId settings.contigPages.toNat).Leads b
        (fun _ => R made) (fun _ _ => True) := fun made b h =>
    (hboot.initContig b).mono (fun _ _ h' => trans_of R h h') fun _ _ _ => trivial
  have hend : ∀ made b barriers, R made b → R made { b with barriers } :=
    fun made b barriers h => trans_of R h (hboot.barriers b barriers)
  exact boot_walks hmake hboot.self hboot.toAdmitsStart hcontig hend

theorem advance_admitsBoot (settings : Settings) (manifest : Manifest) :
    AdmitsBoot (Broker.Advance .ofBoot) settings manifest where
  log level message := (advance_tacit.log level message).answers
  adopt _ _ schedulers caps _ := (adopt_stays trivial manifest schedulers caps).answers
  initUlk := (kernelPart_admits.run Kernel.initUlk_stays.explain).answers
  shareUlk id := (shareUlk_stays trivial id).answers
  setAside region := (setAside_stays region).answers
  self := (registerComponent_stays _ _ _ _
    (Kernel.createComponent_stays (w := Warrant.ofBoot.toWarrant) trivial _ _ _)).answers
  initContig := (initContig_stays trivial _).answers
  barriers _ _ := .of_notes

/-- What stood in the pools does not count: they are made afresh. -/
theorem boot_leads (settings : Settings) (manifest : Manifest) :
    (boot settings manifest).Leads b
      (fun image b' => Describes settings manifest image ∧
        ∃ made : Broker, (made.kernel = b.kernel ∧ made.FromOne ∧
          (∀ i, (made.threads.entry i).Idle) ∧ (∀ i, (made.pages.entry i).Idle)) ∧
          made.Advance .ofBoot b')
      (fun _ _ => True) := by
  refine boot_keeps (fun journal => ?_) (advance_admitsBoot settings manifest)
  refine (makePools_leads settings).mono ?_ fun _ _ _ => trivial
  rintro _ _ ⟨components, threads, rcvs, asnds, pages, spans, rfl, hcomponents, hthreads, _, _,
    hpages, hspans⟩
  exact ⟨rfl, ⟨Pool.fromOne_of_create? hcomponents, Pool.fromOne_of_create? hspans⟩,
    Pool.idle_of_create? hthreads, Pool.idle_of_create? hpages⟩

/-- After the start there are no threads, and every mapping on record is shown. -/
theorem boot_started {settings : Settings} {manifest : Manifest} {image : Image}
    (h : boot settings manifest b = .ok image b') :
    Describes settings manifest image ∧ b'.Truthful ∧ b'.FromOne ∧
      ∀ i g t, b'.threads.entry i ≠ ⟨g, .active t⟩ := by
  obtain ⟨hdescribes, made, ⟨_, hone, hthreads, hpages⟩, hadv⟩ :=
    (boot_leads settings manifest).of_ok h
  refine ⟨hdescribes, hadv.truthful fun i g page hp => absurd hp (hpages i).ne,
    hadv.fromOne hone, ?_⟩
  intro i g t ht
  rcases hadv.threads.added i g t ht with ⟨_, _, hold⟩ | hnew
  · exact (hthreads i).ne hold
  · exact hnew

/-! ### Each core's part -/

theorem logFirst_stays (isInitCore : Bool) (message : String) :
    Stays (Broker.Advance w) (logFirst isInitCore message) := .ite (advance_tacit.log _ _) .pure

theorem createExecution_stays {image : Image} (core : CoreId) (isInitCore : Bool)
    {planned : ComponentId × Execution} (hp : planned ∈ image.plan) :
    Stays (Broker.Advance (.ofStart image))
      (createExecution image.settings.selfId core isInitCore planned) := by
  obtain ⟨id, kind⟩ := planned
  refine .ite (fun _ => .refuse_bind) (.get_bind fun b => ?_)
  refine .ite (fun _ => .refuse_bind) fun _ => ?_
  cases kind with
  | sched =>
    refine (createSchedExecution_stays trivial id core).explain.bind (fun _ => ?_) b
    exact logFirst_stays _ _
  | init =>
    have ht : ∀ thread, (Warrant.ofStart image).threads ⟨thread, id, .none, .unaliased⟩ :=
      fun _ => ⟨rfl, rfl, hp⟩
    refine (createInitThread_stays core ht).explain.bind (fun _ => ?_) b
    exact logFirst_stays _ _

theorem parallelInit_stays (image : Image) (core : CoreId) (isInitCore : Bool) :
    Stays (Broker.Advance (.ofStart image)) (parallelInit image core isInitCore) :=
  (logFirst_stays _ _).bind fun _ =>
    .each fun _ hp => createExecution_stays core isInitCore hp

theorem parallelMain_stays (image : Image) (core : CoreId) :
    Stays (Broker.Advance w) (parallelMain image core) :=
  .each fun _ _ => (advance_tacit.ignoresSignals.beginInit _ _).explain.bind fun _ => .pure

end Service

end CapabilityBroker
