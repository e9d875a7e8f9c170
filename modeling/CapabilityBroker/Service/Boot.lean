/-
CapabilityBroker/Service/Boot.lean

Starting the broker.

The manifest is read once, and then the broker makes its pools.  From the
manifest it records the components that run already, maps the user-level
kernel's region where it is shared, makes the spans that must be there from
the start, sets the contiguous region aside and sets up a barrier for each
component that is to be initialized.
Every failure on the way is a defect, for there is nobody to tell.
-/
import CapabilityBroker.Manifest.Replay
import CapabilityBroker.Service.Operation

namespace CapabilityBroker.Service

/-- The name of the broker's own component. -/
def brokerName : String := "capmgr"

/-! ### Components -/

/-- What a group of capabilities and a manifest say of a component. -/
def resourcesOf (caps : ComponentCaps) (frontiers : Frontiers) : Kernel.Resources :=
  ⟨⟨caps.comp⟩, ⟨caps.captbl⟩, ⟨caps.pgtbl⟩, ⟨frontiers.heap⟩, frontiers.captbl⟩

/-- The scheduler of a component in the journal. -/
def schedulerText : Option ComponentId → String
  | some sched => "Some(ComponentId(" ++ decimal sched.number.toNat ++ "))"
  | none => "None"

/-- Record a component that runs already. -/
def adopt (manifest : Manifest) (schedulers : Schedulers) (caps : ComponentCaps) :
    Step Broker Defect Unit := do
  let id := caps.component
  let name ← Step.require (.missingName id) (manifest.name? id)
  let frontiers := manifest.frontiersOf id
  let resources := resourcesOf caps frontiers
  (registerComponent id name .booted (some resources)
    (Kernel.createComponent id name (some resources))).explain .ofFailure
  log .info ("capmgr: created component " ++ name ++ ": " ++ id.text)
  log .debug ("capmgr: " ++ id.text ++ " captbl " ++ decimal caps.captbl.toNat ++ " pgtbl "
    ++ decimal caps.pgtbl.toNat ++ " comp " ++ decimal caps.comp.toNat ++ " frontiers "
    ++ decimal frontiers.captbl.toNat ++ " / 0x" ++ hexadecimal frontiers.heap.toNat
    ++ ", sched " ++ schedulerText (schedulers.of? id))

/-! ### Shared regions -/

/-- Map the user-level kernel's region into a component.  A component that
shares its page table with another sees the region already. -/
def shareUlk (id : ComponentId) : Step Broker Defect Unit := do
  if !(← get).hasComponent id then Step.refuse (.componentMissing id)
  match ← kernelPart.run (Kernel.mapUlk id).attempt with
  | .ok () => pure ()
  | .error (.alreadyMapped _) => pure ()
  | .error refusal => Step.refuse (.kernel refusal)

/-- Set a shared-memory region aside. -/
def setAside (region : SharedRegion) : Step Broker Defect Unit := do
  let _ ← (allocateSharedAt region.id.toNat region.size.toNat 4096).explain Defect.ofFailure
  log .debug ("capmgr: shared region " ++ decimal region.id.toNat ++ " with "
    ++ decimal region.size.toNat ++ " pages")

/-! ### Boot -/

/-- Start the broker without a manifest: there are pools and barriers, and no
records. -/
def bootBare (settings : Settings) (ids : List ComponentId) : Step Broker Defect Image := do
  makePools settings
  modify fun b => { b with barriers := Barriers.over ids settings.numCores.toNat }
  pure (.bare settings)

/-- Start the broker from a manifest. -/
def boot (settings : Settings) (manifest : Manifest) : Step Broker Defect Image := do
  log .info "capmgr: starting the capability manager"
  if manifest.captblEnd < settings.captblFree then
    Step.refuse (.captblEndTooLow manifest.captblEnd settings.captblFree)
  let plan ← (Step.ofExcept manifest.plan).explain .manifest
  let groups ← (Step.ofExcept manifest.componentCaps).explain .manifest
  makePools settings
  let selfId := settings.selfId
  (registerComponent selfId brokerName .broker none
    (Kernel.createComponent selfId brokerName none)).explain .ofFailure
  let schedulers := Schedulers.ofManifest manifest
  log .info ("capmgr: processing " ++ decimal manifest.captbl.length
    ++ " capabilities for components that have already been booted")
  Step.each (adopt manifest schedulers) groups
  kernelPart.run (Kernel.initUlk.explain .kernel)
  Step.each shareUlk manifest.sharedAddressSpace
  Step.each setAside manifest.sharedRegions
  initContig selfId settings.contigPages.toNat
  modify fun b =>
    { b with barriers := Barriers.over (plan.map Prod.fst) settings.numCores.toNat }
  pure ⟨settings, manifest, plan, schedulers⟩

/-! ### Each core's part -/

/-- Write a line that only the first core writes. -/
def logFirst (isInitCore : Bool) (message : String) : Step Broker Defect Unit :=
  if isInitCore then log .info message else pure ()

/-- Create what a component is to run first on a core. -/
def createExecution (selfId : ComponentId) (core : CoreId) (isInitCore : Bool)
    (planned : ComponentId × Execution) : Step Broker Defect Unit := do
  let (id, kind) := planned
  if id = selfId then Step.refuse (.selfExecution id)
  if !(← get).hasComponent id then Step.refuse (.componentMissing id)
  match kind with
  | .sched =>
    let _ ← (createSchedExecution id core).explain Defect.ofFailure
    logFirst isInitCore ("capmgr: created scheduling execution for " ++ id.text)
  | .init =>
    let _ ← (createInitThread id core).explain Defect.ofFailure
    logFirst isInitCore ("capmgr: created thread for " ++ id.text)

/-- Create what every planned component is to run first on a core. -/
def parallelInit (image : Image) (core : CoreId) (isInitCore : Bool) :
    Step Broker Defect Unit := do
  logFirst isInitCore ("capmgr: " ++ decimal image.plan.length
    ++ " components that need execution")
  Step.each (createExecution image.settings.selfId core isInitCore) image.plan

/-- Start the broker and do the first core's part. -/
def bootFirstCore (settings : Settings) (manifest : Manifest) : Step Broker Defect Image := do
  let image ← boot settings manifest
  parallelInit image ⟨0⟩ true
  pure image

/-- Begin the initialization of every planned component, in order. -/
def parallelMain (image : Image) (core : CoreId) : Step Broker Defect Unit :=
  Step.each (fun planned => do
    let _ ← (beginInit planned.1 core).explain Defect.ofFailure) image.plan

end CapabilityBroker.Service
