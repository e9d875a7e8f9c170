/-
CapabilityBroker/Manifest/Basic.lean

The manifest: what the composer of a system image says about it.

It lists the components that run when the broker starts, the capabilities
the broker already holds for them, who schedules whom, and what each
component runs first.  It is read once and trusted afterwards.  Ids are
plain numbers here; the queries hand out typed ids.
-/
import CapabilityBroker.Json.Names
import CapabilityBroker.Json.Layout

namespace CapabilityBroker

/-! ### Flaws -/

/-- What can be wrong with a manifest. -/
inductive Flaw where
  /-- The text is no manifest. -/
  | malformed (detail : String)
  | unknownExecutionKind (kind : String)
  | unknownCapType (capid : UInt64) (kind : String)
  /-- A capability of a group has another target than the group's first. -/
  | inconsistentCaptbl (capid : UInt64) (expected found : ComponentId)
  | incompleteCaptbl (component : ComponentId)
  | invalidCapId
deriving DecidableEq

namespace Flaw

/-- The flaw in words. -/
def message : Flaw → String
  | malformed detail => "Malformed manifest: " ++ detail
  | unknownExecutionKind kind => "Unknown execution kind: " ++ kind
  | unknownCapType capid kind =>
    "Unknown capability type " ++ kind ++ " for capid " ++ decimal capid.toNat
  | inconsistentCaptbl capid expected found =>
    "Capability " ++ decimal capid.toNat ++ " targets " ++ found.text ++ ", expected "
      ++ expected.text
  | incompleteCaptbl component => "Incomplete capability group for " ++ component.text
  | invalidCapId => "Invalid capability id 0 in captbl"

/-- The code of the flaw. -/
def code : Flaw → String
  | malformed _ => "Parse"
  | unknownExecutionKind _ => "UnknownExecutionKind"
  | unknownCapType .. => "UnknownCapType"
  | inconsistentCaptbl .. => "InconsistentCaptbl"
  | incompleteCaptbl _ => "IncompleteCaptbl"
  | invalidCapId => "InvalidCapId"

end Flaw

/-! ### Executions -/

/-- What a component is given to run first. -/
inductive Execution where
  /-- A scheduling execution context: the component is a scheduler. -/
  | sched
  /-- A plain initial thread. -/
  | init
deriving DecidableEq

namespace Execution

/-- The kind as a manifest writes it. -/
def text : Execution → String
  | sched => "sched"
  | init => "init"

/-- The kind a manifest names. -/
def ofText (kind : String) : Except Flaw Execution :=
  if kind = "sched" then .ok sched
  else if kind = "init" then .ok init
  else .error (.unknownExecutionKind kind)

end Execution

/-! ### The parts of a manifest -/

/-- One capability that the composer left in the broker's table. -/
structure ReplayEntry where
  capid : UInt64
  kind : String
  target : UInt64
deriving DecidableEq

/-- A shared-memory region to set aside when the broker starts. -/
structure SharedRegion where
  /-- The id of the span by which components map the region. -/
  id : UInt32
  /-- Its size in pages. -/
  size : UInt64
deriving DecidableEq

/-- Virtual resources of the whole system. -/
structure VirtualResources where
  shmem : List SharedRegion
deriving DecidableEq

/-- The first free address and the first free capability slot of a component;
zero where the composer says nothing. -/
structure Frontiers where
  heap : UInt64
  captbl : UInt64
deriving DecidableEq

/-- What the composer of an image says about it. -/
structure Manifest where
  /-- The first slot left free in the broker's capability table. -/
  captblEnd : UInt64
  /-- Component and kind of execution, in order of initialization. -/
  execute : List (UInt64 × String)
  /-- The capabilities the broker holds for running components. -/
  captbl : List ReplayEntry
  /-- Component to scheduler, by the scheduler hierarchy. -/
  schedulerHierarchy : NumberTable UInt64
  /-- Component to scheduler, by the initialization hierarchy. -/
  initHierarchy : NumberTable UInt64
  names : NumberTable String
  /-- Components that share the privileged region. -/
  addrspcShared : List UInt64
  virtResources : VirtualResources
  frontiers : NumberTable Frontiers

namespace Manifest

/-- The manifest that says nothing. -/
def empty : Manifest where
  captblEnd := 0
  execute := []
  captbl := []
  schedulerHierarchy := ∅
  initHierarchy := ∅
  names := ∅
  addrspcShared := []
  virtResources := ⟨[]⟩
  frontiers := ∅

/-! ### Typed queries -/

/-- The executions to create, in manifest order. -/
def plan (m : Manifest) : Except Flaw (List (ComponentId × Execution)) :=
  m.execute.mapM fun e => (Execution.ofText e.2).map fun kind => (⟨e.1⟩, kind)

/-- The scheduler that the initialization hierarchy assigns; id 0 if none. -/
def directScheduler (m : Manifest) (id : ComponentId) : ComponentId :=
  ⟨m.initHierarchy[id.number]?.getD 0⟩

/-- The scheduler that the scheduler hierarchy assigns; id 0 if none. -/
def hierarchicalScheduler (m : Manifest) (id : ComponentId) : ComponentId :=
  ⟨m.schedulerHierarchy[id.number]?.getD 0⟩

/-- The name of a component. -/
def name? (m : Manifest) (id : ComponentId) : Option String := m.names[id.number]?

/-- The components that share the privileged region. -/
def sharedAddressSpace (m : Manifest) : List ComponentId := m.addrspcShared.map ComponentId.mk

/-- The shared-memory regions to set aside. -/
def sharedRegions (m : Manifest) : List SharedRegion := m.virtResources.shmem

/-- The frontiers of a component. -/
def frontiersOf (m : Manifest) (id : ComponentId) : Frontiers :=
  m.frontiers[id.number]?.getD ⟨0, 0⟩

end Manifest

/-! ### JSON forms -/

instance : Wire Execution where
  encode
    | .sched => Json.ofString "Sched"
    | .init => Json.ofString "Init"
  decode j := do
    let v ← Variant.ofJson? j
    match v.name with
    | "Sched" => v.bare .sched
    | "Init" => v.bare .init
    | _ => none

instance : Wire ReplayEntry where
  encode e := Json.record
    [("capid", encode e.capid), ("type", encode e.kind), ("target", encode e.target)]
  decode j := do
    let fields ← Fields.ofJson? ["capid", "type", "target"] j
    let capid ← fields.required "capid"
    let kind ← fields.required "type"
    let target ← fields.required "target"
    pure ⟨capid, kind, target⟩

instance : Wire SharedRegion where
  encode r := Json.record [("id", encode r.id), ("size", encode r.size)]
  decode j := do
    let fields ← Fields.ofJson? ["id", "size"] j
    let id ← fields.required "id"
    let size ← fields.required "size"
    pure ⟨id, size⟩

instance : Wire VirtualResources where
  encode r := Json.record [("shmem", encode r.shmem)]
  decode j := do
    let fields ← Fields.ofJson? ["shmem"] j
    let shmem ← fields.orDefault "shmem" []
    pure ⟨shmem⟩

instance : Wire Frontiers where
  encode f := Json.record [("heap", encode f.heap), ("captbl", encode f.captbl)]
  decode j := do
    let fields ← Fields.ofJson? ["heap", "captbl"] j
    let heap ← fields.orDefault "heap" 0
    let captbl ← fields.orDefault "captbl" 0
    pure ⟨heap, captbl⟩

/-- The names of a manifest's fields, in order. -/
def Manifest.fieldNames : List String :=
  ["captbl_end", "execute", "captbl", "scheduler_hierarchy", "init_hierarchy", "names",
   "addrspc_shared", "virt_resources", "frontiers"]

instance : Wire Manifest where
  encode m := Json.record
    [("captbl_end", encode m.captblEnd), ("execute", encode m.execute),
     ("captbl", encode m.captbl), ("scheduler_hierarchy", encode m.schedulerHierarchy),
     ("init_hierarchy", encode m.initHierarchy), ("names", encode m.names),
     ("addrspc_shared", encode m.addrspcShared), ("virt_resources", encode m.virtResources),
     ("frontiers", encode m.frontiers)]
  decode j := do
    let fields ← Fields.ofJson? Manifest.fieldNames j
    let captblEnd ← fields.orDefault "captbl_end" 0
    let execute ← fields.orDefault "execute" []
    let captbl ← fields.orDefault "captbl" []
    let schedulerHierarchy ← fields.orDefault "scheduler_hierarchy" ∅
    let initHierarchy ← fields.orDefault "init_hierarchy" ∅
    let names ← fields.orDefault "names" ∅
    let addrspcShared ← fields.orDefault "addrspc_shared" []
    let virtResources ← fields.orDefault "virt_resources" ⟨[]⟩
    let frontiers ← fields.orDefault "frontiers" ∅
    pure ⟨captblEnd, execute, captbl, schedulerHierarchy, initHierarchy, names, addrspcShared,
      virtResources, frontiers⟩

/-- The manifest that a text spells. -/
def Manifest.parse? (text : String) : Option Manifest := (Json.parse? text).bind decode

/-- A manifest as text, one item a line. -/
def Manifest.render (m : Manifest) : String := (encode m).indented

end CapabilityBroker
