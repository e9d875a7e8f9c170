/-
CapabilityBroker/Manifest/Draft.lean

Composing a manifest step by step.

A draft is a manifest under way together with the next free capability id.
Each component that is added gets a name and a triple of capabilities; the
other steps fill in the sections one entry at a time.  Wrong entries can be
added too, to see them refused.
-/
import CapabilityBroker.Manifest.Basic

namespace CapabilityBroker

/-- A manifest under way. -/
structure Draft where
  manifest : Manifest
  /-- The capability id of the next component's first capability. -/
  nextCapid : UInt64

namespace Draft

/-- A draft with no components yet. -/
def empty : Draft := ⟨{ Manifest.empty with captblEnd := 64 }, 20⟩

/-- Add an entry to the capability section. -/
def rawCap (d : Draft) (capid : UInt64) (kind : String) (target : UInt64) : Draft :=
  { d with manifest := { d.manifest with captbl := d.manifest.captbl ++ [⟨capid, kind, target⟩] } }

/-- Add the next capability of a component. -/
def nextCap (d : Draft) (kind : String) (target : UInt64) : Draft :=
  { d.rawCap d.nextCapid kind target with nextCapid := d.nextCapid + 1 }

/-- Add a running component with its name and its three capabilities. -/
def component (d : Draft) (id : UInt64) (name : String) : Draft :=
  let d := ((d.nextCap "comp" id).nextCap "captbl" id).nextCap "pgtbl" id
  { d with manifest := { d.manifest with names := d.manifest.names.insert id name } }

/-- Append to the execution plan. -/
def execute (d : Draft) (id : UInt64) (kind : String) : Draft :=
  { d with manifest := { d.manifest with execute := d.manifest.execute ++ [(id, kind)] } }

/-- Assign a scheduler in the scheduler hierarchy. -/
def scheduledBy (d : Draft) (client sched : UInt64) : Draft :=
  { d with manifest :=
    { d.manifest with schedulerHierarchy := d.manifest.schedulerHierarchy.insert client sched } }

/-- Assign a scheduler in the initialization hierarchy. -/
def directlyScheduledBy (d : Draft) (client sched : UInt64) : Draft :=
  { d with manifest :=
    { d.manifest with initHierarchy := d.manifest.initHierarchy.insert client sched } }

/-- Let a component share the privileged region. -/
def shareAddressSpace (d : Draft) (id : UInt64) : Draft :=
  { d with manifest := { d.manifest with addrspcShared := d.manifest.addrspcShared ++ [id] } }

/-- Ask for a shared-memory region. -/
def shmem (d : Draft) (id : UInt32) (size : UInt64) : Draft :=
  { d with manifest :=
    { d.manifest with virtResources := ⟨d.manifest.virtResources.shmem ++ [⟨id, size⟩]⟩ } }

/-- Say where the broker's capability table is free. -/
def captblEnd (d : Draft) (slot : UInt64) : Draft :=
  { d with manifest := { d.manifest with captblEnd := slot } }

/-- A client, its scheduler and a bystander. -/
def clientAndScheduler : Draft :=
  ((((((empty.component 5 "client").component 6 "sched").component 7 "bystander").execute
    6 "sched").execute 5 "init").scheduledBy 5 6)

/-- The draft in JSON form; it never says anything of frontiers. -/
def toJson (d : Draft) : Json :=
  let m := d.manifest
  Json.record
    [("captbl_end", encode m.captblEnd), ("execute", encode m.execute),
     ("captbl", encode m.captbl), ("names", encode m.names),
     ("scheduler_hierarchy", encode m.schedulerHierarchy),
     ("init_hierarchy", encode m.initHierarchy), ("addrspc_shared", encode m.addrspcShared),
     ("virt_resources", encode m.virtResources)]

end Draft

end CapabilityBroker
