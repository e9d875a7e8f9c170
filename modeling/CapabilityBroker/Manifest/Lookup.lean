/-
CapabilityBroker/Manifest/Lookup.lean

Looking a manifest up by path.

A path is `captbl_end`, or the name of a section, a slash and an id.  The id
is read leniently: decimal digits, with a plus sign or zeros in front.
-/
import CapabilityBroker.Manifest.Basic

namespace CapabilityBroker

/-- The number that decimal digits spell, with an optional plus sign, if it
fits a word. -/
def lenientNumber? (cs : List Char) : Option UInt64 :=
  let digits := match cs with
    | '+' :: rest => rest
    | cs => cs
  (Json.digitsValue? digits).bind word64?

/-- What stands before and after the first slash. -/
def splitPath? : List Char → Option (List Char × List Char)
  | [] => none
  | c :: rest =>
    if c = '/' then some ([], rest)
    else (splitPath? rest).map fun p => (c :: p.1, p.2)

namespace Manifest

/-- The entry of a section for an id. -/
def entry? (m : Manifest) (sectionName : String) (id : UInt64) : Option String :=
  if sectionName = "names" then m.names[id]?
  else if sectionName = "scheduler_hierarchy" then
    m.schedulerHierarchy[id]?.map fun sched => decimal sched.toNat
  else if sectionName = "init_hierarchy" then
    m.initHierarchy[id]?.map fun sched => decimal sched.toNat
  else none

/-- The value at a path. -/
def value? (m : Manifest) (path : String) : Option String :=
  if path = "captbl_end" then some (decimal m.captblEnd.toNat)
  else do
    let (sectionName, id) ← splitPath? path.toList
    let id ← lenientNumber? id
    m.entry? (String.ofList sectionName) id

/-- The number of entries under a key that holds a list. -/
def entryCount? (m : Manifest) (key : String) : Option Nat :=
  if key = "execute" then some m.execute.length
  else if key = "captbl" then some m.captbl.length
  else if key = "addrspc_shared" then some m.addrspcShared.length
  else if key = "virt_resources/shmem" then some m.virtResources.shmem.length
  else none

end Manifest

end CapabilityBroker
