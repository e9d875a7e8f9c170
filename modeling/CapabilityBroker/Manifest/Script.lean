/-
CapabilityBroker/Manifest/Script.lean

Drafts written down as steps.

A step is a list: the name of what is done, and its arguments in order.  A
script is a list of steps, done one after another on an empty draft.
-/
import CapabilityBroker.Manifest.Draft

namespace CapabilityBroker.Draft

/-- Do a step, given its name and its arguments. -/
def step? (d : Draft) (name : String) : List Json → Option Draft
  | [] => if name = "client_and_scheduler" then some clientAndScheduler else none
  | [a] => do
    match name with
    | "shared_address_space" => pure (d.shareAddressSpace (← decode a))
    | "captbl_end" => pure (d.captblEnd (← decode a))
    | _ => none
  | [a, b] => do
    match name with
    | "component" => pure (d.component (← decode a) (← decode b))
    | "execute" => pure (d.execute (← decode a) (← decode b))
    | "scheduled_by" => pure (d.scheduledBy (← decode a) (← decode b))
    | "directly_scheduled_by" => pure (d.directlyScheduledBy (← decode a) (← decode b))
    | "shmem" => pure (d.shmem (← decode a) (← decode b))
    | _ => none
  | [a, b, c] => do
    match name with
    | "raw_cap" => pure (d.rawCap (← decode a) (← decode b) (← decode c))
    | _ => none
  | _ => none

/-- Do a step as it is written. -/
def doStep? (d : Draft) : Json → Option Draft
  | .list (name :: args) => do d.step? (← name.string?) args
  | _ => none

/-- The draft that a script makes. -/
def ofScript? : Json → Option Draft
  | .list steps => steps.foldlM doStep? empty
  | _ => none

end CapabilityBroker.Draft
