/-
CapabilityBroker/Barrier/Phase.lean

The phases of a component's initialization, and what comes after it.
-/
import CapabilityBroker.Json.Wire

namespace CapabilityBroker

/-- How far a component's initialization has come. -/
inductive Phase where
  | unregistered
  /-- The serial part runs on one core. -/
  | initializing
  /-- The cores gather at the barrier. -/
  | parallelInit
  /-- All have arrived. -/
  | main
deriving DecidableEq

namespace Phase

/-- The name of the phase. -/
def text : Phase → String
  | unregistered => "Unregistered"
  | initializing => "Initializing"
  | parallelInit => "ParallelInit"
  | main => "Main"

end Phase

instance : Wire Phase where
  encode phase := Json.ofString phase.text
  decode j := do
    let v ← Variant.ofJson? j
    match v.name with
    | "Unregistered" => v.bare .unregistered
    | "Initializing" => v.bare .initializing
    | "ParallelInit" => v.bare .parallelInit
    | "Main" => v.bare .main
    | _ => none

/-- Where a component's main runs once initialization is complete. -/
inductive MainMode where
  /-- Nowhere; the threads exit after the barrier. -/
  | none
  /-- On the core that initialized the component. -/
  | serial
  | parallel
deriving DecidableEq

namespace MainMode

/-- The name of the mode. -/
def text : MainMode → String
  | none => "None"
  | serial => "Serial"
  | parallel => "Parallel"

end MainMode

instance : Wire MainMode where
  encode mode := Json.ofString mode.text
  decode j := do
    let v ← Variant.ofJson? j
    match v.name with
    | "None" => v.bare .none
    | "Serial" => v.bare .serial
    | "Parallel" => v.bare .parallel
    | _ => Option.none

/-- What becomes of a thread that has finished its part of an
initialization. -/
inductive Outcome where
  /-- It is past the barrier and goes on with the component's main. -/
  | main (mode : MainMode)
  /-- It was torn down. -/
  | exited
deriving DecidableEq

instance : Wire Outcome where
  encode
    | .main mode => Json.tagged "Main" (encode mode)
    | .exited => Json.ofString "Exited"
  decode j := do
    let v ← Variant.ofJson? j
    match v.name with
    | "Main" => v.carried .main
    | "Exited" => v.bare .exited
    | _ => none

end CapabilityBroker
