/-
CapabilityBroker/Service/Caller.lean

Callers that wait at barriers.

A caller is known by a ticket, a number that says when it came.  When the
component of a waiting caller is released, the caller goes on from where it
stopped: most have their answer already, but one that serves requests has
the rest of them before it, and may come to wait again.  Each caller is a
thread of its own: if one aborts, it alone ends, and the others go on.
-/
import CapabilityBroker.Service.Dispatch

namespace CapabilityBroker.Service

/-- What a waiting caller is in the middle of. -/
inductive Pending where
  /-- A signal that its initialization is done. -/
  | signal (outcome : Outcome)
  /-- A single request. -/
  | request (reply : Reply)
  /-- A run of requests. -/
  | run (replies : List Reply) (rest : List Call)
  /-- Nothing but waiting. -/
  | release

/-- A caller that waits for the release of a component. -/
structure Caller where
  ticket : Nat
  component : ComponentId
  pending : Pending

/-- How a caller comes to its end. -/
inductive Answer where
  | outcome (outcome : Outcome)
  | reply (reply : Reply)
  | replies (replies : List Reply)
  | halted (halt : Halt)
  | released
  /-- Its thread could not go on. -/
  | aborted

namespace Caller

/-- The number of requests a caller still has before it. -/
def remaining (c : Caller) : Nat :=
  match c.pending with
  | .run _ rest => rest.length
  | _ => 0

/-- Let a caller go on.  It comes to its answer, or to wait again. -/
def resume (image : Image) (c : Caller) : StateM Broker (Answer ⊕ Caller) :=
  match c.pending with
  | .signal outcome => pure (.inl (.outcome outcome))
  | .request reply => pure (.inl (.reply reply))
  | .release => pure (.inl .released)
  | .run replies rest => do
    match ← (serveFrom image replies rest).caught with
    | .ok (.completed replies) => pure (.inl (.replies replies))
    | .ok (.halted halt) => pure (.inl (.halted halt))
    | .ok (.waiting component replies rest) =>
      pure (.inr { c with component, pending := .run replies rest })
    | .error _ => pure (.inl .aborted)

/-- Put a caller among others in the order of tickets. -/
def insert (c : Caller) : List Caller → List Caller
  | [] => [c]
  | d :: rest => if c.ticket ≤ d.ticket then c :: d :: rest else d :: insert c rest

end Caller

/-- Let callers whose components are released go on, the one with the lowest
ticket first, `fuel` times at most.  The result is their answers and the
callers that still wait. -/
def settleWithin (image : Image) :
    (fuel : Nat) → List Caller → StateM Broker (List (Nat × Answer) × List Caller)
  | 0, callers => pure ([], callers)
  | fuel + 1, callers => do
    let scheduler := (← get).scheduler
    match callers.find? fun c => scheduler.isReleased c.component with
    | none => pure ([], callers)
    | some c =>
      let others := callers.filter fun d => d.ticket != c.ticket
      match ← c.resume image with
      | .inl answer =>
        let (answers, callers) ← settleWithin image fuel others
        pure ((c.ticket, answer) :: answers, callers)
      | .inr c => settleWithin image fuel (c.insert others)

/-- Let every caller whose component is released go on.  Each time a caller
goes on it either ends or has fewer requests before it. -/
def settle (image : Image) (callers : List Caller) :
    StateM Broker (List (Nat × Answer) × List Caller) := do
  let fuel := callers.foldl (fun n c => n + 1 + c.remaining) 0
  let (answers, callers) ← settleWithin image fuel callers
  pure (answers.mergeSort fun a b => a.1 ≤ b.1, callers)

end CapabilityBroker.Service
