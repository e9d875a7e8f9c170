/-
CapabilityBroker/Barrier/Progress.lean

How a call comes to its end.

Most calls finish at once.  A call that reaches a barrier before the others
finishes later, when the barrier opens; what it will answer is settled when
it parks.
-/
import CapabilityBroker.Identity

namespace CapabilityBroker

/-- How a call comes to its end. -/
inductive Progress (α : Type) where
  /-- With this answer, at once. -/
  | finished (answer : α)
  /-- With this answer, when the barrier of a component opens. -/
  | parked (component : ComponentId) (answer : α)
deriving DecidableEq

namespace Progress

variable {α β : Type}

/-- Change the answer. -/
def map (f : α → β) : Progress α → Progress β
  | finished a => finished (f a)
  | parked component a => parked component (f a)

/-- The answer, at once or later. -/
def answer : Progress α → α
  | finished a => a
  | parked _ a => a

/-- Whether the call waits. -/
def isParked : Progress α → Bool
  | finished _ => false
  | parked .. => true

@[simp] theorem answer_map (f : α → β) (p : Progress α) : (p.map f).answer = f p.answer := by
  cases p <;> rfl

@[simp] theorem isParked_map (f : α → β) (p : Progress α) :
    (p.map f).isParked = p.isParked := by
  cases p <;> rfl

end Progress

end CapabilityBroker
