/-
CapabilityBroker/Trail.lean

Trails: what happened, in order.

A trail only grows at its end, so the position of an event is its sequence
number.  Clearing a trail starts the count again.
-/

namespace CapabilityBroker

/-- Events in the order they happened. -/
structure Trail (α : Type) where
  events : Array α

namespace Trail

variable {α : Type}

/-- The trail of nothing. -/
def empty : Trail α := ⟨#[]⟩

/-- Add an event at the end. -/
def record (t : Trail α) (event : α) : Trail α := ⟨t.events.push event⟩

/-- The events in order. -/
def toList (t : Trail α) : List α := t.events.toList

/-- The number of events. -/
def size (t : Trail α) : Nat := t.events.size

def isEmpty (t : Trail α) : Bool := t.events.isEmpty

/-- The number of events with a property. -/
def count (t : Trail α) (p : α → Bool) : Nat := (t.toList.filter p).length

/-- Whether some event has a property. -/
def any (t : Trail α) (p : α → Bool) : Bool := t.toList.any p

/-- The sequence numbers of the events with a property. -/
def sequencesOf (t : Trail α) (p : α → Bool) : List Nat :=
  (t.toList.zipIdx.filter fun e => p e.1).map Prod.snd

/-- The events from a sequence number on. -/
def since (t : Trail α) (sequence : Nat) : List α := t.toList.drop sequence

/-- The trail with all events forgotten. -/
def clear (_ : Trail α) : Trail α := empty

@[simp] theorem toList_empty : (empty : Trail α).toList = [] := rfl

@[simp] theorem toList_record (t : Trail α) (event : α) :
    (t.record event).toList = t.toList ++ [event] := by
  simp [record, toList]

@[simp] theorem count_record (t : Trail α) (event : α) (p : α → Bool) :
    (t.record event).count p = t.count p + if p event then 1 else 0 := by
  simp only [count, toList_record, List.filter_append, List.length_append]
  split <;> simp_all

end Trail

end CapabilityBroker
