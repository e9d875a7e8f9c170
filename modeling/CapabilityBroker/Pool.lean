/-
CapabilityBroker/Pool.lean

Pools: a fixed number of numbered slots for objects of one type.

A slot is free, reserved, or active.  Slots are reserved first and published
later, so that half-built objects are never seen; a reservation that comes
to nothing is released.  Every release of a slot advances its generation,
and a handle carries the generation it was issued under, so a handle to an
object that is gone does not reach the next occupant of its slot.  The
generation is a 32-bit word and starts again after its last value.

Slots are numbered from 1, by 32-bit words, so that a pool has fewer than
`capacityLimit` of them.  Slots that were never touched are not stored: they
are free, at generation 0.  `lowWater` is a bound below which no slot
is free, so that searches need not start at 1, and `active` counts the
published objects.  `entry` is the view of a pool; the lemmas say what each
change does to it.
-/
import Std.Data.ExtTreeMap
import CapabilityBroker.Quoted
import CapabilityBroker.Step
import CapabilityBroker.Word

namespace CapabilityBroker

/-! ### Refusals -/

namespace Pool

/-- Why a pool refuses. -/
inductive Refusal where
  | exhausted (pool : String)
  | outOfRange (pool : String) (index : Nat)
  | occupied (pool : String) (index : Nat)
  | stale (pool : String) (index : Nat)
deriving DecidableEq

namespace Refusal

/-- The refusal in words. -/
def message : Refusal → String
  | exhausted pool => pool ++ " pool exhausted"
  | outOfRange pool index => pool ++ " pool has no slot " ++ decimal index
  | occupied pool index => pool ++ " slot " ++ decimal index ++ " is already in use"
  | stale pool index => "stale " ++ pool ++ " handle " ++ decimal index

/-- The code of the refusal. -/
def code : Refusal → String
  | exhausted _ => "Exhausted"
  | outOfRange .. => "OutOfRange"
  | occupied .. => "Occupied"
  | stale .. => "Stale"

end Refusal

/-- The state of a slot. -/
inductive Slot (α : Type) where
  | free
  | reserved
  | active (object : α)
deriving DecidableEq

/-- A slot with its generation. -/
structure Entry (α : Type) where
  generation : UInt32
  slot : Slot α
deriving DecidableEq

/-- A slot that was never touched. -/
def Entry.fresh {α : Type} : Entry α := ⟨0, .free⟩

end Pool

/-! ### Handles and reservations -/

/-- A reference to the object that was published in a slot under a
generation. -/
structure Handle (α : Type) where
  index : Nat
  generation : UInt32
deriving DecidableEq

/-- The handle in messages. -/
def Handle.text {α : Type} (h : Handle α) : String :=
  "Handle(" ++ decimal h.index ++ "@" ++ decimal h.generation.toNat ++ ")"

/-- A slot that is kept for an object still to be built. -/
structure Reservation (α : Type) where
  index : Nat
  generation : UInt32
deriving DecidableEq

/-- The handle that the object will have. -/
def Reservation.handle {α : Type} (r : Reservation α) : Handle α := ⟨r.index, r.generation⟩

/-- A fixed number of slots. -/
structure Pool (α : Type) where
  name : String
  /-- The slots are `1` to `capacity`. -/
  capacity : Nat
  /-- The slots that were ever touched. -/
  entries : Std.ExtTreeMap Nat (Pool.Entry α)
  /-- No slot below this one is free. -/
  lowWater : Nat
  /-- The number of active slots. -/
  active : Nat

namespace Pool

variable {α : Type}

/-- A pool with all slots free. -/
def create (name : String) (capacity : Nat) : Pool α := ⟨name, capacity, ∅, 1, 0⟩

/-- The least capacity that is too large: the last slot would have a number
that is not a 32-bit word. -/
def capacityLimit : Nat := UInt32.size

/-- A pool with all slots free, if all of them can be numbered.  Nothing is checked when
a pool is made: one with more slots than 32-bit words can number is taken for an
allocation that fails, since all its slots are laid out at once. -/
def create? (name : String) (capacity : Nat) : Option (Pool α) :=
  if capacity < capacityLimit then some (create name capacity) else none

theorem create?_eq_some_iff {name : String} {capacity : Nat} {p : Pool α} :
    create? name capacity = some p ↔ capacity < capacityLimit ∧ create name capacity = p := by
  unfold create?
  split
  · next h => simp [h]
  · next h => simp [h]

/-! ### Looking at slots -/

/-- The slot at an index, with its generation. -/
def entry (p : Pool α) (index : Nat) : Entry α := p.entries[index]?.getD Entry.fresh

/-- Whether the slot at an index is free. -/
def isFree (p : Pool α) (index : Nat) : Bool :=
  match (p.entry index).slot with
  | .free => true
  | _ => false

/-- The object that a handle refers to. -/
def get? (p : Pool α) (h : Handle α) : Option α :=
  let e := p.entry h.index
  match e.slot with
  | .active object => if e.generation = h.generation then some object else none
  | _ => none

/-- The handle of the object at an index. -/
def handleAt? (p : Pool α) (index : Nat) : Option (Handle α) :=
  let e := p.entry index
  match e.slot with
  | .active _ => some ⟨index, e.generation⟩
  | _ => none

/-- The object at an index. -/
def at? (p : Pool α) (index : Nat) : Option α :=
  match (p.entry index).slot with
  | .active object => some object
  | _ => none

/-- The handle of the first object with a property. -/
def find? (p : Pool α) (holds : α → Bool) : Option (Handle α) :=
  p.entries.toList.findSome? fun e =>
    match e.2.slot with
    | .active object => if holds object then some ⟨e.1, e.2.generation⟩ else none
    | _ => none

/-! ### Changing slots -/

/-- Write a slot. -/
def setEntry (p : Pool α) (index : Nat) (e : Entry α) : Pool α :=
  { p with entries := p.entries.insert index e }

/-- Keep a slot for an object. -/
def reserve (p : Pool α) (index : Nat) : Pool α :=
  p.setEntry index { p.entry index with slot := .reserved }

/-- The reservation of a slot at its present generation. -/
def reservation (p : Pool α) (index : Nat) : Reservation α := ⟨index, (p.entry index).generation⟩

/-- A reservation of this pool in messages. -/
def reservationText (p : Pool α) (r : Reservation α) : String :=
  "Reservation \x7b pool: " ++ quoted p.name ++ ", index: " ++ decimal r.index ++ " \x7d"

/-- Free a slot and advance its generation. -/
def release (p : Pool α) (index : Nat) : Pool α :=
  let e := p.entry index
  { p.setEntry index ⟨e.generation + 1, .free⟩ with lowWater := min p.lowWater index }

/-- Give a reservation up; nothing happens if the slot is not reserved. -/
def unreserve (p : Pool α) (r : Reservation α) : Pool α :=
  match (p.entry r.index).slot with
  | .reserved => p.release r.index
  | _ => p

/-- Give several reservations up, in order. -/
def unreserveAll (p : Pool α) (rs : List (Reservation α)) : Pool α := rs.foldl unreserve p

/-- Change the object that a handle refers to. -/
def modify (p : Pool α) (h : Handle α) (f : α → α) : Pool α :=
  let e := p.entry h.index
  match e.slot with
  | .active object =>
    if e.generation = h.generation then p.setEntry h.index { e with slot := .active (f object) }
    else p
  | _ => p

/-! ### Slots after a change -/

@[simp] theorem entry_create (name : String) (capacity index : Nat) :
    (create name capacity : Pool α).entry index = Entry.fresh := by
  simp [create, entry]

theorem entry_setEntry (p : Pool α) (index i : Nat) (e : Entry α) :
    (p.setEntry index e).entry i = if index = i then e else p.entry i := by
  simp only [setEntry, entry, Std.ExtTreeMap.getElem?_insert, Std.LawfulEqCmp.compare_eq_iff_eq]
  split <;> rfl

theorem entry_reserve (p : Pool α) (index i : Nat) :
    (p.reserve index).entry i =
      if index = i then { p.entry i with slot := .reserved } else p.entry i := by
  rw [reserve, entry_setEntry]
  split
  · next h => rw [h]
  · rfl

/-- A release frees one slot and advances its generation. -/
theorem entry_release (p : Pool α) (index i : Nat) :
    (p.release index).entry i =
      if index = i then ⟨(p.entry i).generation + 1, .free⟩ else p.entry i := by
  have h := entry_setEntry p index i ⟨(p.entry index).generation + 1, .free⟩
  show (p.setEntry index ⟨(p.entry index).generation + 1, .free⟩).entry i = _
  rw [h]
  split
  · next h => rw [h]
  · rfl

theorem isFree_iff {p : Pool α} {index : Nat} :
    p.isFree index = true ↔ (p.entry index).slot = .free := by
  unfold isFree
  split <;> simp_all

theorem get?_eq_some_iff {p : Pool α} {h : Handle α} {object : α} :
    p.get? h = some object ↔ p.entry h.index = ⟨h.generation, .active object⟩ := by
  unfold get?
  rcases p.entry h.index with ⟨generation, _ | _ | _⟩ <;> simp

/-! ### Searching for free slots -/

/-- The first free slot among `count` slots from `start` on. -/
def firstFree? (p : Pool α) : (count start : Nat) → Option Nat
  | 0, _ => none
  | count + 1, start => if p.isFree start then some start else p.firstFree? count (start + 1)

/-- The first slot that is not free among `count` slots from `start` on. -/
def firstBusy? (p : Pool α) : (count start : Nat) → Option Nat
  | 0, _ => none
  | count + 1, start => if p.isFree start then p.firstBusy? count (start + 1) else some start

/-- The first `count` consecutive free slots from `start` on, trying at most
`tries` times; each try starts after the busy slot that ended the last. -/
def findRun? (p : Pool α) (count : Nat) : (tries start : Nat) → Option Nat
  | 0, _ => none
  | tries + 1, start =>
    if start + count ≤ p.capacity + 1 then
      match p.firstBusy? count start with
      | none => some start
      | some busy => p.findRun? count tries (busy + 1)
    else none

/-! ### Operations -/

/-- Reserve the lowest free slot. -/
def allocate : Step (Pool α) Refusal (Reservation α) := do
  let p ← get
  match p.firstFree? (p.capacity + 1 - p.lowWater) p.lowWater with
  | none => Step.refuse (.exhausted p.name)
  | some index =>
    set { p.reserve index with lowWater := index + 1 }
    pure (p.reservation index)

/-- Reserve the lowest `count` consecutive free slots. -/
def allocateRun (count : Nat) : Step (Pool α) Refusal (List (Reservation α)) := do
  let p ← get
  if count = 0 then pure []
  else if count > p.capacity then Step.refuse (.exhausted p.name)
  else
    match p.findRun? count (p.capacity + 1) p.lowWater with
    | none => Step.refuse (.exhausted p.name)
    | some start =>
      let indices := List.range' start count
      let lowWater := if start = p.lowWater then start + count else p.lowWater
      set { indices.foldl reserve p with lowWater := lowWater }
      pure (indices.map p.reservation)

/-- Reserve the slot at a given index. -/
def allocateAt (index : Nat) : Step (Pool α) Refusal (Reservation α) := do
  let p ← get
  if index = 0 ∨ index > p.capacity then Step.refuse (.outOfRange p.name index)
  else if p.isFree index then
    set (p.reserve index)
    pure (p.reservation index)
  else Step.refuse (.occupied p.name index)

/-- Publish an object in a reserved slot.  The slot must still be reserved
under the generation of the reservation. -/
def activate {ε : Type} (r : Reservation α) (object : α) : Step (Pool α) ε (Handle α) := do
  let p ← get
  let e := p.entry r.index
  match e.slot with
  | .reserved =>
    if e.generation = r.generation then
      set { p.setEntry r.index { e with slot := .active object } with active := p.active + 1 }
      pure r.handle
    else Step.abort
  | _ => Step.abort

/-- Take the object of a handle out of the pool. -/
def free (h : Handle α) : Step (Pool α) Refusal α := do
  let p ← get
  match p.get? h with
  | some object =>
    set { p.release h.index with active := p.active - 1 }
    pure object
  | none => Step.refuse (.stale p.name h.index)

end Pool

end CapabilityBroker
