/-
CapabilityBroker/Proofs/Pool/Desk.lean

Pools in use: what callers may ask of a pool, one call after another.

A caller asks for slots, publishes an object in a slot that it holds or gives
the slot back, and looks at, changes and takes out objects by their handles.
Reservations are tokens: a use that takes one can only be made by a caller
who holds it, and it is gone afterwards.  A desk is a pool with the
reservations that its callers hold; a use that needs a token nobody holds
gets no reply and changes nothing.

What serves the uses is a parameter, so that a pool can be compared with
others that are meant to behave alike.  For the pool itself, `Effect` lists
what a use that is answered does, and `Declined` the reasons for which one is
not; `serve_leads` says that these are all the ends there are.
-/
import CapabilityBroker.Proofs.Pool.Slots

namespace CapabilityBroker

/-- Reservations are compared by their numbers, whatever the objects are. -/
instance Reservation.decidableEq {α : Type} : DecidableEq (Reservation α) := fun r r' =>
  decidable_of_iff (r.index = r'.index ∧ r.generation = r'.generation) (by
    cases r
    cases r'
    simp)

/-- Handles are compared by their numbers, whatever the objects are. -/
instance Handle.decidableEq {α : Type} : DecidableEq (Handle α) := fun h h' =>
  decidable_of_iff (h.index = h'.index ∧ h.generation = h'.generation) (by
    cases h
    cases h'
    simp)

namespace Pool

variable {σ α : Type}

/-! ### Uses and their answers -/

/-- What can be asked of a pool. -/
inductive Use (α : Type) where
  | allocate
  | allocateRun (count : Nat)
  | allocateAt (index : Nat)
  /-- Publish an object in a slot that is held. -/
  | activate (r : Reservation α) (object : α)
  /-- Give a reservation back. -/
  | drop (r : Reservation α)
  | free (h : Handle α)
  | look (h : Handle α)
  | change (h : Handle α) (f : α → α)
  /-- Count the objects. -/
  | count

/-- The reservation that a use takes from its caller. -/
def Use.spent? : Use α → Option (Reservation α)
  | .activate r _ => some r
  | .drop r => some r
  | _ => none

/-- What a pool answers. -/
inductive Answer (α : Type) where
  | reserved (rs : List (Reservation α))
  | published (h : Handle α)
  | dropped
  | removed (object : α)
  /-- The object that the handle reached, as it was. -/
  | seen (object? : Option α)
  | counted (n : Nat)

/-- The reservations that an answer hands out. -/
def Answer.given : Answer α → List (Reservation α)
  | .reserved rs => rs
  | _ => []

/-- An answer, or why there is none. -/
abbrev Reply (α : Type) := Except (Stop Refusal) (Answer α)

/-- What serves the uses of a pool. -/
abbrev Server (σ α : Type) := Use α → Step σ Refusal (Answer α)

/-- The pool serves its own uses. -/
def serve : Server (Pool α) α
  | .allocate => (fun r => .reserved [r]) <$> allocate
  | .allocateRun count => .reserved <$> allocateRun count
  | .allocateAt index => (fun r => .reserved [r]) <$> allocateAt index
  | .activate r object => .published <$> activate r object
  | .drop r => do
    let p ← get
    set (p.unreserve r)
    pure .dropped
  | .free h => .removed <$> free h
  | .look h => do
    let p ← get
    pure (.seen (p.get? h))
  | .change h f => do
    let p ← get
    set (p.modify h f)
    pure (.seen (p.get? h))
  | .count => do
    let p ← get
    pure (.counted p.active)

/-! ### Desks -/

/-- A pool, or what stands for one, and the reservations that are held. -/
structure Desk (σ α : Type) where
  pool : σ
  held : List (Reservation α)

namespace Desk

/-- Whether what a use takes is there. -/
def offers (d : Desk σ α) (use : Use α) : Bool := use.spent?.all (· ∈ d.held)

/-- The reservations that are left when a use has taken its own. -/
def left (d : Desk σ α) (use : Use α) : List (Reservation α) :=
  match use.spent? with
  | some r => d.held.erase r
  | none => d.held

/-- The reply to a use, and the desk after it. -/
def answer (server : Server σ α) (d : Desk σ α) (use : Use α) : Option (Reply α) × Desk σ α :=
  if d.offers use then
    match server use d.pool with
    | .ok a pool => (some (.ok a), ⟨pool, a.given ++ d.left use⟩)
    | .error why pool => (some (.error why), ⟨pool, d.left use⟩)
  else (none, d)

/-- The reply to a use, if it can be made. -/
def reply (server : Server σ α) (d : Desk σ α) (use : Use α) : Option (Reply α) :=
  (d.answer server use).1

/-- The desk after a use. -/
def next (server : Server σ α) (d : Desk σ α) (use : Use α) : Desk σ α :=
  (d.answer server use).2

/-- The desk after several uses. -/
def run (server : Server σ α) (d : Desk σ α) (uses : List (Use α)) : Desk σ α :=
  uses.foldl (next server) d

/-- Several uses with their replies. -/
def log (server : Server σ α) (d : Desk σ α) : List (Use α) → List (Use α × Option (Reply α))
  | [] => []
  | use :: rest => (use, d.reply server use) :: log server (d.next server use) rest

variable {server : Server σ α} {d : Desk σ α} {use : Use α}
variable {post : Answer α → σ → Prop} {stop : Stop Refusal → σ → Prop}

theorem reply_of_not_offers (h : ¬ d.offers use = true) : d.reply server use = none := by
  unfold reply answer
  rw [if_neg h]

theorem next_of_not_offers (h : ¬ d.offers use = true) : d.next server use = d := by
  unfold next answer
  rw [if_neg h]

/-- A use that can be made ends as the server says. -/
theorem ends (h : (server use).Leads d.pool post stop) (ho : d.offers use = true) :
    (∃ a pool, post a pool ∧ d.reply server use = some (.ok a) ∧
      d.next server use = ⟨pool, a.given ++ d.left use⟩) ∨
    ∃ why pool, stop why pool ∧ d.reply server use = some (.error why) ∧
      d.next server use = ⟨pool, d.left use⟩ := by
  unfold reply next answer
  rw [if_pos ho]
  rcases h.ends with ⟨a, hs, hpost⟩ | ⟨why, hs, hstop⟩
  · rw [hs]
    exact .inl ⟨a, _, hpost, rfl, rfl⟩
  · rw [hs]
    exact .inr ⟨why, _, hstop, rfl, rfl⟩

/-- Only a reservation that is held can be taken. -/
theorem mem_held {r : Reservation α} (h : d.offers use = true) (hr : use.spent? = some r) :
    r ∈ d.held := by
  unfold offers at h
  rw [hr] at h
  exact of_decide_eq_true h

/-- What holds of a desk and is kept by each use holds after several. -/
theorem run_induction {P : Desk σ α → Prop} (step : ∀ d use, P d → P (d.next server use))
    (h : P d) (uses : List (Use α)) : P (d.run server uses) := by
  induction uses generalizing d with
  | nil => exact h
  | cons use rest ih => exact ih (step d use h)

end Desk

/-! ### What the pool does -/

variable {p : Pool α}

/-- What a use that is answered does to the pool. -/
inductive Effect (p : Pool α) : Use α → Answer α → Pool α → Prop
  | allocate {index : Nat}
      (first : p.firstFree? (p.capacity + 1 - p.lowWater) p.lowWater = some index) :
      Effect p .allocate (.reserved [p.reservation index])
        { p.reserve index with lowWater := index + 1 }
  | allocateNone : Effect p (.allocateRun 0) (.reserved []) p
  | allocateRun {count start : Nat} (positive : count ≠ 0)
      (first : p.findRun? count (p.capacity + 1) p.lowWater = some start) :
      Effect p (.allocateRun count) (.reserved (p.runOf start count)) (p.reserveRun start count)
  | allocateAt {index : Nat} (positive : index ≠ 0) (within : index ≤ p.capacity)
      (free : p.isFree index = true) :
      Effect p (.allocateAt index) (.reserved [p.reservation index]) (p.reserve index)
  | activate {r : Reservation α} {object : α} (holds : p.Holds r) :
      Effect p (.activate r object) (.published r.handle) (p.publish r object)
  | drop {r : Reservation α} : Effect p (.drop r) .dropped (p.unreserve r)
  | free {h : Handle α} {object : α} (reaches : p.get? h = some object) :
      Effect p (.free h) (.removed object)
        { p.release h.index with active := p.active - 1 }
  | look {h : Handle α} : Effect p (.look h) (.seen (p.get? h)) p
  | change {h : Handle α} {f : α → α} :
      Effect p (.change h f) (.seen (p.get? h)) (p.modify h f)
  | count : Effect p .count (.counted p.active) p

/-- Why a use is not answered. -/
inductive Declined (p : Pool α) : Use α → Stop Refusal → Prop
  | allocate (full : p.firstFree? (p.capacity + 1 - p.lowWater) p.lowWater = none) :
      Declined p .allocate (.refused (.exhausted p.name))
  | allocateRun {count : Nat} (positive : count ≠ 0)
      (full : p.capacity < count ∨ p.findRun? count (p.capacity + 1) p.lowWater = none) :
      Declined p (.allocateRun count) (.refused (.exhausted p.name))
  | outOfRange {index : Nat} (outside : index = 0 ∨ p.capacity < index) :
      Declined p (.allocateAt index) (.refused (.outOfRange p.name index))
  | occupied {index : Nat} (positive : index ≠ 0) (within : index ≤ p.capacity)
      (busy : ¬ p.isFree index = true) :
      Declined p (.allocateAt index) (.refused (.occupied p.name index))
  | unheld {r : Reservation α} {object : α} (lost : ¬ p.Holds r) :
      Declined p (.activate r object) .abort
  | stale {h : Handle α} (lost : p.get? h = none) :
      Declined p (.free h) (.refused (.stale p.name h.index))

/-- A use is answered with its effect, or declined, and then the pool is as it
was. -/
theorem serve_leads (use : Use α) :
    (serve use).Leads p (Effect p use) (fun why p' => Declined p use why ∧ p' = p) := by
  cases use with
  | allocate =>
    refine Step.leads_map.2 (allocate_leads.mono ?_ ?_)
    · rintro r p' ⟨hfirst, hr, rfl⟩
      rw [hr]
      exact .allocate hfirst
    · rintro why p' ⟨hfull, rfl, rfl⟩
      exact ⟨.allocate hfull, rfl⟩
  | allocateRun count =>
    refine Step.leads_map.2 ?_
    by_cases hc : count = 0
    · subst hc
      exact Step.Leads.get_bind (Step.leads_pure.2 .allocateNone)
    · refine (allocateRun_leads hc).mono ?_ ?_
      · rintro rs p' ⟨start, hfirst, rfl, rfl⟩
        exact .allocateRun hc hfirst
      · rintro why p' ⟨hfull, rfl, rfl⟩
        exact ⟨.allocateRun hc hfull, rfl⟩
  | allocateAt index =>
    refine Step.leads_map.2 (Step.Leads.get_bind ?_)
    refine Step.Leads.ite (fun h => Step.leads_refuse.2 ⟨.outOfRange h, rfl⟩) fun h => ?_
    obtain ⟨hpos, hle⟩ := not_or.1 h
    have hle : index ≤ p.capacity := Nat.le_of_not_lt hle
    refine Step.Leads.ite (fun hfree => ?_) fun hbusy => ?_
    · exact Step.Leads.set_bind (Step.leads_pure.2 (.allocateAt hpos hle hfree))
    · exact Step.leads_refuse.2 ⟨.occupied hpos hle hbusy, rfl⟩
  | activate r object =>
    refine Step.leads_map.2 (activate_leads.mono ?_ ?_)
    · rintro h p' ⟨hholds, rfl, rfl⟩
      exact .activate hholds
    · rintro why p' ⟨hlost, rfl, rfl⟩
      exact ⟨.unheld hlost, rfl⟩
  | drop r => exact Step.Leads.get_bind (Step.Leads.set_bind (Step.leads_pure.2 .drop))
  | free h =>
    refine Step.leads_map.2 (Step.Leads.get_bind ?_)
    split
    · next object ho => exact Step.Leads.set_bind (Step.leads_pure.2 (.free ho))
    · next hnone => exact Step.leads_refuse.2 ⟨.stale hnone, rfl⟩
  | look h => exact Step.Leads.get_bind (Step.leads_pure.2 .look)
  | change h f => exact Step.Leads.get_bind (Step.Leads.set_bind (Step.leads_pure.2 .change))
  | count => exact Step.Leads.get_bind (Step.leads_pure.2 .count)

end Pool

end CapabilityBroker
