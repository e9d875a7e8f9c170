/-
CapabilityBroker/Proofs/Parts.lean

Steps on parts of the broker's state.

A relation between states of the broker says how far each part may move
(`Part.Allows`).  For a preorder, a step on the part then stays in it, and a
reservation may be made, kept and given up.  Most relations say nothing of
barriers, the scheduler and what is written down (`Tacit`).
-/
import CapabilityBroker.Broker
import CapabilityBroker.Proofs.Pool.Moves

namespace CapabilityBroker

open Step (Stays StaysFrom)

variable {σ ε α β : Type} {b : Broker}

/-! ### One part -/

theorem Part.run_leads {part : Part σ} {s : Step σ ε α} {post : α → Broker → Prop}
    {stop : Stop ε → Broker → Prop}
    (h : s.Leads (part.get b) (fun a p => post a (part.put p b))
      (fun why p => stop why (part.put p b))) : (part.run s).Leads b post stop :=
  Step.leads_within.2 h

theorem Part.ask_leads {part : Part (Pool σ)} {s : Step (Pool σ) Pool.Refusal α}
    {post : α → Broker → Prop} {stop : Stop Failure → Broker → Prop}
    (h : s.Leads (part.get b) (fun a p => post a (part.put p b))
      (fun why p => stop (why.map .pool) (part.put p b))) : (part.ask s).Leads b post stop :=
  Part.run_leads (Step.leads_explain.2 h)

/-! ### What is written down -/

/-- A relation that does not speak of barriers, of the scheduler or of what is
written down. -/
def Tacit (R : Broker → Broker → Prop) : Prop :=
  ∀ (b : Broker) (scheduler : Scheduler) (barriers : Barriers) (trail : Trail Event)
    (journal : Trail JournalLine), R b { b with scheduler, barriers, trail, journal }

namespace Tacit

variable {R : Broker → Broker → Prop}

theorem note (h : Tacit R) (event : Event) : Stays R (note event : Step Broker ε Unit) :=
  .modify fun b => h b _ _ _ _

theorem log (h : Tacit R) (level : Level) (message : String) :
    Stays R (log level message : Step Broker ε Unit) := .modify fun b => h b _ _ _ _

end Tacit

/-- The transition that an event speaks of. -/
def Event.transition? : Event → Option (ComponentId × Phase)
  | .initTransition component phase => some (component, phase)
  | _ => none

/-- Whether an event is neither a transition of the initialization nor a carving off
the contiguous region.  These two have histories of their own. -/
def Event.isRoutine : Event → Bool
  | .initTransition .. => false
  | .contigAllocated .. => false
  | _ => true

/-- A relation that does not speak of the journal, or of events that are routine. -/
structure AdmitsNotes (R : Broker → Broker → Prop) : Prop where
  lines : ∀ (b : Broker) (journal : Trail JournalLine), R b { b with journal }
  events : ∀ (b : Broker) (event : Event), event.isRoutine = true →
    R b { b with trail := b.trail.record event }

namespace AdmitsNotes

variable {R : Broker → Broker → Prop}

theorem note (h : AdmitsNotes R) {event : Event} (he : event.isRoutine = true) :
    Stays R (note event : Step Broker ε Unit) := .modify fun b => h.events b event he

theorem log (h : AdmitsNotes R) (level : Level) (message : String) :
    Stays R (log level message : Step Broker ε Unit) := .modify fun b => h.lines b _

end AdmitsNotes

theorem Tacit.notes {R : Broker → Broker → Prop} (h : Tacit R) : AdmitsNotes R :=
  ⟨fun b _ => h b _ _ _ _, fun b _ _ => h b _ _ _ _⟩

/-! ### Moves that a relation allows -/

/-- Moves of a part that a relation between states allows. -/
def Part.Allows (part : Part σ) (R : Broker → Broker → Prop) (S : σ → σ → Prop) : Prop :=
  ∀ b s, S (part.get b) s → R b (part.put s b)

namespace Part.Allows

variable {R : Broker → Broker → Prop} {S : σ → σ → Prop}

theorem run {part : Part σ} {s : Step σ ε α} (h : part.Allows R S) (hs : Stays S s) :
    Stays R (part.run s) := fun b => (hs (part.get b)).within fun p hp => h b p hp

theorem ask {part : Part (Pool σ)} {S : Pool σ → Pool σ → Prop}
    {s : Step (Pool σ) Pool.Refusal α} (h : part.Allows R S) (hs : Stays S s) :
    Stays R (part.ask s) := h.run hs.explain

/-- Of a step on a part that may do anything, nothing need be known. -/
theorem runAny {part : Part σ} (h : part.Allows R fun _ _ => True) (s : Step σ ε α) :
    Stays R (part.run s) := h.run .always

theorem askAny {part : Part (Pool σ)} (h : part.Allows R fun _ _ => True)
    (s : Step (Pool σ) Pool.Refusal α) : Stays R (part.ask s) := h.runAny _

/-- A pool whose new objects are unrestricted allows reservations. -/
theorem reserves {part : Part (Pool σ)} {C : σ → σ → Prop} {P : σ → Prop} [IsPreorder σ C]
    (h : part.Allows R (Pool.Moves C P)) : part.Allows R Pool.Reserves :=
  fun b p hp => h b p hp.moves

/-- Reservations may be given up wherever that goes unnoticed. -/
theorem holdingAll_leads {part : Part (Pool σ)} {slots : List (Reservation σ)} {s : Operation β}
    {post : β → Broker → Prop} {Q : Broker → Prop} (h : part.Allows R Pool.Reserves)
    (hQ : ∀ b b', Q b → R b b' → Q b') (hs : s.Leads b post (fun _ => Q)) :
    (part.holdingAll slots s).Leads b post (fun _ => Q) :=
  Step.leads_cleanly.2 (hs.mono (fun _ _ => id)
    fun _ b hb => hQ b _ hb (h b _ (.unreserveAll slots)))

section Preorder

variable [IsPreorder Broker R] {part : Part (Pool σ)}

theorem holding_leads {slot : Reservation σ} {s : Operation β} {first : Broker}
    {post : β → Broker → Prop} (h : part.Allows R Pool.Reserves)
    (hs : s.Leads b post (fun _ => R first)) :
    (part.holding slot s).Leads b post (fun _ => R first) :=
  Step.leads_cleanly.2
    (hs.mono (fun _ _ => id) fun _ b hb => trans_of R hb (h b _ (.unreserve slot)))

theorem holding {slot : Reservation σ} {s : Operation β} (h : part.Allows R Pool.Reserves)
    (hs : s.StaysFrom R b) : (part.holding slot s).StaysFrom R b :=
  hs.cleanly fun b => h b _ (.unreserve slot)

theorem holdingAll {slots : List (Reservation σ)} {s : Operation β}
    (h : part.Allows R Pool.Reserves) (hs : s.StaysFrom R b) :
    (part.holdingAll slots s).StaysFrom R b :=
  hs.cleanly fun b => h b _ (.unreserveAll slots)

end Preorder

end Part.Allows

end CapabilityBroker
