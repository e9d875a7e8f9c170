/-
CapabilityBroker/Proofs/Barriers.lean

Signals of the initialization protocol.

They touch barriers, drive the scheduler and write down what became of the
component.  A preorder that ignores all of that (`IgnoresSignals`) has them, and
so has every preorder that does not speak of what is written down.
-/
import CapabilityBroker.Barrier.Signal
import CapabilityBroker.Proofs.Parts

namespace CapabilityBroker

open Step (Stays StaysFrom)

variable {ε α : Type} {R : Broker → Broker → Prop}

/-- A relation that ignores signals: barriers, the scheduler, the journal, and
the events of the initialization. -/
structure IgnoresSignals (R : Broker → Broker → Prop) : Prop where
  turn : ∀ (b : Broker) (scheduler : Scheduler) (barriers : Barriers)
    (journal : Trail JournalLine), R b { b with scheduler, barriers, journal }
  transition : ∀ (b : Broker) (id : ComponentId) (phase : Phase),
    R b { b with trail := b.trail.record (.initTransition id phase) }
  exit : ∀ (b : Broker) (id : ComponentId) (retval : Int32),
    R b { b with trail := b.trail.record (.componentExited id retval) }

theorem Tacit.ignoresSignals (h : Tacit R) : IgnoresSignals R where
  turn b _ _ _ := h b _ _ _ _
  transition b _ _ := h b _ _ _ _
  exit b _ _ := h b _ _ _ _

theorem knownBarrier_stays [IsPreorder Broker R] (id : ComponentId) :
    Stays R (knownBarrier id) := .get_bind fun b => Stays.require b

namespace IgnoresSignals

theorem setBarrier (h : IgnoresSignals R) (id : ComponentId) (barrier : Barrier) :
    Stays R (setBarrier id barrier) := .modify fun b => h.turn b _ _ _

theorem log (h : IgnoresSignals R) (level : Level) (message : String) :
    Stays R (log level message : Step Broker ε Unit) := .modify fun b => h.turn b _ _ _

theorem drive (h : IgnoresSignals R) (f : Scheduler → Scheduler) :
    Stays R (drive f : Step Broker ε Unit) := .modify fun b => h.turn b _ _ _

theorem noteTransition (h : IgnoresSignals R) (id : ComponentId) (phase : Phase) :
    Stays R (note (.initTransition id phase) : Step Broker ε Unit) :=
  .modify fun b => h.transition b id phase

theorem noteExit (h : IgnoresSignals R) (id : ComponentId) (retval : Int32) :
    Stays R (note (.componentExited id retval) : Step Broker ε Unit) :=
  .modify fun b => h.exit b id retval

variable [IsPreorder Broker R]

theorem beginInit (h : IgnoresSignals R) (id : ComponentId) (core : CoreId) :
    Stays R (beginInit id core) := by
  refine (knownBarrier_stays id).bind fun barrier => ?_
  split
  · refine (h.setBarrier _ _).bind fun _ => (h.noteTransition _ _).bind fun _ => ?_
    exact (h.log _ _).bind fun _ => (h.drive _).bind fun _ => .pure
  · exact .pure

theorem parkAt (h : IgnoresSignals R) (id : ComponentId) (core : CoreId) (answer : α) :
    Stays R (parkAt id core answer : Step Broker ε (Progress α)) := by
  refine (h.drive _).bind fun _ => .get_bind fun b => ?_
  exact .ite (fun _ => Stays.pure b) fun _ => Stays.pure b

theorem arriveAt (h : IgnoresSignals R) (id : ComponentId) (core : CoreId) (barrier : Barrier) :
    Stays R (arriveAt id core barrier) := by
  unfold CapabilityBroker.arriveAt
  cases barrier.arrive with
  | mk arrival barrier =>
    refine (h.setBarrier _ _).bind fun _ => ?_
    cases arrival with
    | leaves => exact (h.drive _).bind fun _ => .pure
    | opens =>
      refine (h.noteTransition _ _).bind fun _ => (h.log _ _).bind fun _ => ?_
      exact (h.drive _).bind fun _ => .pure
    | waits => exact h.parkAt _ _ _

theorem signalDone (h : IgnoresSignals R) (id : ComponentId) (core : CoreId) (parallel : Bool)
    (mode : MainMode) : Stays R (signalDone id core parallel mode) := by
  refine (knownBarrier_stays id).bind fun barrier => ?_
  split
  · exact .refuse
  · exact (h.noteTransition _ _).bind fun _ => h.arriveAt _ _ _
  · exact h.arriveAt _ _ _
  · exact (h.drive _).bind fun _ => .pure

theorem signalExit (h : IgnoresSignals R) (id : ComponentId) (retval : Int32) :
    Stays R (signalExit id retval) := by
  refine (knownBarrier_stays id).bind fun _ => (h.drive _).bind fun _ => ?_
  exact (h.noteExit _ _).bind fun _ => h.log _ _

end IgnoresSignals

end CapabilityBroker
