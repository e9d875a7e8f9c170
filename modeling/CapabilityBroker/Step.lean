/-
CapabilityBroker/Step.lean

Steps of the broker: computations over a state that may stop early.

A step stops for one of two reasons.  It is *refused*, with a reason the
caller can see, or it *aborts*: a result left its machine word, or a check
that only a bug can fail did fail, which ends the thread that takes the step.
In both cases the state reached so far survives; what was done before the stop
stays done.  Nothing is undone behind the writer's back, so every clean-up is
written out, with `cleanly`.

Main definitions:

* `Stop` — why a step ended early;
* `Step` — a computation over a state that may stop;
* `Step.within` — run a step on one part of a larger state;
* `Step.cleanly` — put the state in order if a step stops;
* `Step.caught` — take a step from outside, where its stop ends nothing else.
-/

namespace CapabilityBroker

/-- Why a step ended early. -/
inductive Stop (ε : Type) where
  /-- The step was refused for a reason. -/
  | refused (reason : ε)
  /-- The thread cannot go on. -/
  | abort
deriving DecidableEq

/-- Carry the reason of a refusal over to another type of reasons. -/
def Stop.map {ε ε' : Type} (f : ε → ε') : Stop ε → Stop ε'
  | .refused reason => .refused (f reason)
  | .abort => .abort

/-- A computation over a state `σ` that is refused with an `ε`, aborts, or
answers an `α`.  The state is kept in all three cases. -/
abbrev Step (σ ε α : Type) := EStateM (Stop ε) σ α

namespace Step

variable {σ τ ε ε' α : Type}

/-- Stop with a reason. -/
def refuse (reason : ε) : Step σ ε α := throw (.refused reason)

/-- Stop for good. -/
def abort : Step σ ε α := throw .abort

/-- The value that is there, or a refusal. -/
def require (reason : ε) : Option α → Step σ ε α
  | some a => pure a
  | none => refuse reason

/-- The value of a checked computation, or an abort. -/
def exact : Option α → Step σ ε α
  | some a => pure a
  | none => abort

/-- The value of an ordinary result, or its refusal. -/
def ofExcept : Except ε α → Step σ ε α
  | .ok a => pure a
  | .error reason => refuse reason

/-- Change the reason of a refusal. -/
def explain (f : ε → ε') (s : Step σ ε α) : Step σ ε' α := fun st =>
  match s st with
  | .ok a st' => .ok a st'
  | .error stop st' => .error (stop.map f) st'

/-- Run a step on the part of the state that `get` reads and `put` writes. -/
def within (get : τ → σ) (put : σ → τ → τ) (s : Step σ ε α) : Step τ ε α := fun st =>
  match s (get st) with
  | .ok a part => .ok a (put part st)
  | .error stop part => .error stop (put part st)

/-- Run a step; if it stops, apply `tidy` to the state it leaves. -/
def cleanly (tidy : σ → σ) (s : Step σ ε α) : Step σ ε α := fun st =>
  match s st with
  | .ok a st' => .ok a st'
  | .error stop st' => .error stop (tidy st')

/-- The answer of a step, or the reason it was refused; an abort still ends
everything. -/
def attempt (s : Step σ ε α) : Step σ ε' (Except ε α) := fun st =>
  match s st with
  | .ok a st' => .ok (.ok a) st'
  | .error (.refused reason) st' => .ok (.error reason) st'
  | .error .abort st' => .error .abort st'

/-- The answer of a step, or the stop that it came to. -/
def caught (s : Step σ ε α) : StateM σ (Except (Stop ε) α) := fun st =>
  match s st with
  | .ok a st' => (.ok a, st')
  | .error stop st' => (.error stop, st')

/-- Apply a step to every member of a list, in order. -/
def each (f : α → Step σ ε Unit) : List α → Step σ ε Unit
  | [] => pure ()
  | a :: rest => do
    f a
    each f rest

/-! ### What an answer says of the parts -/

variable {β : Type} {st st' : σ} {a : α} {b : β}

theorem bind_eq_ok_iff {s : Step σ ε α} {f : α → Step σ ε β} :
    (s >>= f) st = .ok b st' ↔ ∃ a mid, s st = .ok a mid ∧ f a mid = .ok b st' := by
  show EStateM.bind s f st = _ ↔ _
  unfold EStateM.bind
  cases s st <;> simp [and_assoc]

@[simp] theorem require_eq_ok_iff {reason : ε} {o : Option α} :
    (require reason o : Step σ ε α) st = .ok a st' ↔ o = some a ∧ st = st' := by
  cases o with
  | none =>
    show EStateM.Result.error (Stop.refused reason) st = _ ↔ _
    simp
  | some a => simp [require, pure, EStateM.pure]

@[simp] theorem exact_eq_ok_iff {o : Option α} :
    (exact o : Step σ ε α) st = .ok a st' ↔ o = some a ∧ st = st' := by
  cases o with
  | none =>
    show EStateM.Result.error Stop.abort st = _ ↔ _
    simp
  | some a => simp [exact, pure, EStateM.pure]

theorem within_eq_ok_iff {get : τ → σ} {put : σ → τ → τ} {s : Step σ ε α} {whole whole' : τ} :
    within get put s whole = .ok a whole' ↔
      ∃ part, s (get whole) = .ok a part ∧ put part whole = whole' := by
  unfold within
  cases s (get whole) <;> simp [and_assoc]

/-- A clean-up does not touch a step that comes to its end. -/
@[simp] theorem cleanly_eq_ok_iff {tidy : σ → σ} {s : Step σ ε α} :
    cleanly tidy s st = .ok a st' ↔ s st = .ok a st' := by
  unfold cleanly
  cases s st <;> simp

end Step

end CapabilityBroker
