/-
CapabilityBroker/Proofs/Ends.lean

Ends of steps that are put together, read forwards.

Where it is known how the parts of a step end, so is how the whole of it ends.
These are the rules for a proof that follows one course of a step, and has an
equation for each part; what all courses have in common is said with
`Step.Leads`.
-/
import CapabilityBroker.Broker
import CapabilityBroker.Proofs.Outcome

namespace CapabilityBroker

namespace Step

variable {σ τ ε ε' α β : Type} {s : Step σ ε α} {f : α → Step σ ε β} {st st' : σ} {a : α}
variable {why : Stop ε} {reason : ε}

theorem bind_of_ok (h : s st = .ok a st') : (s >>= f) st = f a st' := by
  show EStateM.bind s f st = _
  unfold EStateM.bind
  rw [h]

theorem bind_of_error (h : s st = .error why st') : (s >>= f) st = .error why st' := by
  show EStateM.bind s f st = _
  unfold EStateM.bind
  rw [h]

theorem map_of_ok {g : α → β} (h : s st = .ok a st') : (g <$> s) st = .ok (g a) st' := by
  show EStateM.map g s st = _
  unfold EStateM.map
  rw [h]

theorem map_of_error {g : α → β} (h : s st = .error why st') : (g <$> s) st = .error why st' := by
  show EStateM.map g s st = _
  unfold EStateM.map
  rw [h]

theorem map_congr {g : α → β} {s' : Step σ ε α} {first : σ} (h : s st = s' first) :
    (g <$> s) st = (g <$> s') first := by
  show EStateM.map g s st = EStateM.map g s' first
  unfold EStateM.map
  rw [h]

theorem cleanly_of_error {tidy : σ → σ} (h : s st = .error why st') :
    cleanly tidy s st = .error why (tidy st') := by
  unfold cleanly
  rw [h]

theorem cleanly_congr {tidy : σ → σ} {s' : Step σ ε α} {first : σ} (h : s st = s' first) :
    cleanly tidy s st = cleanly tidy s' first := by
  unfold cleanly
  rw [h]

theorem attempt_of_refused (h : s st = .error (.refused reason) st') :
    (attempt s : Step σ ε' (Except ε α)) st = .ok (.error reason) st' := by
  unfold attempt
  rw [h]

theorem attempt_of_ok (h : s st = .ok a st') :
    (attempt s : Step σ ε' (Except ε α)) st = .ok (.ok a) st' := by
  unfold attempt
  rw [h]

theorem attempt_of_abort (h : s st = .error .abort st') :
    (attempt s : Step σ ε' (Except ε α)) st = .error .abort st' := by
  unfold attempt
  rw [h]

theorem exists_of_cleanly_error {tidy : σ → σ} (h : cleanly tidy s st = .error why st') :
    ∃ mid, s st = .error why mid := by
  unfold cleanly at h
  cases hs : s st with
  | ok a mid =>
    rw [hs] at h
    cases h
  | error why' mid =>
    rw [hs] at h
    cases h
    exact ⟨mid, rfl⟩

theorem exists_ok_of_stop? (h : s.stop? st = none) : ∃ a st', s st = .ok a st' := by
  unfold stop? at h
  split at h
  · next a st' hs => exact ⟨a, st', hs⟩
  · cases h

theorem exists_error_of_stop? (h : s.stop? st = some why) : ∃ st', s st = .error why st' := by
  unfold stop? at h
  split at h
  · cases h
  · next stop st' hs =>
    cases h
    exact ⟨st', hs⟩

theorem Certain.absurd {P : Prop} (h : Certain (fun _ => True) s)
    (hs : s st = .error (.refused reason) st') : P :=
  ((h st).of_error hs reason rfl trivial).elim

/-- A step that cannot stop comes to its end. -/
theorem Leads.exists_ok {post : α → σ → Prop} (h : s.Leads st post fun _ _ => False) :
    ∃ a st', s st = .ok a st' ∧ post a st' := by
  rcases h.ends with ⟨a, hs, hpost⟩ | ⟨why, _, hstop⟩
  · exact ⟨a, _, hs, hpost⟩
  · exact hstop.elim

theorem each_append {g : α → Step σ ε Unit} (l more : List α) :
    each g (l ++ more) = each g l >>= fun _ => each g more := by
  induction l with
  | nil => exact (pure_bind ..).symm
  | cons a rest ih =>
    show (g a >>= fun _ => each g (rest ++ more)) = (g a >>= fun _ => each g rest) >>= _
    rw [ih, bind_assoc]

end Step

variable {b b' : Broker} {failure : Failure}

/-! ### The kernel's part -/

theorem askKernel_of_ok {α : Type} {s : Step Kernel Kernel.Refusal α} {a : α} {k : Kernel}
    (h : s b.kernel = .ok a k) : askKernel s b = .ok a { b with kernel := k } := by
  simp only [askKernel, Part.run, Step.within, Step.explain, kernelPart, h]

theorem askKernel_of_error {α : Type} {s : Step Kernel Kernel.Refusal α}
    {why : Stop Kernel.Refusal} {k : Kernel} (h : s b.kernel = .error why k) :
    askKernel s b = .error (why.map .kernel) { b with kernel := k } := by
  simp only [askKernel, Part.run, Step.within, Step.explain, kernelPart, h]

theorem askKernel_eq_ok {α : Type} {s : Step Kernel Kernel.Refusal α} {a : α}
    (h : askKernel s b = .ok a b') : ∃ k, s b.kernel = .ok a k ∧ b' = { b with kernel := k } := by
  cases hs : s b.kernel with
  | ok a k =>
    cases (askKernel_of_ok hs).symm.trans h
    exact ⟨k, rfl, rfl⟩
  | error why k => cases (askKernel_of_error hs).symm.trans h

theorem askKernel_eq_error {α : Type} {s : Step Kernel Kernel.Refusal α} {why : Stop Failure}
    (h : askKernel s b = .error why b') : ∃ stop k, s b.kernel = .error stop k ∧
      why = stop.map .kernel ∧ b' = { b with kernel := k } := by
  cases hs : s b.kernel with
  | ok a k => cases (askKernel_of_ok hs).symm.trans h
  | error stop k =>
    cases (askKernel_of_error hs).symm.trans h
    exact ⟨stop, k, rfl, rfl, rfl⟩

theorem askKernel_eq_refused {α : Type} {s : Step Kernel Kernel.Refusal α}
    (h : askKernel s b = .error (.refused failure) b') :
    ∃ reason k, s b.kernel = .error (.refused reason) k ∧ failure = .kernel reason ∧
      b' = { b with kernel := k } := by
  obtain ⟨stop, k, hs, hstop, rfl⟩ := askKernel_eq_error h
  cases stop with
  | refused reason => exact ⟨reason, k, hs, Stop.refused.inj hstop, rfl⟩
  | abort => cases hstop

/-- Ask the kernel for something, and take something back if that is refused. -/
def askOr {α : Type} (s : Step Kernel Kernel.Refusal α) (undo : Operation Unit) :
    Operation α := do
  match ← askKernel (Step.attempt s) with
  | .ok a => pure a
  | .error refusal =>
    undo
    Step.refuse (.kernel refusal)

section AskOr

variable {α : Type} {s : Step Kernel Kernel.Refusal α} {undo : Operation Unit} {b₁ : Broker}

theorem askOr_of_ok {a : α} (h : askKernel s b = .ok a b') : askOr s undo b = .ok a b' := by
  obtain ⟨k, hs, rfl⟩ := askKernel_eq_ok h
  exact Step.bind_of_ok (askKernel_of_ok (Step.attempt_of_ok hs))

/-- The first refusal is reported. -/
theorem askOr_of_refused (h : askKernel s b = .error (.refused failure) b₁)
    (hundo : undo b₁ = .ok () b') : askOr s undo b = .error (.refused failure) b' := by
  obtain ⟨reason, k, hs, rfl, rfl⟩ := askKernel_eq_refused h
  have hattempt := askKernel_of_ok (b := b) (Step.attempt_of_refused hs)
  exact (Step.bind_of_ok hattempt).trans (Step.bind_of_ok hundo)

theorem askOr_of_abort (h : askKernel s b = .error .abort b') :
    askOr s undo b = .error .abort b' := by
  obtain ⟨stop, k, hs, hstop, rfl⟩ := askKernel_eq_error h
  cases stop with
  | refused reason => cases hstop
  | abort => exact Step.bind_of_error (askKernel_of_error (Step.attempt_of_abort hs))

end AskOr

end CapabilityBroker
