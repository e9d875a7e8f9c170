/-
CapabilityBroker/Proofs/Outcome.lean

How steps end.

`s.Leads st post stop` speaks of the one way in which the step `s` ends from
the state `st`: if it answers, the answer and the state are in `post`; if it
stops, the stop and the state are in `stop`.  Both ends are always spoken of,
so a statement about what a step leaves behind holds of refusals and aborts
as well.  The rules follow the combinators of `Step`, one for each.

`Stays R s` is the case where only the states matter: whatever the step comes
to, the state it leaves stands in `R` to the state it began in.  For a
preorder `R` it passes through every combinator.
-/
import Mathlib.Order.Defs.Unbundled
import CapabilityBroker.Step

namespace CapabilityBroker

namespace Step

variable {σ τ ε ε' α β : Type}

/-- How a step ends from a state: with an answer in `post`, or stopped in
`stop`. -/
def Leads (s : Step σ ε α) (st : σ) (post : α → σ → Prop) (stop : Stop ε → σ → Prop) : Prop :=
  match s st with
  | .ok a st' => post a st'
  | .error why st' => stop why st'

/-- The state that a step leaves, whatever it comes to. -/
def final (s : Step σ ε α) (st : σ) : σ :=
  match s st with
  | .ok _ st' => st'
  | .error _ st' => st'

/-- Why a step stops, if it does. -/
def stop? (s : Step σ ε α) (st : σ) : Option (Stop ε) :=
  match s st with
  | .ok _ _ => none
  | .error why _ => some why

variable {s : Step σ ε α} {f : α → Step σ ε β} {st st' : σ} {a : α} {b : β}
variable {post mid : α → σ → Prop} {stop stop' : Stop ε → σ → Prop}

/-! ### Reading a statement about an end -/

theorem Leads.of_ok (h : s.Leads st post stop) (hs : s st = .ok a st') : post a st' := by
  unfold Leads at h
  rw [hs] at h
  exact h

theorem Leads.of_error {why : Stop ε} (h : s.Leads st post stop) (hs : s st = .error why st') :
    stop why st' := by
  unfold Leads at h
  rw [hs] at h
  exact h

theorem final_of_ok (hs : s st = .ok a st') : s.final st = st' := by
  unfold Step.final
  rw [hs]

theorem Leads.final {P : σ → Prop} (h : s.Leads st (fun _ => P) (fun _ => P)) :
    P (s.final st) := by
  unfold Leads at h
  unfold Step.final
  cases hs : s st with
  | ok a st' => rw [hs] at h; exact h
  | error why st' => rw [hs] at h; exact h

/-- What is left goes by whether the step stopped, and why. -/
theorem Leads.final_of_stop? {E : Option (Stop ε) → σ → Prop}
    (h : s.Leads st (fun _ => E none) (fun why => E (some why))) :
    E (s.stop? st) (s.final st) := by
  unfold Leads at h
  unfold Step.final Step.stop?
  cases hs : s st with
  | ok a st' => rw [hs] at h; exact h
  | error why st' => rw [hs] at h; exact h

/-- Every step ends somehow. -/
theorem leads_final (s : Step σ ε α) (st : σ) :
    s.Leads st (fun _ st' => st' = s.final st) (fun _ st' => st' = s.final st) := by
  unfold Leads Step.final
  cases s st with
  | ok a st' => rfl
  | error why st' => rfl

/-- The end itself, for use with what follows it. -/
theorem leads_self (s : Step σ ε α) (st : σ) :
    s.Leads st (fun a st' => s st = .ok a st') (fun why st' => s st = .error why st') := by
  unfold Leads
  cases s st with
  | ok a st' => rfl
  | error why st' => rfl

/-- An end is an answer or a stop, in the state that is left. -/
theorem Leads.ends (h : s.Leads st post stop) :
    (∃ a, s st = .ok a (s.final st) ∧ post a (s.final st)) ∨
      ∃ why, s st = .error why (s.final st) ∧ stop why (s.final st) := by
  unfold Leads at h
  unfold Step.final
  cases hs : s st with
  | ok a st' =>
    rw [hs] at h
    exact .inl ⟨a, rfl, h⟩
  | error why st' =>
    rw [hs] at h
    exact .inr ⟨why, rfl, h⟩

/-- An end may be described less closely. -/
theorem Leads.mono {post' : α → σ → Prop} (h : s.Leads st post stop)
    (ho : ∀ a st', post a st' → post' a st') (hs : ∀ why st', stop why st' → stop' why st') :
    s.Leads st post' stop' := by
  unfold Leads at h ⊢
  cases e : s st with
  | ok a st' => rw [e] at h; exact ho a st' h
  | error why st' => rw [e] at h; exact hs why st' h

/-- What holds of every end holds of this one. -/
theorem Leads.of_forall (ho : ∀ a st', post a st') (hs : ∀ why st', stop why st') :
    s.Leads st post stop :=
  (leads_final s st).mono (fun a st' _ => ho a st') fun why st' _ => hs why st'

theorem Leads.and {post' : α → σ → Prop} (h : s.Leads st post stop)
    (h' : s.Leads st post' stop') :
    s.Leads st (fun a st' => post a st' ∧ post' a st')
      (fun why st' => stop why st' ∧ stop' why st') := by
  unfold Leads at h h' ⊢
  cases e : s st with
  | ok a st' => rw [e] at h h'; exact ⟨h, h'⟩
  | error why st' => rw [e] at h h'; exact ⟨h, h'⟩

/-- What holds under a condition may be said under it. -/
theorem Leads.given {P : Prop} (h : P → s.Leads st post stop) :
    s.Leads st (fun a st' => P → post a st') (fun why st' => P → stop why st') := by
  by_cases hp : P
  · exact (h hp).mono (fun _ _ hpost _ => hpost) fun _ _ hstop _ => hstop
  · unfold Leads
    cases s st with
    | ok a st' => exact fun hp' => absurd hp' hp
    | error why st' => exact fun hp' => absurd hp' hp

/-! ### The basic steps -/

@[simp] theorem leads_pure : (pure a : Step σ ε α).Leads st post stop ↔ post a st := Iff.rfl

@[simp] theorem leads_get {post : σ → σ → Prop} :
    (get : Step σ ε σ).Leads st post stop ↔ post st st := Iff.rfl

@[simp] theorem leads_set {post : PUnit → σ → Prop} :
    (set st' : Step σ ε PUnit).Leads st post stop ↔ post ⟨⟩ st' := Iff.rfl

@[simp] theorem leads_modify {g : σ → σ} {post : PUnit → σ → Prop} :
    (modify g : Step σ ε PUnit).Leads st post stop ↔ post ⟨⟩ (g st) := Iff.rfl

@[simp] theorem leads_refuse {reason : ε} :
    (refuse reason : Step σ ε α).Leads st post stop ↔ stop (.refused reason) st := Iff.rfl

@[simp] theorem leads_abort :
    (abort : Step σ ε α).Leads st post stop ↔ stop .abort st := Iff.rfl

@[simp] theorem leads_require {reason : ε} {o : Option α} :
    (require reason o : Step σ ε α).Leads st post stop ↔
      (∀ a, o = some a → post a st) ∧ (o = none → stop (.refused reason) st) := by
  cases o with
  | none => simp [require]
  | some a => simp [require]

@[simp] theorem leads_exact {o : Option α} :
    (exact o : Step σ ε α).Leads st post stop ↔
      (∀ a, o = some a → post a st) ∧ (o = none → stop .abort st) := by
  cases o with
  | none => simp [exact]
  | some a => simp [exact]

@[simp] theorem leads_ofExcept {r : Except ε α} :
    (ofExcept r : Step σ ε α).Leads st post stop ↔
      (∀ a, r = .ok a → post a st) ∧ (∀ why, r = .error why → stop (.refused why) st) := by
  cases r with
  | error why => simp [ofExcept]
  | ok a => simp [ofExcept]

/-! ### The combinators -/

theorem leads_bind {post : β → σ → Prop} :
    (s >>= f).Leads st post stop ↔
      s.Leads st (fun a mid => (f a).Leads mid post stop) stop := by
  show Leads (EStateM.bind s f : Step σ ε β) st post stop ↔ _
  unfold Leads EStateM.bind
  cases s st with
  | ok a mid => rfl
  | error why mid => rfl

theorem leads_map {g : α → β} {post : β → σ → Prop} :
    (g <$> s).Leads st post stop ↔ s.Leads st (fun a => post (g a)) stop := by
  show Leads (EStateM.map g s : Step σ ε β) st post stop ↔ _
  unfold Leads EStateM.map
  cases s st with
  | ok a mid => rfl
  | error why mid => rfl

/-- What is left does not depend on what is made of the answer. -/
theorem final_map {g : α → β} : (g <$> s).final st = s.final st := by
  have hleads : (g <$> s).Leads st (fun _ st' => st' = s.final st) (fun _ st' => st' = s.final st) :=
    leads_map.2 (leads_final s st)
  exact hleads.final

theorem leads_ite {c : Prop} [Decidable c] {t : Step σ ε α} :
    (if c then s else t).Leads st post stop ↔
      (c → s.Leads st post stop) ∧ (¬ c → t.Leads st post stop) := by
  by_cases h : c
  · simp [h]
  · simp [h]

theorem leads_explain {g : ε → ε'} {stop : Stop ε' → σ → Prop} :
    (s.explain g).Leads st post stop ↔ s.Leads st post (fun why => stop (why.map g)) := by
  unfold Leads explain
  cases s st with
  | ok a mid => rfl
  | error why mid => rfl

theorem leads_within {get : τ → σ} {put : σ → τ → τ} {whole : τ} {post : α → τ → Prop}
    {stop : Stop ε → τ → Prop} :
    (within get put s).Leads whole post stop ↔
      s.Leads (get whole) (fun a part => post a (put part whole))
        (fun why part => stop why (put part whole)) := by
  unfold Leads within
  cases s (get whole) with
  | ok a part => rfl
  | error why part => rfl

theorem leads_cleanly {tidy : σ → σ} :
    (cleanly tidy s).Leads st post stop ↔
      s.Leads st post (fun why st' => stop why (tidy st')) := by
  unfold Leads cleanly
  cases s st with
  | ok a mid => rfl
  | error why mid => rfl

/-- After an attempt, a refusal is an answer. -/
theorem leads_attempt {post : Except ε α → σ → Prop} {stop : Stop ε' → σ → Prop} :
    (attempt s : Step σ ε' (Except ε α)).Leads st post stop ↔
      s.Leads st (fun a => post (.ok a))
        (fun why st' => (∀ reason, why = .refused reason → post (.error reason) st') ∧
          (why = .abort → stop .abort st')) := by
  unfold Leads attempt
  cases s st with
  | ok a mid => rfl
  | error why mid =>
    cases why with
    | refused reason => simp
    | abort => simp

-- From here on the rules speak for `Leads`; no proof runs a step by itself.
attribute [irreducible] Leads

/-- A step, and then the rest from wherever it leads. -/
theorem Leads.bind {post : β → σ → Prop} (h : s.Leads st mid stop)
    (k : ∀ a st', mid a st' → (f a).Leads st' post stop) : (s >>= f).Leads st post stop :=
  leads_bind.2 (h.mono k fun _ _ => id)

/-! ### Sequences, one step at a time -/

theorem Leads.get_bind {f : σ → Step σ ε β} {post : β → σ → Prop}
    (h : (f st).Leads st post stop) : (get >>= f).Leads st post stop :=
  leads_bind.2 (leads_get.2 h)

theorem Leads.set_bind {f : PUnit → Step σ ε β} {post : β → σ → Prop}
    (h : (f ⟨⟩).Leads st' post stop) : (set st' >>= f).Leads st post stop :=
  leads_bind.2 (leads_set.2 h)

theorem Leads.modify_bind {g : σ → σ} {f : PUnit → Step σ ε β} {post : β → σ → Prop}
    (h : (f ⟨⟩).Leads (g st) post stop) : (modify g >>= f).Leads st post stop :=
  leads_bind.2 (leads_modify.2 h)

/-- Nothing follows a refusal. -/
theorem Leads.refuse_bind {reason : ε} {post : β → σ → Prop}
    (h : stop (.refused reason) st) : (Step.refuse reason >>= f).Leads st post stop :=
  leads_bind.2 (leads_refuse.2 h)

theorem Leads.exact_bind {o : Option α} {post : β → σ → Prop}
    (h : ∀ a, o = some a → (f a).Leads st post stop) (hn : o = none → stop .abort st) :
    (Step.exact o >>= f).Leads st post stop :=
  leads_bind.2 (leads_exact.2 ⟨h, hn⟩)

theorem Leads.require_bind {reason : ε} {o : Option α} {post : β → σ → Prop}
    (h : ∀ a, o = some a → (f a).Leads st post stop)
    (hn : o = none → stop (.refused reason) st) :
    (Step.require reason o >>= f).Leads st post stop :=
  leads_bind.2 (leads_require.2 ⟨h, hn⟩)

theorem Leads.ite {c : Prop} [Decidable c] {t : Step σ ε α} (h : c → s.Leads st post stop)
    (hn : ¬ c → t.Leads st post stop) : (if c then s else t).Leads st post stop :=
  leads_ite.2 ⟨h, hn⟩

/-! ### Steps that only move along a preorder -/

/-- Whatever the step comes to from `st`, its state stands in `R` to `st`. -/
def StaysFrom (R : σ → σ → Prop) (s : Step σ ε α) (st : σ) : Prop :=
  s.Leads st (fun _ => R st) (fun _ => R st)

/-- Whatever the step comes to, its state stands in `R` to the state before. -/
def Stays (R : σ → σ → Prop) (s : Step σ ε α) : Prop := ∀ st, s.StaysFrom R st

variable {R : σ → σ → Prop}

theorem StaysFrom.final (h : s.StaysFrom R st) : R st (s.final st) := Leads.final h

/-- The relation that holds of all states is no restriction. -/
theorem Stays.always : Stays (fun _ _ => True) s := fun _ =>
  .of_forall (fun _ _ => trivial) fun _ _ => trivial

theorem StaysFrom.map {g : α → β} (hs : s.StaysFrom R st) : (g <$> s).StaysFrom R st :=
  leads_map.2 hs

theorem StaysFrom.ite {c : Prop} [Decidable c] {t : Step σ ε α} (hs : c → s.StaysFrom R st)
    (ht : ¬ c → t.StaysFrom R st) : (if c then s else t).StaysFrom R st :=
  leads_ite.2 ⟨hs, ht⟩

theorem StaysFrom.explain {g : ε → ε'} (hs : s.StaysFrom R st) :
    (s.explain g).StaysFrom R st := leads_explain.2 hs

theorem StaysFrom.attempt (hs : s.StaysFrom R st) :
    (attempt s : Step σ ε' (Except ε α)).StaysFrom R st :=
  leads_attempt.2 (hs.mono (fun _ _ => id) fun _ _ h => ⟨fun _ _ => h, fun _ => h⟩)

/-- A look at the state, and then a step that may use what was seen. -/
theorem StaysFrom.get_bind {f : σ → Step σ ε β} (h : (f st).StaysFrom R st) :
    (get >>= f).StaysFrom R st := Leads.get_bind h

theorem Stays.map {g : α → β} (hs : Stays R s) : Stays R (g <$> s) := fun st => (hs st).map

theorem Stays.ite {c : Prop} [Decidable c] {t : Step σ ε α} (hs : Stays R s) (ht : Stays R t) :
    Stays R (if c then s else t) := fun st => .ite (fun _ => hs st) (fun _ => ht st)

theorem Stays.explain {g : ε → ε'} (hs : Stays R s) : Stays R (s.explain g) :=
  fun st => (hs st).explain

theorem Stays.attempt (hs : Stays R s) : Stays R (attempt s : Step σ ε' (Except ε α)) :=
  fun st => (hs st).attempt

theorem Stays.get_bind {f : σ → Step σ ε β} (h : ∀ st, (f st).StaysFrom R st) :
    Stays R (get >>= f) := fun st => .get_bind (h st)

theorem Stays.modify {g : σ → σ} (h : ∀ st, R st (g st)) :
    Stays R (modify g : Step σ ε PUnit) := fun st => leads_modify.2 (h st)

/-- A step on a part stays in `R` if the part moves along a relation that `R`
allows the part. -/
theorem StaysFrom.within {S : σ → σ → Prop} {R : τ → τ → Prop} {get : τ → σ} {put : σ → τ → τ}
    {whole : τ} (hs : s.StaysFrom S (get whole))
    (h : ∀ part, S (get whole) part → R whole (put part whole)) :
    (within get put s).StaysFrom R whole :=
  leads_within.2 (hs.mono (fun _ part => h part) (fun _ part => h part))

section Preorder

variable [IsPreorder σ R]

/-- From a state that was reached along `R`, a step that stays in `R` goes on
along it. -/
theorem StaysFrom.after (h : s.StaysFrom R st') (hr : R st st') :
    s.Leads st' (fun _ => R st) (fun _ => R st) :=
  h.mono (fun _ _ => Trans.trans hr) (fun _ _ => Trans.trans hr)

/-- In a sequence that set out from `first`, a step of which more is known than
that it stays in `R`. -/
theorem Leads.bind_from {first : σ} {post : β → σ → Prop} (hr : R first st)
    (hs : s.Leads st (fun a st' => R st st' ∧ mid a st') (fun _ => R st))
    (k : ∀ a st', R first st' → mid a st' → (f a).Leads st' post (fun _ => R first)) :
    (s >>= f).Leads st post (fun _ => R first) := by
  refine leads_bind.2 (hs.mono ?_ fun _ st' h => Trans.trans hr h)
  rintro a st' ⟨h, hmid⟩
  exact k a st' (Trans.trans hr h) hmid

/-- The same, where what was known before the step is to be carried over it. -/
theorem Leads.bind_along {first : σ} {post : β → σ → Prop} (hr : R first st)
    (hs : s.Leads st (fun a st' => R st st' ∧ mid a st') (fun _ => R st))
    (k : ∀ a st', R first st' → R st st' → mid a st' →
      (f a).Leads st' post (fun _ => R first)) :
    (s >>= f).Leads st post (fun _ => R first) :=
  Leads.bind_from hr (hs.mono (fun _ _ h => ⟨h.1, h⟩) fun _ _ => id)
    fun a st' h hmid => k a st' h hmid.1 hmid.2

/-- In a sequence that set out from `first`, a step that stays in `R`. -/
theorem StaysFrom.bind_from {first : σ} {post : β → σ → Prop} (hs : s.StaysFrom R st)
    (hr : R first st) (k : ∀ a st', R first st' → (f a).Leads st' post (fun _ => R first)) :
    (s >>= f).Leads st post (fun _ => R first) :=
  Leads.bind (hs.after hr) k

theorem StaysFrom.bind (hs : s.StaysFrom R st)
    (hf : ∀ a st', R st st' → (f a).StaysFrom R st') : (s >>= f).StaysFrom R st :=
  Leads.bind hs fun a st' hr => (hf a st' hr).after hr

theorem StaysFrom.exact_bind {o : Option α} (h : ∀ a, o = some a → (f a).StaysFrom R st) :
    (Step.exact o >>= f).StaysFrom R st :=
  Leads.exact_bind (fun a ha => h a ha) fun _ => refl_of R st

theorem StaysFrom.require_bind {reason : ε} {o : Option α}
    (h : ∀ a, o = some a → (f a).StaysFrom R st) :
    (Step.require reason o >>= f).StaysFrom R st :=
  Leads.require_bind (fun a ha => h a ha) fun _ => refl_of R st

theorem StaysFrom.refuse_bind {reason : ε} : (Step.refuse reason >>= f).StaysFrom R st :=
  Leads.refuse_bind (refl_of R st)

/-- A clean-up that moves along `R` too. -/
theorem StaysFrom.cleanly {tidy : σ → σ} (hs : s.StaysFrom R st) (ht : ∀ st, R st (tidy st)) :
    (cleanly tidy s).StaysFrom R st :=
  leads_cleanly.2 (hs.mono (fun _ _ => id) fun _ st' hr => Trans.trans hr (ht st'))

theorem Stays.pure : Stays R (pure a : Step σ ε α) := fun st => leads_pure.2 (refl_of R st)

theorem Stays.refuse {reason : ε} : Stays R (refuse reason : Step σ ε α) :=
  fun st => leads_refuse.2 (refl_of R st)

theorem Stays.abort : Stays R (abort : Step σ ε α) := fun st => leads_abort.2 (refl_of R st)

theorem Stays.require {reason : ε} {o : Option α} : Stays R (require reason o : Step σ ε α) :=
  fun st => leads_require.2 ⟨fun _ _ => refl_of R st, fun _ => refl_of R st⟩

theorem Stays.exact {o : Option α} : Stays R (exact o : Step σ ε α) :=
  fun st => leads_exact.2 ⟨fun _ _ => refl_of R st, fun _ => refl_of R st⟩

theorem Stays.bind (hs : Stays R s) (hf : ∀ a, Stays R (f a)) : Stays R (s >>= f) :=
  fun st => (hs st).bind fun a st' _ => hf a st'

theorem Stays.each {f : α → Step σ ε Unit} {l : List α} (hf : ∀ a ∈ l, Stays R (f a)) :
    Stays R (each f l) := by
  induction l with
  | nil => exact Stays.pure
  | cons a rest ih =>
    have hrest : Stays R (Step.each f rest) := ih fun a ha => hf a (List.mem_cons_of_mem _ ha)
    exact (hf a List.mem_cons_self).bind fun _ => hrest

end Preorder

/-! ### Steps that must answer -/

/-- Of the first step nothing is needed. -/
theorem Leads.forget_bind {post : β → σ → Prop}
    (hf : ∀ a st', (f a).Leads st' post (fun _ _ => True)) :
    (s >>= f).Leads st post (fun _ _ => True) :=
  leads_bind.2 (.of_forall hf fun _ _ => trivial)

/-- If the step answers, its state stands in `R` to the state before; of a stop
nothing is said. -/
def Answers (R : σ → σ → Prop) (s : Step σ ε α) : Prop :=
  ∀ st, s.Leads st (fun _ => R st) (fun _ _ => True)

/-- What holds of every end holds of the answers, and so does anything weaker. -/
theorem Stays.answers_mono {R' : σ → σ → Prop} (h : Stays R s)
    (hR : ∀ st st', R st st' → R' st st') : Answers R' s :=
  fun st => (h st).mono (fun _ => hR st) fun _ _ _ => trivial

theorem Stays.answers (h : Stays R s) : Answers R s := h.answers_mono fun _ _ => id

section Preorder

variable [IsPreorder σ R]

theorem Answers.bind_from {first : σ} {post : β → σ → Prop} (hs : Answers R s)
    (hr : R first st) (k : ∀ a st', R first st' → (f a).Leads st' post (fun _ _ => True)) :
    (s >>= f).Leads st post (fun _ _ => True) :=
  Leads.bind (hs st) fun a st' h => k a st' (trans_of R hr h)

theorem Answers.bind (hs : Answers R s) (hf : ∀ a, Answers R (f a)) : Answers R (s >>= f) :=
  fun st => hs.bind_from (refl_of R st) fun a st' h =>
    (hf a st').mono (fun _ _ => trans_of R h) fun _ _ => id

theorem Answers.each {f : α → Step σ ε Unit} {l : List α} (hf : ∀ a ∈ l, Answers R (f a)) :
    Answers R (each f l) := by
  induction l with
  | nil => exact Stays.pure.answers
  | cons a rest ih =>
    have hrest : Answers R (Step.each f rest) := ih fun a ha => hf a (List.mem_cons_of_mem _ ha)
    exact (hf a List.mem_cons_self).bind fun _ => hrest

end Preorder

/-! ### Refusals that leave nothing behind -/

/-- After a refusal for a reason in `plain`, the state stands in `R` to
`first`. -/
def Undone (R : σ → σ → Prop) (plain : ε → Prop) (first : σ) : Stop ε → σ → Prop
  | .refused reason, st => plain reason → R first st
  | .abort, _ => True

/-- If the step is refused for a reason in `plain`, nothing is left of it, and
nothing of what was done since `first`. -/
def Reverts (R : σ → σ → Prop) (plain : ε → Prop) (first : σ) (s : Step σ ε α) (st : σ) : Prop :=
  s.Leads st (fun _ _ => True) (Undone R plain first)

/-- The step is never refused for a reason in `plain`. -/
def Certain (plain : ε → Prop) (s : Step σ ε α) : Prop :=
  ∀ st, s.Leads st (fun _ _ => True) (fun why _ => ∀ reason, why = .refused reason → ¬ plain reason)

variable {plain : ε → Prop} {first : σ}

theorem StaysFrom.leads_undone (h : s.StaysFrom R st) :
    s.Leads st (fun _ => R st) (Undone R plain st) :=
  h.mono (fun _ _ => id) fun why _ hr => by
    cases why with
    | refused reason => exact fun _ => hr
    | abort => trivial

theorem Stays.reverts (h : Stays R s) : s.Reverts R plain st st :=
  (h st).leads_undone.mono (fun _ _ _ => trivial) fun _ _ => id

theorem Certain.reverts (h : Certain plain s) : s.Reverts R plain first st :=
  (h st).mono (fun _ _ => id) fun why _ hwhy => by
    cases why with
    | refused reason => exact fun hplain => absurd hplain (hwhy reason rfl)
    | abort => trivial

theorem Reverts.map {g : α → β} (h : s.Reverts R plain first st) :
    (g <$> s).Reverts R plain first st := leads_map.2 h

/-- What cannot be refused may follow. -/
theorem Reverts.certain_bind (h : s.Reverts R plain first st) (hf : ∀ a, Certain plain (f a)) :
    (s >>= f).Reverts R plain first st := Leads.bind h fun a _ _ => (hf a).reverts

theorem Certain.pure : Certain plain (pure a : Step σ ε α) := fun _ => leads_pure.2 trivial

theorem Certain.modify {g : σ → σ} : Certain plain (modify g : Step σ ε PUnit) :=
  fun _ => leads_modify.2 trivial

theorem Certain.exact {o : Option α} : Certain plain (exact o : Step σ ε α) := fun _ =>
  leads_exact.2 ⟨fun _ _ => trivial, fun _ _ h => by cases h⟩

theorem Certain.refuse {reason : ε} (h : ¬ plain reason) :
    Certain plain (refuse reason : Step σ ε α) := fun _ => leads_refuse.2 fun _ heq => by
  cases heq
  exact h

theorem Certain.explain {plain : ε' → Prop} {g : ε → ε'}
    (h : Certain (fun reason => plain (g reason)) s) : Certain plain (s.explain g) := fun st =>
  leads_explain.2 ((h st).mono (fun _ _ => id) fun why _ hwhy reason heq => by
    cases why with
    | refused cause =>
      cases heq
      exact hwhy cause rfl
    | abort => cases heq)

/-- All reasons that are given are of another kind. -/
theorem Certain.of_explain {plain : ε' → Prop} {g : ε → ε'} (h : ∀ reason, ¬ plain (g reason)) :
    Certain plain (s.explain g) := .explain fun _ =>
  .of_forall (fun _ _ => trivial) fun _ _ reason _ => h reason

/-- What is refused in an attempt is an answer. -/
theorem Certain.attempt {plain : ε' → Prop} :
    Certain plain (attempt s : Step σ ε' (Except ε α)) := fun st =>
  leads_attempt.2 (.of_forall (fun _ _ => trivial) fun _ _ =>
    ⟨fun _ _ => trivial, fun _ _ heq => by cases heq⟩)

theorem Certain.within {get : τ → σ} {put : σ → τ → τ} (h : Certain plain s) :
    Certain plain (within get put s) := fun whole => leads_within.2 (h (get whole))

theorem Certain.cleanly {tidy : σ → σ} (h : Certain plain s) : Certain plain (cleanly tidy s) :=
  fun st => leads_cleanly.2 (h st)

theorem Certain.bind (hs : Certain plain s) (hf : ∀ a, Certain plain (f a)) :
    Certain plain (s >>= f) := fun st => Leads.bind (hs st) fun a st' _ => hf a st'

theorem Certain.get_bind {f : σ → Step σ ε β} (h : ∀ st, Certain plain (f st)) :
    Certain plain (get >>= f) := fun st => Leads.get_bind (h st st)

/-- After an attempt that is not refused for a reason in `plain`, nothing else is. -/
theorem Certain.attempt_bind {f : Except ε α → Step σ ε β} (hs : Certain plain s)
    (hok : ∀ a, Certain plain (f (.ok a)))
    (hrefused : ∀ reason, ¬ plain reason → Certain plain (f (.error reason))) :
    Certain plain ((Step.attempt s : Step σ ε (Except ε α)) >>= f) := by
  refine fun st => leads_bind.2 (leads_attempt.2 ((hs st).mono (fun a st' _ => hok a st') ?_))
  refine fun why st' hwhy => ⟨fun reason heq => ?_, fun _ => nofun⟩
  exact hrefused reason (hwhy reason heq) st'

theorem Certain.each {f : α → Step σ ε Unit} {l : List α} (hf : ∀ a, Certain plain (f a)) :
    Certain plain (each f l) := by
  induction l with
  | nil => exact Certain.pure
  | cons a rest ih => exact (hf a).bind fun _ => ih

theorem Certain.ite {c : Prop} [Decidable c] {t : Step σ ε α} (hs : Certain plain s)
    (ht : Certain plain t) : Certain plain (if c then s else t) :=
  fun st => .ite (fun _ => hs st) fun _ => ht st

section Preorder

variable [IsPreorder σ R]

/-- From a state that was reached along `R`, nothing is left either. -/
theorem Reverts.after (h : s.Reverts R plain st' st) (hr : R first st') :
    s.Reverts R plain first st :=
  h.mono (fun _ _ => id) fun why _ hwhy => by
    cases why with
    | refused reason => exact fun hplain => trans_of R hr (hwhy hplain)
    | abort => trivial

/-- A look at the state comes first. -/
theorem Stays.look_bind (h : Stays Eq s) (hf : ∀ a, (f a).Reverts R plain st st) :
    (s >>= f).Reverts R plain st st := by
  refine Leads.bind ((h st).mono (fun _ _ => id) fun why st' heq => ?_) ?_
  · subst heq
    cases why with
    | refused reason => exact fun _ => refl_of R st
    | abort => trivial
  · rintro a _ rfl
    exact hf a

/-- A step that stays in `R`, and then one of which nothing is left. -/
theorem StaysFrom.reverts_bind (h : s.StaysFrom R st)
    (hf : ∀ a st', R st st' → (f a).Reverts R plain st' st') :
    (s >>= f).Reverts R plain st st :=
  Leads.bind h.leads_undone fun a st' hr => (hf a st' hr).after hr

end Preorder

end Step

end CapabilityBroker
