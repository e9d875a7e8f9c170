/-
CapabilityBroker/Proofs/Sequence.lean

What steps need, one after the other.

`s.Needs st P post` says that the step `s` comes to its end from `st` exactly if
`P` holds, and what is so at the end.  Where steps follow one another, all of them
must find what they need.  For a step that is applied to every member of a list this
means that each member finds what it needs after those before it (`Successively`).
What is needed is mostly one of three things: something of the member alone, a name
that no earlier member has, or a share of what all members may take together.  Each
of the three comes to a statement about the list as a whole.
-/
import Mathlib.Algebra.Ring.Nat
import CapabilityBroker.Proofs.Outcome

namespace CapabilityBroker

/-! ### Needs -/

namespace Step

variable {σ ε ε' α β : Type} {s : Step σ ε α} {f : α → Step σ ε β} {st : σ} {a : α} {P Q : Prop}
  {mid post post' : α → σ → Prop}

/-- The step comes to its end exactly if `P` holds, and then with `post`. -/
def Needs (s : Step σ ε α) (st : σ) (P : Prop) (post : α → σ → Prop) : Prop :=
  s.Leads st (fun a st' => P ∧ post a st') (fun _ _ => ¬ P)

theorem needs_pure : (pure a : Step σ ε α).Needs st P post ↔ P ∧ post a st := leads_pure

namespace Needs

theorem mono (h : s.Needs st P post) (hpost : ∀ a st', P → post a st' → post' a st') :
    s.Needs st P post' :=
  Leads.mono h (fun a st' hdone => ⟨hdone.1, hpost a st' hdone.1 hdone.2⟩) fun _ _ => id

theorem congr (h : s.Needs st P post) (hPQ : P ↔ Q) : s.Needs st Q post :=
  hPQ.eq ▸ h

/-- What is known of the step anyway. -/
theorem also {R : σ → σ → Prop} (h : s.Needs st P post) (hs : s.StaysFrom R st) :
    s.Needs st P (fun a st' => R st st' ∧ post a st') :=
  (Leads.and hs h).mono (fun _ _ hdone => ⟨hdone.2.1, hdone.1, hdone.2.2⟩) fun _ _ => And.right

theorem explain {g : ε → ε'} (h : s.Needs st P post) : (s.explain g).Needs st P post :=
  leads_explain.2 h

/-- A step that needs a part of what the whole sequence needs. -/
theorem bind {post : β → σ → Prop} (h : s.Needs st P mid) (hQ : Q → P)
    (hf : ∀ a st', P → mid a st' → (f a).Needs st' Q post) : (s >>= f).Needs st Q post :=
  leads_bind.2 (Leads.mono h (fun a st' hdone => hf a st' hdone.1 hdone.2)
    fun _ _ hnot hneeds => hnot (hQ hneeds))

end Needs

/-- A step that cannot stop needs nothing. -/
theorem Leads.needs_bind {post : β → σ → Prop} (h : s.Leads st mid (fun _ _ => False))
    (hf : ∀ a st', mid a st' → (f a).Needs st' Q post) : (s >>= f).Needs st Q post :=
  leads_bind.2 (h.mono hf fun _ _ => False.elim)

end Step

/-! ### Sequences -/

variable {σ ε α β : Type} {needs needs' : List α → α → Prop} {done l : List α}

/-- Along a list, each member finds what it needs after those before it, the members
in `done` included. -/
def Successively (needs : List α → α → Prop) : List α → List α → Prop
  | _, [] => True
  | done, a :: rest => needs done a ∧ Successively needs (done ++ [a]) rest

/-- If it is known what a step needs for a member, it is known what its application
to a whole list needs. -/
theorem Step.needs_each {f : α → Step σ ε Unit} {I : List α → σ → Prop} {st : σ}
    (hf : ∀ done a st, I done st → (f a).Needs st (needs done a) (fun _ => I (done ++ [a])))
    (h : I done st) :
    (each f l).Needs st (Successively needs done l) (fun _ => I (done ++ l)) := by
  induction l generalizing done st with
  | nil => exact needs_pure.2 ⟨trivial, (List.append_nil done).symm ▸ h⟩
  | cons a rest ih =>
    refine (hf done a st h).bind And.left fun _ st' ha hI => ?_
    have hrest := (ih hI).congr (and_iff_right ha).symm
    rwa [List.append_assoc] at hrest

namespace Successively

theorem and_iff : Successively (fun done a => needs done a ∧ needs' done a) done l ↔
    Successively needs done l ∧ Successively needs' done l := by
  induction l generalizing done with
  | nil => simp [Successively]
  | cons a rest ih =>
    unfold Successively
    rw [ih, and_and_and_comm]

/-- Something of each member alone. -/
theorem forall_iff {P : α → Prop} : Successively (fun _ a => P a) done l ↔ ∀ a ∈ l, P a := by
  induction l generalizing done with
  | nil => simp [Successively]
  | cons a rest ih =>
    unfold Successively
    rw [ih, List.forall_mem_cons]

/-- A name that no member before has. -/
theorem fresh_iff {name : α → β} :
    Successively (fun done a => name a ∉ done.map name) done l ↔
      (l.map name).Nodup ∧ ∀ a ∈ l, name a ∉ done.map name := by
  induction l generalizing done with
  | nil => simp [Successively]
  | cons a rest ih =>
    have hsnoc : ∀ n, n ∉ (done ++ [a]).map name ↔ n ∉ done.map name ∧ name a ≠ n := by
      intro n
      rw [List.map_append, List.mem_append, not_or, List.map_singleton, List.mem_singleton, ne_comm]
    have hapart : name a ∉ rest.map name ↔ ∀ b ∈ rest, name a ≠ name b := by
      simp only [List.mem_map, not_exists, not_and, ne_comm]
    unfold Successively
    simp only [ih, hsnoc, List.map_cons, List.nodup_cons, List.forall_mem_cons, hapart]
    constructor
    · rintro ⟨ha, hnodup, hrest⟩
      exact ⟨⟨fun b hb => (hrest b hb).2, hnodup⟩, ha, fun b hb => (hrest b hb).1⟩
    · rintro ⟨⟨hne, hnodup⟩, ha, hrest⟩
      exact ⟨ha, hnodup, fun b hb => ⟨hrest b hb, hne b hb⟩⟩

/-- A share of what all members may take together. -/
theorem within_iff {share : α → Nat} {total : Nat} (h : (done.map share).sum ≤ total) :
    Successively (fun done a => (done.map share).sum + share a ≤ total) done l ↔
      (done.map share).sum + (l.map share).sum ≤ total := by
  induction l generalizing done with
  | nil => simpa [Successively] using h
  | cons a rest ih =>
    have hsnoc : ((done ++ [a]).map share).sum = (done.map share).sum + share a := by simp
    unfold Successively
    rw [List.map_cons, List.sum_cons, ← Nat.add_assoc]
    constructor
    · rintro ⟨ha, hrest⟩
      rwa [ih (hsnoc ▸ ha), hsnoc] at hrest
    · intro hall
      have ha : (done.map share).sum + share a ≤ total := Nat.le_trans (Nat.le_add_right _ _) hall
      refine ⟨ha, ?_⟩
      rwa [ih (hsnoc ▸ ha), hsnoc]

end Successively

end CapabilityBroker
