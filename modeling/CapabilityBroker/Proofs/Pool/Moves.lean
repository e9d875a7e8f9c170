/-
CapabilityBroker/Proofs/Pool/Moves.lean

How the objects of a pool may change.

`Moves C P p p'` says that between `p` and `p'` no object went away: each one
stays in its slot under its generation and changes at most along `C`, and each
object that came is one that `P` allows.  Reservations come and go freely, as
nobody sees them.  Every operation but `free` moves a pool so; `free` does
too, seen from a pool in which the object was not yet there.  A pool whose
slots are numbered from one (`FromOne`) stays one along every move.
-/
import CapabilityBroker.Proofs.Pool.Slots

namespace CapabilityBroker.Pool

variable {α : Type} {C : α → α → Prop} {P : α → Prop} {p p' p'' : Pool α}

/-! ### The slot 0 -/

/-- The slots are numbered from one: the slot 0 is not used, and no search
begins there. -/
structure FromOne (p : Pool α) : Prop where
  mark : p.lowWater ≠ 0
  unused : (p.entry 0).slot = .free

theorem fromOne_of_create? {name : String} {capacity : Nat}
    (h : create? name capacity = some p) : p.FromOne := by
  obtain ⟨_, rfl⟩ := create?_eq_some_iff.1 h
  exact ⟨Nat.one_ne_zero, congrArg Entry.slot (entry_create name capacity 0)⟩

namespace FromOne

/-- A slot in use is another one. -/
theorem ne_zero {i : Nat} (h : p.FromOne) (hi : (p.entry i).slot ≠ .free) : i ≠ 0 := by
  rintro rfl
  exact hi h.unused

theorem ne_zero_of_at? {i : Nat} {o : α} (h : p.FromOne) (ho : p.at? i = some o) : i ≠ 0 := by
  obtain ⟨g, hg⟩ := at?_eq_some_iff.1 ho
  exact h.ne_zero (slot_ne_free hg)

theorem of_entry (h : p.FromOne) (hmark : p'.lowWater ≠ 0) (hentry : p'.entry 0 = p.entry 0) :
    p'.FromOne := ⟨hmark, hentry ▸ h.unused⟩

theorem unreserve (h : p.FromOne) (r : Reservation α) : (p.unreserve r).FromOne := by
  unfold Pool.unreserve
  split
  · next hr =>
    have hindex : r.index ≠ 0 := h.ne_zero (by rw [hr]; exact nofun)
    have hmark : p.lowWater ≠ 0 := h.mark
    refine h.of_entry ?_ ?_
    · show min p.lowWater r.index ≠ 0
      omega
    · rw [entry_release, if_neg hindex]
  · exact h

theorem unreserveAll (h : p.FromOne) (rs : List (Reservation α)) : (p.unreserveAll rs).FromOne := by
  induction rs generalizing p with
  | nil => exact h
  | cons r rest ih => exact ih (h.unreserve r)

theorem modify (h : p.FromOne) (hd : Handle α) (f : α → α) : (p.modify hd f).FromOne := by
  obtain ⟨entries, heq⟩ := p.modify_eq hd f
  refine h.of_entry (heq ▸ h.mark) ?_
  rw [entry_modify]
  split
  · next o ho =>
    have hindex : hd.index ≠ 0 := h.ne_zero (slot_ne_free (get?_eq_some_iff.1 ho))
    rw [if_neg hindex]
  · rfl

end FromOne

/-! ### Moves -/

/-- Objects stay and change along `C`; new ones are in `P`. -/
structure Moves (C : α → α → Prop) (P : α → Prop) (p p' : Pool α) : Prop where
  kept : ∀ i g o, p.entry i = ⟨g, .active o⟩ → ∃ o', C o o' ∧ p'.entry i = ⟨g, .active o'⟩
  added : ∀ i g o', p'.entry i = ⟨g, .active o'⟩ →
    (∃ o, C o o' ∧ p.entry i = ⟨g, .active o⟩) ∨ P o'
  based : p.FromOne → p'.FromOne

namespace Moves

/-! ### The preorder -/

theorem refl [IsPreorder α C] (p : Pool α) : Moves C P p p where
  kept := fun _ _ o h => ⟨o, refl_of C o, h⟩
  added := fun _ _ o h => .inl ⟨o, refl_of C o, h⟩
  based := id

/-- A new object may change after it came, so `P` must not be left along
`C`. -/
theorem trans [IsPreorder α C] (hP : ∀ o o', C o o' → P o → P o') (h : Moves C P p p')
    (h' : Moves C P p' p'') : Moves C P p p'' where
  kept := by
    intro i g o ho
    obtain ⟨o₁, hC, ho₁⟩ := h.kept i g o ho
    obtain ⟨o₂, hC', ho₂⟩ := h'.kept i g o₁ ho₁
    exact ⟨o₂, trans_of C hC hC', ho₂⟩
  added := by
    intro i g o₂ ho₂
    rcases h'.added i g o₂ ho₂ with ⟨o₁, hC', ho₁⟩ | hnew
    · rcases h.added i g o₁ ho₁ with ⟨o, hC, ho⟩ | hnew
      · exact .inl ⟨o, trans_of C hC hC', ho⟩
      · exact .inr (hP o₁ o₂ hC' hnew)
    · exact .inr hnew
  based := h'.based ∘ h.based

/-- A pool may be said to move more freely. -/
theorem mono {C' : α → α → Prop} {P' : α → Prop} (hC : ∀ o o', C o o' → C' o o')
    (hP : ∀ o, P o → P' o) (h : Moves C P p p') : Moves C' P' p p' where
  kept := by
    intro i g o ho
    obtain ⟨o', hc, ho'⟩ := h.kept i g o ho
    exact ⟨o', hC o o' hc, ho'⟩
  added := by
    intro i g o' ho'
    rcases h.added i g o' ho' with ⟨o, hc, ho⟩ | hnew
    · exact .inl ⟨o, hC o o' hc, ho⟩
    · exact .inr (hP o' hnew)
  based := h.based

/-- Only slots without objects change, and only to what `P` allows. -/
theorem of_entries [IsPreorder α C] (hbased : p.FromOne → p'.FromOne)
    (h : ∀ i, p'.entry i = p.entry i ∨
      (p.entry i).Idle ∧ ∀ g o, p'.entry i = ⟨g, .active o⟩ → P o) : Moves C P p p' where
  based := hbased
  kept := by
    intro i g o ho
    rcases h i with he | ⟨hidle, _⟩
    · exact ⟨o, refl_of C o, he.trans ho⟩
    · exact absurd ho hidle.ne
  added := by
    intro i g o ho
    rcases h i with he | ⟨_, hnew⟩
    · exact .inl ⟨o, refl_of C o, he ▸ ho⟩
    · exact .inr (hnew g o ho)

/-- A slot without an object had none before either. -/
theorem idle {i : Nat} (h : Moves C P p p') (hi : (p'.entry i).Idle) : (p.entry i).Idle := by
  intro o ho
  obtain ⟨o', _, ho'⟩ := h.kept i (p.entry i).generation o (by rw [← ho])
  exact hi.ne ho'

theorem get? {h : Handle α} {o : α} (hm : Moves C P p p') (ho : p.get? h = some o) :
    ∃ o', C o o' ∧ p'.get? h = some o' := by
  obtain ⟨o', hC, ho'⟩ := hm.kept _ _ _ (get?_eq_some_iff.1 ho)
  exact ⟨o', hC, get?_eq_some_iff.2 ho'⟩

theorem at? {i : Nat} {o : α} (hm : Moves C P p p') (ho : p.at? i = some o) :
    ∃ o', C o o' ∧ p'.at? i = some o' := by
  obtain ⟨g, hg⟩ := at?_eq_some_iff.1 ho
  obtain ⟨o', hC, ho'⟩ := hm.kept i g o hg
  exact ⟨o', hC, at?_eq_some ho'⟩

/-! ### The operations -/

section Operations

variable [IsPreorder α C]

theorem reserve {n : Nat} {index : Nat} (h : (p.entry index).Idle)
    (hpos : p.lowWater ≠ 0 → index ≠ 0 ∧ n ≠ 0) :
    Moves C P p { p.reserve index with lowWater := n } := by
  refine of_entries (fun hp => ?_) fun i => ?_
  · obtain ⟨hindex, hn⟩ := hpos hp.mark
    refine hp.of_entry hn ?_
    show (p.reserve index).entry 0 = _
    rw [entry_reserve, if_neg hindex]
  show (p.reserve index).entry i = _ ∨ _ ∧ ∀ g o, (p.reserve index).entry i = _ → _
  rw [entry_reserve]
  split
  · next hi =>
    subst hi
    exact .inr ⟨h, fun g o ho => by cases ho⟩
  · exact .inl rfl

theorem reserveRun {start count : Nat} (hmark : p.lowWater ≤ start)
    (h : ∀ i, start ≤ i → i < start + count → (p.entry i).Idle) :
    Moves C P p (p.reserveRun start count) := by
  refine of_entries (fun hp => ?_) fun i => ?_
  · have hpos : p.lowWater ≠ 0 := hp.mark
    refine hp.of_entry ?_ ?_
    · show (if start = p.lowWater then start + count else p.lowWater) ≠ 0
      split <;> omega
    · rw [entry_reserveRun, if_neg (by omega)]
  rw [entry_reserveRun]
  split
  · next hi => exact .inr ⟨h i hi.1 hi.2, fun g o ho => by cases ho⟩
  · exact .inl rfl

theorem publish {r : Reservation α} {o : α} (h : p.Holds r) (ho : P o) :
    Moves C P p (p.publish r o) := by
  refine of_entries (fun hp => ?_) fun i => ?_
  · have hindex : r.index ≠ 0 := hp.ne_zero (by rw [h]; exact nofun)
    exact hp.of_entry hp.mark (by rw [entry_publish, if_neg hindex])
  rw [entry_publish]
  split
  · next hi =>
    subst hi
    refine .inr ⟨Entry.Idle.of_reserved (by rw [h]), fun g o' ho' => ?_⟩
    cases ho'
    exact ho
  · exact .inl rfl

theorem givenUp {e e' : Entry α} (h : e' = e.givenUp) :
    e' = e ∨ e.Idle ∧ ∀ g o, e' = ⟨g, .active o⟩ → P o := by
  subst h
  rcases e with ⟨g, _ | _ | o⟩
  · exact .inl rfl
  · exact .inr ⟨Entry.Idle.of_reserved rfl, fun g o ho => by cases ho⟩
  · exact .inl rfl

theorem unreserve (r : Reservation α) : Moves C P p (p.unreserve r) := by
  refine of_entries (fun hp => hp.unreserve r) fun i => ?_
  rw [entry_unreserve]
  split
  · exact givenUp rfl
  · exact .inl rfl

theorem unreserveAll (rs : List (Reservation α)) : Moves C P p (p.unreserveAll rs) := by
  refine of_entries (fun hp => hp.unreserveAll rs) fun i => ?_
  rw [entry_unreserveAll]
  split
  · exact givenUp rfl
  · exact .inl rfl

theorem modify {h : Handle α} {f : α → α} (hf : ∀ o, C o (f o)) :
    Moves C P p (p.modify h f) := by
  have hother : ∀ i, h.index ≠ i ∨ p.get? h = none → (p.modify h f).entry i = p.entry i := by
    rintro i (hi | hnone)
    · rw [entry_modify]
      split
      · rw [if_neg hi]
      · rfl
    · rw [entry_modify, hnone]
  -- The one slot that may change is the one the handle reaches.
  have hown : ∀ o, p.get? h = some o →
      (p.modify h f).entry h.index = ⟨h.generation, .active (f o)⟩ := by
    intro o ho
    rw [entry_modify, ho]
    exact if_pos rfl
  refine ⟨?_, ?_, fun hp => hp.modify h f⟩
  · intro i g o ho
    by_cases hi : h.index = i
    · subst hi
      cases hget : p.get? h with
      | none => exact ⟨o, refl_of C o, (hother _ (.inr hget)).trans ho⟩
      | some o₁ =>
        have heq := (get?_eq_some_iff.1 hget).symm.trans ho
        cases heq
        exact ⟨f o, hf o, hown o hget⟩
    · exact ⟨o, refl_of C o, (hother i (.inl hi)).trans ho⟩
  · intro i g o' ho'
    left
    by_cases hi : h.index = i
    · subst hi
      cases hget : p.get? h with
      | none => exact ⟨o', refl_of C o', hother _ (.inr hget) ▸ ho'⟩
      | some o =>
        have heq := (hown o hget).symm.trans ho'
        cases heq
        exact ⟨o, hf o, get?_eq_some_iff.1 hget⟩
    · exact ⟨o', refl_of C o', hother i (.inl hi) ▸ ho'⟩

end Operations

/-- Seen from a pool where the slot held no object, freeing it loses
nothing. -/
theorem release {n : Nat} {index : Nat} (h : Moves C P p p') (hidle : (p.entry index).Idle)
    (hbusy : (p'.entry index).slot ≠ .free) :
    Moves C P p { p'.release index with active := n } := by
  have hentry : ∀ i, index ≠ i →
      ({ p'.release index with active := n } : Pool α).entry i = p'.entry i := by
    intro i hi
    show (p'.release index).entry i = _
    rw [entry_release, if_neg hi]
  refine ⟨?_, ?_, fun hp => ?_⟩
  · intro i g o ho
    have hi : index ≠ i := by
      rintro rfl
      exact hidle.ne ho
    rw [hentry i hi]
    exact h.kept i g o ho
  · intro i g o' ho'
    have hi : index ≠ i := by
      rintro rfl
      have hfree := entry_release p' index index
      rw [if_pos rfl] at hfree
      cases hfree.symm.trans ho'
    rw [hentry i hi] at ho'
    exact h.added i g o' ho'
  · have hindex : index ≠ 0 := (h.based hp).ne_zero hbusy
    have hmark : p'.lowWater ≠ 0 := (h.based hp).mark
    refine (h.based hp).of_entry ?_ (hentry 0 hindex)
    show min p'.lowWater index ≠ 0
    omega

end Moves

/-- Objects neither come, go nor change; only reservations do. -/
abbrev Reserves (p p' : Pool α) : Prop := Moves Eq (fun _ => False) p p'

/-- Every handle reaches what it reached. -/
theorem Moves.get?_eq {h : Handle α} (hm : p.Reserves p') : p'.get? h = p.get? h := by
  refine Option.ext fun o => ?_
  rw [get?_eq_some_iff, get?_eq_some_iff]
  constructor
  · intro ho
    rcases hm.added _ _ o ho with ⟨_, rfl, ho'⟩ | hnew
    · exact ho'
    · exact hnew.elim
  · intro ho
    obtain ⟨_, rfl, ho'⟩ := hm.kept _ _ o ho
    exact ho'

theorem Reserves.moves [IsPreorder α C] (h : Reserves p p') : Moves C P p p' := by
  refine h.mono (C := Eq) ?_ fun _ ho => ho.elim
  rintro o _ rfl
  exact refl_of C o

/-! ### The operations as steps -/

variable [IsPreorder α C] {ε : Type}

theorem allocate_stays :
    Step.Stays (Moves C P) (allocate : Step (Pool α) Refusal (Reservation α)) := by
  intro p
  refine allocate_leads.mono ?_ ?_
  · rintro r p' ⟨hfree, hr, rfl⟩
    obtain ⟨hle, _, hslot⟩ := firstFree?_eq_some hfree
    exact Moves.reserve (.of_free hslot) fun hmark => by omega
  · rintro why p' ⟨_, _, rfl⟩
    exact Moves.refl _

theorem allocateRun_stays (count : Nat) : Step.Stays (Moves C P)
    (allocateRun count : Step (Pool α) Refusal (List (Reservation α))) := by
  intro p
  by_cases hc : count = 0
  · unfold allocateRun
    apply Step.StaysFrom.get_bind
    rw [if_pos hc]
    exact Step.leads_pure.2 (Moves.refl _)
  · refine (allocateRun_leads hc).mono ?_ ?_
    · rintro run p' ⟨start, hrun, _, rfl⟩
      obtain ⟨hle, _, hfree⟩ := findRun?_eq_some hrun
      exact Moves.reserveRun hle fun i h₁ h₂ => Entry.Idle.of_free (hfree i h₁ h₂)
    · rintro why p' ⟨_, _, rfl⟩
      exact Moves.refl _

theorem allocateAt_stays (index : Nat) : Step.Stays (Moves C P)
    (allocateAt index : Step (Pool α) Refusal (Reservation α)) := by
  intro p
  refine allocateAt_leads.mono ?_ ?_
  · rintro r p' ⟨hindex, _, hfree, _, rfl⟩
    exact Moves.reserve (n := p.lowWater) (Entry.Idle.of_free hfree) fun hmark => ⟨hindex, hmark⟩
  · rintro why p' ⟨_, _, rfl⟩
    exact Moves.refl _

theorem activate_stays {o : α} (ho : P o) (r : Reservation α) :
    Step.Stays (Moves C P) (activate r o : Step (Pool α) ε (Handle α)) := by
  intro p
  refine activate_leads.mono ?_ ?_
  · rintro h p' ⟨hr, _, rfl⟩
    exact Moves.publish hr ho
  · rintro why p' ⟨_, _, rfl⟩
    exact Moves.refl _

end CapabilityBroker.Pool
