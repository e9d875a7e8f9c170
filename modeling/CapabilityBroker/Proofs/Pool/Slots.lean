/-
CapabilityBroker/Proofs/Pool/Slots.lean

What the operations on a pool do to its slots.

The searches are characterised by the slots they pass and the slot they
find; every change is seen through `entry`.  With that, each operation has
one statement of how it ends (`allocate_leads`, `allocateRun_leads`,
`allocateAt_leads`, `activate_leads`, `free_leads`), and nothing later opens
an operation again.
-/
import CapabilityBroker.Pool
import CapabilityBroker.Proofs.Outcome

namespace CapabilityBroker.Pool

variable {α : Type} {p p' : Pool α} {i start count index : Nat} {g : UInt32} {o : α}

/-! ### Looking at slots -/

theorem at?_eq_some_iff : p.at? i = some o ↔ ∃ g, p.entry i = ⟨g, .active o⟩ := by
  unfold at?
  rcases p.entry i with ⟨g, _ | _ | o'⟩ <;> simp

theorem at?_eq_some (h : p.entry i = ⟨g, .active o⟩) : p.at? i = some o :=
  at?_eq_some_iff.2 ⟨g, h⟩

theorem slot_ne_free (h : p.entry i = ⟨g, .active o⟩) : (p.entry i).slot ≠ .free := by
  rw [h]
  exact nofun

theorem handleAt?_eq_some_iff {h : Handle α} :
    p.handleAt? i = some h ↔ ∃ o, p.entry i = ⟨h.generation, .active o⟩ ∧ h.index = i := by
  obtain ⟨index, generation⟩ := h
  unfold handleAt?
  rcases p.entry i with ⟨g, _ | _ | o'⟩ <;> simp [and_comm, eq_comm]

/-- A slot that holds no object. -/
def Entry.Idle (e : Entry α) : Prop := ∀ o, e.slot ≠ .active o

theorem Entry.Idle.of_free {e : Entry α} (h : e.slot = .free) : e.Idle := by
  intro o ho
  rw [h] at ho
  cases ho

theorem Entry.Idle.of_reserved {e : Entry α} (h : e.slot = .reserved) : e.Idle := by
  intro o ho
  rw [h] at ho
  cases ho

theorem Entry.Idle.ne {e : Entry α} (h : e.Idle) : e ≠ ⟨g, .active o⟩ := by
  rintro rfl
  exact h o rfl

/-! ### Searching -/

theorem firstFree?_eq_some (h : p.firstFree? count start = some i) :
    start ≤ i ∧ i < start + count ∧ (p.entry i).slot = .free := by
  induction count generalizing start with
  | zero => simp [firstFree?] at h
  | succ count ih =>
    unfold firstFree? at h
    split at h
    · next hfree =>
      obtain rfl := Option.some.inj h
      exact ⟨Nat.le_refl _, by omega, isFree_iff.1 hfree⟩
    · obtain ⟨h₁, h₂, h₃⟩ := ih h
      exact ⟨by omega, by omega, h₃⟩

theorem firstBusy?_eq_none (h : p.firstBusy? count start = none) :
    ∀ j, start ≤ j → j < start + count → (p.entry j).slot = .free := by
  induction count generalizing start with
  | zero => intro j h₁ h₂; omega
  | succ count ih =>
    unfold firstBusy? at h
    split at h
    · next hfree =>
      intro j h₁ h₂
      rcases Nat.lt_or_eq_of_le h₁ with h₁ | rfl
      · exact ih h j (by omega) (by omega)
      · exact isFree_iff.1 hfree
    · cases h

theorem le_of_firstBusy? (h : p.firstBusy? count start = some i) : start ≤ i := by
  induction count generalizing start with
  | zero => simp [firstBusy?] at h
  | succ count ih =>
    unfold firstBusy? at h
    split at h
    · have := ih h
      omega
    · exact Nat.le_of_eq (Option.some.inj h)

theorem findRun?_eq_some {tries : Nat} (h : p.findRun? count tries start = some i) :
    start ≤ i ∧ i + count ≤ p.capacity + 1 ∧
      ∀ j, i ≤ j → j < i + count → (p.entry j).slot = .free := by
  induction tries generalizing start with
  | zero => simp [findRun?] at h
  | succ tries ih =>
    unfold findRun? at h
    split at h
    · next hle =>
      split at h
      · next hbusy =>
        obtain rfl := Option.some.inj h
        exact ⟨Nat.le_refl _, hle, firstBusy?_eq_none hbusy⟩
      · next busy hbusy =>
        have hstart := le_of_firstBusy? hbusy
        obtain ⟨h₁, h₂, h₃⟩ := ih h
        exact ⟨by omega, h₂, h₃⟩
    · cases h

/-- The only object with a property is the one that is found. -/
theorem find?_eq_some_of_unique {q : α → Bool} {h : Handle α} (ho : p.get? h = some o)
    (hq : q o = true) (only : ∀ h' o', p.get? h' = some o' → q o' = true → h' = h) :
    p.find? q = some h := by
  have hentry := get?_eq_some_iff.1 ho
  unfold find?
  cases hfind : p.entries.toList.findSome? _ with
  | none =>
    -- The slot of the object is stored, since no object is in a fresh one.
    have hstored : p.entries[h.index]? = some ⟨h.generation, .active o⟩ := by
      unfold entry at hentry
      cases he : p.entries[h.index]? with
      | none =>
        rw [he] at hentry
        exact nomatch (Entry.mk.inj hentry).2
      | some e =>
        rw [he] at hentry
        exact congrArg some hentry
    have hmem := Std.ExtTreeMap.mem_toList_iff_getElem?_eq_some.2 hstored
    have hmiss := List.findSome?_eq_none_iff.1 hfind _ hmem
    simp [hq] at hmiss
  | some h' =>
    obtain ⟨⟨i, e⟩, hmem, hfound⟩ := List.exists_of_findSome?_eq_some hfind
    have hstored := Std.ExtTreeMap.mem_toList_iff_getElem?_eq_some.1 hmem
    rcases e with ⟨g, _ | _ | o'⟩
    · cases hfound
    · cases hfound
    · by_cases hq' : q o' = true
      · obtain rfl : (⟨i, g⟩ : Handle α) = h' := by simpa [hq'] using hfound
        refine congrArg some (only _ o' (get?_eq_some_iff.2 ?_) hq')
        unfold entry
        rw [hstored]
        rfl
      · simp [hq'] at hfound

/-! ### Slots after a change -/

/-- Keep several slots. -/
def reserveAll (p : Pool α) (indices : List Nat) : Pool α := indices.foldl reserve p

theorem entry_reserveAll (indices : List Nat) :
    (p.reserveAll indices).entry i =
      if i ∈ indices then { p.entry i with slot := .reserved } else p.entry i := by
  induction indices generalizing p with
  | nil => rfl
  | cons j rest ih =>
    show ((p.reserve j).reserveAll rest).entry i = _
    rw [ih, entry_reserve]
    by_cases hj : j = i
    · subst hj
      by_cases hm : j ∈ rest <;> simp [hm]
    · have hj' : i ≠ j := Ne.symm hj
      simp [hj, hj']

/-- A slot given up: if it was reserved, it is free under the next
generation. -/
def Entry.givenUp (e : Entry α) : Entry α :=
  match e.slot with
  | .reserved => ⟨e.generation + 1, .free⟩
  | _ => e

@[simp] theorem Entry.givenUp_givenUp (e : Entry α) : e.givenUp.givenUp = e.givenUp := by
  rcases e with ⟨g, _ | _ | o⟩ <;> rfl

theorem entry_unreserve (r : Reservation α) :
    (p.unreserve r).entry i = if r.index = i then (p.entry i).givenUp else p.entry i := by
  unfold unreserve
  split
  · next hr =>
    rw [entry_release]
    split
    · next hi => subst hi; simp [Entry.givenUp, hr]
    · rfl
  · next hr =>
    split
    · next hi =>
      subst hi
      unfold Entry.givenUp
      split
      · next h => exact absurd h hr
      · rfl
    · rfl

theorem entry_unreserveAll (rs : List (Reservation α)) :
    (p.unreserveAll rs).entry i =
      if i ∈ rs.map Reservation.index then (p.entry i).givenUp else p.entry i := by
  induction rs generalizing p with
  | nil => rfl
  | cons r rest ih =>
    show ((p.unreserve r).unreserveAll rest).entry i = _
    rw [ih, entry_unreserve]
    by_cases hr : r.index = i
    · simp [hr]
    · have hr' : i ≠ r.index := Ne.symm hr
      simp [hr, hr']

theorem entry_modify (h : Handle α) (f : α → α) :
    (p.modify h f).entry i =
      match p.get? h with
      | some o => if h.index = i then ⟨h.generation, .active (f o)⟩ else p.entry i
      | none => p.entry i := by
  unfold modify get?
  rcases he : p.entry h.index with ⟨g, _ | _ | o⟩
  · rfl
  · rfl
  · by_cases hg : g = h.generation
    · subst hg
      simp [entry_setEntry]
    · simp [hg]

/-- Through the handle of a slot, the object there is changed and no other. -/
theorem at?_modify {h : Handle α} (hi : p.handleAt? i = some h) (f : α → α) (j : Nat) :
    (p.modify h f).at? j = if j = i then (p.at? i).map f else p.at? j := by
  obtain ⟨o, ho, rfl⟩ := handleAt?_eq_some_iff.1 hi
  unfold at?
  rw [entry_modify, get?_eq_some_iff.2 ho]
  by_cases hj : j = h.index
  · subst hj
    simp [ho]
  · simp [hj, Ne.symm hj]

/-- An object that changes stays in its slot. -/
theorem modify_eq (p : Pool α) (h : Handle α) (f : α → α) :
    ∃ entries, p.modify h f = { p with entries } := by
  unfold modify
  rcases p.entry h.index with ⟨g, _ | _ | o⟩
  · exact ⟨p.entries, rfl⟩
  · exact ⟨p.entries, rfl⟩
  · dsimp only
    split
    · exact ⟨_, rfl⟩
    · exact ⟨p.entries, rfl⟩

/-! ### How the operations end -/

theorem allocate_leads :
    allocate.Leads p
      (fun r p' => p.firstFree? (p.capacity + 1 - p.lowWater) p.lowWater = some r.index ∧
        r = p.reservation r.index ∧ p' = { p.reserve r.index with lowWater := r.index + 1 })
      (fun why p' => p.firstFree? (p.capacity + 1 - p.lowWater) p.lowWater = none ∧
        why = .refused (.exhausted p.name) ∧ p' = p) := by
  apply Step.Leads.get_bind
  split
  · next h => exact Step.leads_refuse.2 ⟨h, rfl, rfl⟩
  · next index h => exact Step.Leads.set_bind (Step.leads_pure.2 ⟨h, rfl, rfl⟩)

/-- A run of slots that was kept, from its first slot on. -/
def reserveRun (p : Pool α) (start count : Nat) : Pool α :=
  { p.reserveAll (List.range' start count) with
    lowWater := if start = p.lowWater then start + count else p.lowWater }

theorem entry_reserveRun :
    (p.reserveRun start count).entry i =
      if start ≤ i ∧ i < start + count then { p.entry i with slot := .reserved }
      else p.entry i := by
  show (p.reserveAll (List.range' start count)).entry i = _
  rw [entry_reserveAll]
  simp [List.mem_range'_1]

/-- The reservations of a run of slots. -/
def runOf (p : Pool α) (start count : Nat) : List (Reservation α) :=
  (List.range' start count).map p.reservation

theorem allocateRun_leads (hc : count ≠ 0) :
    (allocateRun count).Leads p
      (fun run p' => ∃ start, p.findRun? count (p.capacity + 1) p.lowWater = some start ∧
        run = p.runOf start count ∧ p' = p.reserveRun start count)
      (fun why p' => (p.capacity < count ∨
          p.findRun? count (p.capacity + 1) p.lowWater = none) ∧
        why = .refused (.exhausted p.name) ∧ p' = p) := by
  apply Step.Leads.get_bind
  rw [if_neg hc]
  refine Step.Leads.ite (fun h => Step.leads_refuse.2 ⟨.inl h, rfl, rfl⟩) fun _ => ?_
  split
  · next h => exact Step.leads_refuse.2 ⟨.inr h, rfl, rfl⟩
  · next start h => exact Step.Leads.set_bind (Step.leads_pure.2 ⟨start, h, rfl, rfl⟩)

theorem allocateAt_leads :
    (allocateAt index).Leads p
      (fun r p' => index ≠ 0 ∧ index ≤ p.capacity ∧ (p.entry index).slot = .free ∧
        r = p.reservation index ∧ p' = p.reserve index)
      (fun why p' => ¬ (index ≠ 0 ∧ index ≤ p.capacity ∧ (p.entry index).slot = .free) ∧
        (∃ reason, why = .refused reason) ∧ p' = p) := by
  apply Step.Leads.get_bind
  refine Step.Leads.ite (fun hout => Step.leads_refuse.2 ⟨?_, ⟨_, rfl⟩, rfl⟩) fun h => ?_
  · rintro ⟨hpos, hle, _⟩
    omega
  refine Step.Leads.ite (fun hfree => ?_) fun hbusy => Step.leads_refuse.2 ⟨?_, ⟨_, rfl⟩, rfl⟩
  · refine Step.Leads.set_bind (Step.leads_pure.2 ?_)
    exact ⟨by omega, by omega, isFree_iff.1 hfree, rfl, rfl⟩
  · exact fun h => hbusy (isFree_iff.2 h.2.2)

/-- A reservation that its pool still keeps. -/
def Holds (p : Pool α) (r : Reservation α) : Prop :=
  p.entry r.index = ⟨r.generation, .reserved⟩

/-- The pool after an object is published. -/
def publish (p : Pool α) (r : Reservation α) (o : α) : Pool α :=
  { p.setEntry r.index ⟨r.generation, .active o⟩ with active := p.active + 1 }

theorem entry_publish (r : Reservation α) :
    (p.publish r o).entry i = if r.index = i then ⟨r.generation, .active o⟩ else p.entry i :=
  entry_setEntry p r.index i ⟨r.generation, .active o⟩

/-- The reservation becomes the handle of the object; all others reach what they
reached. -/
theorem get?_publish_eq_some_iff {r : Reservation α} {h : Handle α} {o' : α} (hr : p.Holds r) :
    (p.publish r o).get? h = some o' ↔ h = r.handle ∧ o = o' ∨ p.get? h = some o' := by
  obtain ⟨index, generation⟩ := h
  have hnone : p.get? ⟨r.index, generation⟩ ≠ some o' := by
    rw [Ne, get?_eq_some_iff, hr]
    simp
  rw [get?_eq_some_iff, entry_publish]
  by_cases hi : r.index = index
  · subst hi
    simp [Reservation.handle, hnone, eq_comm]
  · simp [hi, get?_eq_some_iff, Reservation.handle, Ne.symm hi]

theorem activate_leads {ε : Type} {r : Reservation α} :
    (activate r o : Step (Pool α) ε (Handle α)).Leads p
      (fun h p' => p.Holds r ∧ h = r.handle ∧ p' = p.publish r o)
      (fun why p' => ¬ p.Holds r ∧ why = .abort ∧ p' = p) := by
  apply Step.Leads.get_bind
  unfold Holds publish
  rcases p.entry r.index with ⟨g, _ | _ | o'⟩
  · exact Step.leads_abort.2 ⟨by simp, rfl, rfl⟩
  · refine Step.Leads.ite (fun hg => ?_) fun hg => ?_
    · subst hg
      exact Step.Leads.set_bind (Step.leads_pure.2 ⟨rfl, rfl, rfl⟩)
    · exact Step.leads_abort.2 ⟨fun h => hg (Entry.mk.inj h).1, rfl, rfl⟩
  · exact Step.leads_abort.2 ⟨by simp, rfl, rfl⟩

theorem free_leads {h : Handle α} :
    (free h).Leads p
      (fun o p' => p.entry h.index = ⟨h.generation, .active o⟩ ∧
        p' = { p.release h.index with active := p.active - 1 })
      (fun why p' => (∃ reason, why = .refused reason) ∧ p' = p) := by
  apply Step.Leads.get_bind
  split
  · next o ho => exact Step.Leads.set_bind (Step.leads_pure.2 ⟨get?_eq_some_iff.1 ho, rfl⟩)
  · exact Step.leads_refuse.2 ⟨⟨_, rfl⟩, rfl⟩

/-- The object that a handle reaches can be taken out. -/
theorem free_active {h : Handle α} (ho : p.get? h = some o) :
    (free h).Leads p (fun _ p' => p' = { p.release h.index with active := p.active - 1 })
      (fun _ _ => False) := by
  apply Step.Leads.get_bind
  rw [ho]
  exact Step.Leads.set_bind (Step.leads_pure.2 rfl)

end CapabilityBroker.Pool
