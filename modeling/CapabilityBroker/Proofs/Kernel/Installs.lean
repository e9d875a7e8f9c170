/-
CapabilityBroker/Proofs/Kernel/Installs.lean

How creations and aliases take slots.

Every creation and every alias takes its slots from one table, one after the other.
Either something else is in the way before the first of them, and then every table is
left alone, or the slots are taken until there are enough or the table is full
(`Installs`).  Those that were taken by then stay taken.  A thread never runs out of
numbers, as the broker's own table is full before.
-/
import CapabilityBroker.Proofs.Kernel.Course

namespace CapabilityBroker.Kernel

variable {α β : Type} {k k' : Kernel} {into : ComponentId} {slot : UInt64} {m n : Nat}
  {reaches : Prop} {slots : List UInt64} {why : Stop Refusal} {deeds : List Deed}

/-! ### Taking slots -/

/-- The step got so far, and the slots of its answer were taken, as many as it takes. -/
structure Installed (k : Kernel) (into : ComponentId) (n : Nat) (reaches : Prop)
    (slots : List UInt64) (k' : Kernel) : Prop where
  reached : reaches
  length : slots.length = n
  course : Course k (slots.map (.issues into)) k'

/-- The table was full before `n` slots were taken, and those that were taken stay
taken. -/
def CutShort (k : Kernel) (into : ComponentId) (n : Nat) (why : Stop Refusal) (k' : Kernel) :
    Prop :=
  why = .refused (.capabilityTableFull into) ∧ ∃ slots : List UInt64,
    slots.length < n ∧ Course k (slots.map (.issues into)) k' ∧ k'.room into = 0

/-- The refusal is not that of a table without slots. -/
def NotFull (why : Stop Refusal) : Prop := ∀ id, why ≠ .refused (.capabilityTableFull id)

/-- The step was cut short, or it did not get so far and left every table alone. -/
def Declined (k : Kernel) (into : ComponentId) (n : Nat) (reaches : Prop) (why : Stop Refusal)
    (k' : Kernel) : Prop :=
  reaches ∧ CutShort k into n why k' ∨ ¬ reaches ∧ NotFull why ∧ k.Idles k'

/-- If it gets so far, the step takes `n` slots of one table, unless that is full
before. -/
def Installs (k : Kernel) (into : ComponentId) (n : Nat) (reaches : Prop)
    (step : Step Kernel Refusal α) (slots : α → List UInt64) : Prop :=
  step.Leads k (fun a => Installed k into n reaches (slots a)) (Declined k into n reaches)

/-- The broker's own table and every component stay. -/
theorem Course.stays (h : Course k deeds k') :
    k'.selfId = k.selfId ∧ ∀ id, k.hasComponent id = true → k'.hasComponent id = true := by
  induction h with
  | start => exact ⟨rfl, fun _ => id⟩
  | rest _ hidle ih =>
    refine ⟨hidle.selfId.trans ih.1, fun id hid => ?_⟩
    obtain ⟨s, hs⟩ := hasComponent_iff.1 (ih.2 id hid)
    obtain ⟨s', hs', _⟩ := hidle.tables id s hs
    exact hasComponent_iff.2 ⟨s', hs'⟩
  | issue _ htaken ih =>
    obtain ⟨s, _, _, _, rfl⟩ := (allocateSlot_granting _).of_ok htaken
    exact ⟨ih.1, fun id hid => hasComponent_withSpace (ih.2 id hid)⟩
  | empty _ hemptied ih =>
    obtain ⟨s, _, _, rfl⟩ := revokeSlots_leads.of_ok hemptied
    exact ⟨ih.1, fun id hid => hasComponent_withSpace (ih.2 id hid)⟩

/-- A single slot is taken, if the component is there. -/
theorem allocateSlot_installs (into : ComponentId) :
    Installs k into 1 (k.hasComponent into = true) (allocateSlot into) fun slot => [slot] := by
  refine ((Step.leads_self _ _).and (allocateSlot_granting into)).mono ?_ ?_
  · rintro slot k' ⟨hrun, s, hs, _⟩
    exact ⟨hasComponent_iff.2 ⟨s, hs⟩, rfl, Course.start.issue hrun⟩
  · rintro why _ ⟨_, rfl, ⟨⟨s, hs, hfull⟩, rfl⟩ | ⟨hnone, rfl⟩⟩
    · refine .inl ⟨hasComponent_iff.2 ⟨s, hs⟩, rfl, [], Nat.one_pos, .start, ?_⟩
      exact room_eq_zero hs hfull
    · exact .inr ⟨not_hasComponent hnone, by simp [NotFull], .refl _⟩

/-- The next of `n` slots is taken. -/
theorem Course.next (h : Course k (slots.map (.issues into)) k')
    (hthere : k.hasComponent into = true) (hlength : slots.length < n) :
    (allocateSlot into).Leads k'
      (fun slot k'' => Course k ((slots ++ [slot]).map (.issues into)) k'')
      (CutShort k into n) := by
  refine (allocateSlot_installs into).mono ?_ ?_
  · rintro slot k'' ⟨_, _, hcourse⟩
    rw [List.map_append]
    exact h.trans hcourse
  · rintro why k'' (⟨_, hwhy, none, hnone, hcourse, hroom⟩ | ⟨hgone, _⟩)
    · -- Nothing was taken in this step, but those of the steps before stay taken.
      obtain rfl := List.length_eq_zero_iff.1 (Nat.lt_one_iff.1 hnone)
      refine ⟨hwhy, slots, hlength, ?_, hroom⟩
      simpa using h.trans hcourse
    · exact absurd (h.stays.2 into hthere) hgone

/-- After the first of three slots, the other two are taken, and that is written
down. -/
theorem Course.next_two {event : Event} {g : UInt64 → UInt64 → α}
    (h : Course k ([slot].map (.issues into)) k') (hthere : k.hasComponent into = true) :
    (do
      let a ← allocateSlot into
      let b ← allocateSlot into
      record event
      pure (g a b) : Step Kernel Refusal α).Leads k'
      (fun answer k'' => ∃ a b, answer = g a b ∧ Course k ([slot, a, b].map (.issues into)) k'')
      (CutShort k into 3) := by
  refine Step.Leads.bind (h.next hthere (by simp)) fun a k₁ h₁ => ?_
  refine Step.Leads.bind (h₁.next hthere (by simp)) fun b k₂ h₂ => ?_
  exact Step.Leads.modify_bind (Step.leads_pure.2 ⟨a, b, rfl, h₂.rest .of_notes⟩)

theorem CutShort.mono (h : CutShort k into n why k') (hle : n ≤ m) :
    CutShort k into m why k' := by
  obtain ⟨hwhy, slots, hlength, hcourse, hroom⟩ := h
  exact ⟨hwhy, slots, Nat.lt_of_lt_of_le hlength hle, hcourse, hroom⟩

namespace Installs

variable {step : Step Kernel Refusal α} {f : α → Step Kernel Refusal β}
  {slots : α → List UInt64} {slots' : β → List UInt64}

/-- The tables may rest before. -/
theorem since (h : Installs k' into n reaches step slots) (hidle : k.Idles k') :
    step.Leads k' (fun a => Installed k into n reaches (slots a)) (Declined k into n reaches) := by
  have hbefore := Course.of_idles hidle
  refine h.mono ?_ ?_
  · rintro a k'' ⟨hreached, hlength, hcourse⟩
    exact ⟨hreached, hlength, hbefore.trans hcourse⟩
  · rintro why k'' (⟨hreached, hwhy, taken, hlength, hcourse, hroom⟩ | ⟨hno, hwhy, hrest⟩)
    · exact .inl ⟨hreached, hwhy, taken, hlength, hbefore.trans hcourse, hroom⟩
    · exact .inr ⟨hno, hwhy, hidle.trans hrest⟩

/-- What follows may look at the answer and write something down. -/
theorem bind_notes (h : Installs k into n reaches step slots)
    (hf : ∀ a k', (f a).Leads k' (fun b k'' => k'.Idles k'' ∧ slots' b = slots a)
      (fun _ _ => False)) : Installs k into n reaches (step >>= f) slots' := by
  refine Step.Leads.bind h fun a k₁ ⟨hreached, hlength, hcourse⟩ => ?_
  refine (hf a k₁).mono ?_ fun _ _ => False.elim
  rintro b k₂ ⟨hidle, hslots⟩
  rw [hslots]
  exact ⟨hreached, hlength, hcourse.rest hidle⟩

/-- What follows may take more slots of the same table. -/
theorem bind_more (h : Installs k into n reaches step slots) (hle : n ≤ m)
    (hf : ∀ a k', reaches → Course k ((slots a).map (.issues into)) k' →
      (f a).Leads k'
        (fun b k'' => (slots' b).length = m ∧ Course k ((slots' b).map (.issues into)) k'')
        (CutShort k into m)) : Installs k into m reaches (step >>= f) slots' := by
  refine Step.leads_bind.2 (Step.Leads.mono h ?_ ?_)
  · intro a k₁ ⟨hreached, _, hcourse⟩
    refine (hf a k₁ hreached hcourse).mono ?_ ?_
    · exact fun b k₂ ⟨hlength, hcourse⟩ => ⟨hreached, hlength, hcourse⟩
    · exact fun why k₂ hcut => .inl ⟨hreached, hcut⟩
  · rintro why k₁ (⟨hreached, hcut⟩ | hno)
    · exact .inl ⟨hreached, hcut.mono hle⟩
    · exact .inr hno

/-- A planned fault keeps a step from getting anywhere. -/
theorem failOn {fault : Fault} {reason : String}
    (h : ∀ faults trail, Installs { k with faults, trail } into n reaches step slots) :
    Installs k into n (fault ∉ k.faults.pending ∧ reaches)
      (Kernel.failOn fault reason >>= fun _ => step) slots := by
  refine Step.leads_bind.2 ((failOn_leads fault reason).mono ?_ ?_)
  · rintro _ _ ⟨hquiet, faults, trail, rfl⟩
    have hsame : (fault ∉ k.faults.pending ∧ reaches) = reaches := by simp [hquiet]
    rw [hsame]
    exact (h faults trail).since .of_notes
  · rintro why _ ⟨hplanned, rfl, faults, trail, rfl⟩
    exact .inr ⟨fun ⟨hquiet, _⟩ => hquiet hplanned, by simp [NotFull], .of_notes⟩

end Installs

/-! ### Threads and endpoints -/

theorem newThread_installs (hk : k.Counted) (owner : ComponentId) :
    Installs k k.selfId 1 (k.hasComponent owner = true) (newThread owner)
      fun thread => [thread.cap.slot] := by
  obtain ⟨own, hown, hle⟩ := hk
  refine Step.leads_bind.2 ((knownSpace_leads owner).mono ?_ ?_)
  · rintro s k ⟨rfl, hs⟩
    have hreached : k.hasComponent owner = true := hasComponent_iff.2 ⟨s, hs⟩
    have hself : k.hasComponent k.selfId = true := hasComponent_iff.2 ⟨own, hown⟩
    apply Step.Leads.get_bind
    have htakes := allocateSlot_installs (k := k) k.selfId
    refine Step.leads_bind.2 ((htakes.and (allocateSlot_granting k.selfId)).mono ?_ ?_)
    · rintro slot _ ⟨⟨_, _, hcourse⟩, s, hs, hroom, -, rfl⟩
      obtain rfl := Option.some.inj (hown.symm.trans hs)
      apply Step.Leads.get_bind
      refine Step.Leads.exact_bind (fun nextTid hnext => ?_) fun hnone => ?_
      · rw [word64?_eq_some_iff] at hnext
        -- The slot was handed out before the thread is counted.
        have hcounted : Counted { k.withSpace k.selfId own.granting with
            nextTid, threads := k.threads.insert ⟨k.nextTid⟩ owner } := by
          refine ⟨own.granting, space?_withSpace.trans (if_pos rfl), ?_⟩
          show nextTid.toNat ≤ _
          rw [hnext, Space.toNat_granting hroom]
          exact Nat.succ_le_succ hle
        refine Step.Leads.set_bind (Step.Leads.modify_bind (Step.leads_pure.2 ?_))
        exact ⟨hreached, rfl, (hcourse.rest (.of_count hcounted)).rest .of_notes⟩
      · exact absurd (Space.succ_lt_size hroom hle) (Nat.not_lt.2 (word64?_eq_none_iff.1 hnone))
    · rintro why k' ⟨⟨_, hcut⟩ | ⟨hno, _⟩, _⟩
      · exact .inl ⟨hreached, hcut⟩
      · exact absurd hself hno
  · rintro why _ ⟨rfl, rfl, hnone⟩
    exact .inr ⟨not_hasComponent hnone, by simp [NotFull], .refl _⟩

theorem newRcv_installs (hk : k.Counted) (owner : ComponentId) :
    Installs k k.selfId 3 (k.hasComponent owner = true) (newRcv owner) Rcv.slots := by
  apply (newThread_installs hk owner).bind_more (by decide)
  intro thread k₁ _ hthread
  obtain ⟨own, hown, _⟩ := hk
  apply Step.Leads.get_bind
  rw [hthread.stays.1]
  refine (hthread.next_two (hasComponent_iff.2 ⟨own, hown⟩)).mono ?_ fun _ _ => id
  rintro _ k' ⟨rcv, tcap, rfl, hcourse⟩
  exact ⟨rfl, hcourse⟩

/-- An alias gets as far as taking slots if its thread is there. -/
theorem Installs.of_thread {tid : ThreadId} {refusal : Refusal} {step : Step Kernel Refusal α}
    {slots : α → List UInt64} (h : Installs k into n reaches step slots)
    (hrefusal : NotFull (.refused refusal)) :
    Installs k into n ((k.threadOwner? tid).isSome = true ∧ reaches)
      (do
        if ((← get).threadOwner? tid).isNone then
          Step.refuse refusal
        step) slots := by
  refine Step.Leads.get_bind (Step.Leads.ite (fun hnone => ?_) fun hsome => ?_)
  · refine Step.Leads.refuse_bind (.inr ⟨fun ⟨hthere, _⟩ => ?_, hrefusal, .refl k⟩)
    rw [← Option.not_isSome, hthere] at hnone
    cases hnone
  · rw [Bool.not_eq_true, Option.isNone_eq_false_iff] at hsome
    have hsame : ((k.threadOwner? tid).isSome = true ∧ reaches) = reaches := by simp [hsome]
    rw [hsame]
    exact h

theorem aliasThread_installs (thread : Thread) (into : ComponentId) :
    Installs k into 1
      (.failThreadAlias ∉ k.faults.pending ∧
        (k.threadOwner? thread.tid).isSome = true ∧ k.hasComponent into = true)
      (aliasThread thread into) fun cap => [cap.slot] := by
  apply Installs.failOn
  intro faults trail
  apply Installs.of_thread
  · apply (allocateSlot_installs into).bind_notes
    intro slot k'
    exact Step.Leads.modify_bind (Step.leads_pure.2 ⟨.of_notes, rfl⟩)
  · simp [NotFull]

theorem aliasRcv_installs (rcv : Rcv) (into : ComponentId) :
    Installs k into 3
      (.failRcvAlias ∉ k.faults.pending ∧
        (k.threadOwner? rcv.thread.tid).isSome = true ∧ k.hasComponent into = true)
      (aliasRcv rcv into) RcvAliases.slots := by
  apply Installs.failOn
  intro faults trail
  apply Installs.of_thread
  · apply (allocateSlot_installs into).bind_more (by decide)
    intro slot k₁ hthere hslot
    refine (hslot.next_two hthere).mono ?_ fun _ _ => id
    rintro _ k' ⟨rcv, tcap, rfl, hcourse⟩
    exact ⟨rfl, hcourse⟩
  · simp [NotFull]

theorem aliasAsnd_installs (into : ComponentId) :
    Installs k into 1 (.failAsndAlias ∉ k.faults.pending ∧ k.hasComponent into = true)
      (aliasAsnd into) fun cap => [cap.slot] := by
  apply Installs.failOn
  intro faults trail
  apply (allocateSlot_installs into).bind_notes
  intro slot k'
  exact Step.Leads.modify_bind (Step.leads_pure.2 ⟨.of_notes, rfl⟩)

theorem createAsnd_installs (rcv : Rcv) :
    Installs k k.selfId 1 (k.hasComponent k.selfId = true) (createAsnd rcv)
      fun asnd => [asnd.cap.slot] := by
  apply Step.Leads.get_bind
  apply (allocateSlot_installs k.selfId).bind_notes
  intro slot k'
  exact Step.Leads.modify_bind (Step.leads_pure.2 ⟨.of_notes, rfl⟩)

/-! ### Creations and aliases -/

namespace Maker

/-- The component whose table the slots are taken from. -/
def target (k : Kernel) : Maker → ComponentId
  | .aliasThread _ into => into
  | .aliasRcv _ into => into
  | .aliasAsnd into => into
  | _ => k.selfId

/-- The number of slots. -/
def takes : Maker → Nat
  | .createRcv _ => 3
  | .createSchedExecution _ => 3
  | .aliasRcv .. => 3
  | _ => 1

/-- The primitive gets as far as taking slots. -/
def Reaches (k : Kernel) : Maker → Prop
  | .createThread owner => .failThreadCreate ∉ k.faults.pending ∧ k.hasComponent owner = true
  | .createInitThread component => k.hasComponent component = true
  | .aliasThread thread into =>
    .failThreadAlias ∉ k.faults.pending ∧
      (k.threadOwner? thread.tid).isSome = true ∧ k.hasComponent into = true
  | .createRcv owner => .failRcvCreate ∉ k.faults.pending ∧ k.hasComponent owner = true
  | .createSchedExecution component => k.hasComponent component = true
  | .aliasRcv rcv into =>
    .failRcvAlias ∉ k.faults.pending ∧
      (k.threadOwner? rcv.thread.tid).isSome = true ∧ k.hasComponent into = true
  | .createAsnd _ => k.hasComponent k.selfId = true
  | .aliasAsnd into => .failAsndAlias ∉ k.faults.pending ∧ k.hasComponent into = true

theorem takes_pos (m : Maker) : 0 < m.takes := by
  cases m <;> simp [takes]

/-- A primitive that gets so far takes slots of a table that is there. -/
theorem Reaches.hasTarget {m : Maker} (h : m.Reaches k) (hk : k.Counted) :
    k.hasComponent (m.target k) = true := by
  obtain ⟨own, hown, _⟩ := hk
  have hself : k.hasComponent k.selfId = true := hasComponent_iff.2 ⟨own, hown⟩
  cases m with
  | aliasThread thread into => exact h.2.2
  | aliasRcv rcv into => exact h.2.2
  | aliasAsnd into => exact h.2
  -- What is created lands in the broker's own table.
  | _ => exact hself

theorem run_installs (m : Maker) (hk : k.Counted) :
    m.run.Leads k (Installed k (m.target k) m.takes (m.Reaches k))
      (Declined k (m.target k) m.takes (m.Reaches k)) := by
  cases m with
  | createThread owner =>
    apply Step.leads_map.2
    apply Installs.failOn
    intro faults trail
    exact newThread_installs (k := { k with faults, trail }) hk owner
  | createInitThread component => exact Step.leads_map.2 (newThread_installs hk component)
  | aliasThread thread into => exact Step.leads_map.2 (aliasThread_installs thread into)
  | createRcv owner =>
    apply Step.leads_map.2
    apply Installs.failOn
    intro faults trail
    exact newRcv_installs (k := { k with faults, trail }) hk owner
  | createSchedExecution component => exact Step.leads_map.2 (newRcv_installs hk component)
  | aliasRcv rcv into => exact Step.leads_map.2 (aliasRcv_installs rcv into)
  | createAsnd rcv => exact Step.leads_map.2 (createAsnd_installs rcv)
  | aliasAsnd into => exact Step.leads_map.2 (aliasAsnd_installs into)

end Maker

end CapabilityBroker.Kernel
