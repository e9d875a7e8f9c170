/-
CapabilityBroker/Proofs/Kernel/Slots.lean

Slots of capability tables are handed out once.

A creation or an alias takes slots of one table (`Installs`), a revocation empties all
the slots it names or changes nothing, and no other primitive touches a table.  So any
primitives, called in any order, follow a course of the capability tables, and what
holds along courses holds of them.  The table of a creation or an alias is reported
full exactly if that got so far as to take a slot, and fewer were left than it takes.
-/
import CapabilityBroker.Proofs.Kernel.Installs

namespace CapabilityBroker.Kernel

open Step (Stays StaysFrom)

variable {α : Type} {k₀ k k' : Kernel} {id : ComponentId} {slot : UInt64} {layout : Layout}
  {deeds more : List Deed}

/-! ### Revocations -/

/-- Slots are emptied together or not at all. -/
theorem revokeSlots_empties (owner : ComponentId) (slots : List UInt64) :
    (revokeSlots owner slots).Leads k (fun _ k' => Course k [.empties owner slots] k')
      (fun _ k' => k' = k) := by
  refine ((Step.leads_self _ _).and revokeSlots_leads).mono ?_ ?_
  · exact fun _ k' ⟨hrun, _⟩ => Course.start.empty hrun
  · exact fun why k' ⟨_, hsame, _⟩ => hsame

namespace Revocation

/-- The component whose table the slots are in. -/
def owner (k : Kernel) : Revocation → ComponentId
  | .rcvAlias _ owner => owner
  | _ => k.selfId

/-- The slots that are to be emptied. -/
def slots : Revocation → List UInt64
  | .rcvAlias aliases _ => aliases.slots
  | .rcv endpoint => endpoint.slots
  | .asnd endpoint => [endpoint.cap.slot]

/-- All the slots are emptied, or nothing happens. -/
theorem run_empties (r : Revocation) :
    r.run.Leads k (fun _ k' => Course k [.empties (r.owner k) r.slots] k')
      (fun _ k' => k' = k) := by
  cases r with
  | rcvAlias aliases owner =>
    refine Step.Leads.bind (revokeSlots_empties owner aliases.slots) fun _ k₁ hcourse => ?_
    exact Step.leads_modify.2 (hcourse.rest .of_notes)
  | rcv endpoint =>
    refine Step.Leads.get_bind (Step.Leads.ite (fun _ => Step.Leads.refuse_bind rfl) fun _ => ?_)
    refine Step.Leads.bind (revokeSlots_empties k.selfId endpoint.slots) fun _ k₁ hcourse => ?_
    exact Step.Leads.modify_bind (Step.leads_modify.2 (hcourse.rest .of_notes))
  | asnd endpoint =>
    apply Step.Leads.get_bind
    refine Step.Leads.bind (revokeSlots_empties k.selfId [endpoint.cap.slot]) fun _ k₁ hcourse => ?_
    exact Step.leads_modify.2 (hcourse.rest .of_notes)

end Revocation

/-! ### Other primitives -/

theorem createComponent_idles (id : ComponentId) (name : String) (resources : Option Resources) :
    Stays Idles (createComponent id name resources) := by
  refine .get_bind fun k => ?_
  dsimp only
  split
  · next s hs =>
    have hnamed : k.Idles (k.withSpace id { s with name := name }) := .of_space hs ⟨rfl, rfl, rfl⟩
    exact StaysFrom.bind (Step.leads_modify.2 hnamed) fun _ k' _ => record_idles _ k'
  · exact .refuse_bind
  · next hn =>
    refine .exact_bind fun s hs => ?_
    have hnew : k.Idles (k.withSpace id s) :=
      .of_new hn (.of_create? hs fun hbase => frontiersFrom_ne_zero hbase _)
    exact StaysFrom.bind (Step.leads_modify.2 hnew) fun _ k' _ => record_idles _ k'

theorem createVmComponent_idles (id : ComponentId) (name : String) :
    Stays Idles (createVmComponent id name) := by
  refine .get_bind fun k => .ite (fun _ => .refuse_bind) fun h => ?_
  refine .exact_bind fun s hs => ?_
  obtain ⟨hlive, hlimit, hroot⟩ : s.NewTable k.layout := .of_create? hs fun hbase => hbase
  have hnew : k.Idles (k.withSpace id { s with isVm := true }) :=
    .of_new (space?_eq_none h) ⟨hlive, hlimit, hroot⟩
  exact StaysFrom.bind (Step.leads_modify.2 hnew) fun _ k' _ => record_idles _ k'

theorem initUlk_idles : Stays Idles initUlk :=
  .get_bind fun _ => .ite (fun _ => .refuse_bind) fun _ => Step.leads_set.2 .of_notes

theorem mapUlk_idles (id : ComponentId) : Stays Idles (mapUlk id) := by
  refine .get_bind fun k => .ite (fun _ => .refuse_bind) fun _ => ?_
  refine knownSpace_bind fun s hs => .ite (fun _ => .refuse_bind) fun _ => ?_
  have hmapped : k.Idles (k.withSpace id { s with ulkMapped := true }) :=
    .of_space hs ⟨rfl, rfl, rfl⟩
  exact StaysFrom.bind (Step.leads_modify.2 hmapped) fun _ k' _ => record_idles _ k'

/-- A primitive on memory. -/
theorem idles_of_memory {step : Step Kernel Refusal α} (ha : Stays (Advance .any) step)
    (hm : Stays MemoryMove step) : Stays Idles step := fun k =>
  ((ha k).and (hm k)).mono (fun _ _ h => .of_memory h.2 h.1) fun _ _ h => .of_memory h.2 h.1

theorem Call.run_idles (c : Call) : Stays Idles c.run := by
  cases c with
  | frames first count align into =>
    refine idles_of_memory (fun k => ?_) (aliasFrames_memory first count align into)
    exact (aliasFrames_leads first count align trivial).mono (fun _ _ h => h.1) fun _ _ => id
  | device into paddr size =>
    exact idles_of_memory (mapDevice_stays paddr size trivial) (mapDevice_memory into paddr size)

/-! ### What every primitive does -/

/-- A creation or an alias hands out the slots of its answer, or fewer than it takes if
it is stopped. -/
def Maker.Does (k : Kernel) (deeds : List Deed) (m : Maker) : Prop :=
  m.run.Leads k
    (fun slots _ => slots.length = m.takes ∧ deeds = slots.map (.issues (m.target k)))
    fun _ _ => ∃ slots : List UInt64,
      slots.length < m.takes ∧ deeds = slots.map (.issues (m.target k))

/-- A revocation empties its slots, or nothing if it is stopped. -/
def Revocation.Does (k : Kernel) (deeds : List Deed) (r : Revocation) : Prop :=
  r.run.Leads k (fun _ _ => deeds = [.empties (r.owner k) r.slots]) fun _ _ => deeds = []

/-- What a primitive does to the capability tables. -/
def Primitive.Does (k : Kernel) (deeds : List Deed) : Primitive → Prop
  | .make m => m.Does k deeds
  | .revoke r => r.Does k deeds
  | _ => deeds = []

theorem Maker.exists_course (m : Maker) (hk : k.Counted) :
    ∃ deeds, m.Does k deeds ∧ Course k deeds (m.run.final k) := by
  unfold Maker.Does Step.Leads
  rcases (m.run_installs hk).ends with ⟨slots, hrun, _, hlength, hcourse⟩ | ⟨why, hrun, hwhy⟩
  · rw [hrun]
    exact ⟨_, ⟨hlength, rfl⟩, hcourse⟩
  · rw [hrun]
    rcases hwhy with ⟨_, _, slots, hlength, hcourse, _⟩ | ⟨_, _, hidle⟩
    · exact ⟨_, ⟨slots, hlength, rfl⟩, hcourse⟩
    · exact ⟨[], ⟨[], m.takes_pos, rfl⟩, .of_idles hidle⟩

theorem Revocation.exists_course (r : Revocation) :
    ∃ deeds, r.Does k deeds ∧ Course k deeds (r.run.final k) := by
  unfold Revocation.Does Step.Leads
  rcases (r.run_empties (k := k)).ends with ⟨_, hrun, hcourse⟩ | ⟨why, hrun, hsame⟩
  · rw [hrun]
    exact ⟨_, rfl, hcourse⟩
  · rw [hrun, hsame]
    exact ⟨[], rfl, .start⟩

/-- Every primitive goes on with the course. -/
theorem Primitive.exists_course (p : Primitive) (hk : k.Counted) :
    ∃ deeds, p.Does k deeds ∧ Course k deeds (p.run.final k) := by
  have hidles : ∀ {step : Step Kernel Refusal Unit}, Stays Idles step →
      Course k [] (step.final k) := fun hstep => .of_idles (hstep k).final
  cases p with
  | make m =>
    obtain ⟨deeds, hdoes, hcourse⟩ := m.exists_course hk
    refine ⟨deeds, hdoes, ?_⟩
    show Course k deeds (((fun _ => ()) <$> m.run).final k)
    rw [Step.final_map]
    exact hcourse
  | revoke r => exact r.exists_course
  | createComponent id name resources =>
    exact ⟨[], rfl, hidles (createComponent_idles id name resources)⟩
  | createVmComponent id name => exact ⟨[], rfl, hidles (createVmComponent_idles id name)⟩
  | reserveFrames count =>
    exact ⟨[], rfl, hidles (idles_of_memory (reserveFrames_stays count)
      (reserveFrames_memory count)).map⟩
  | map call => exact ⟨[], rfl, hidles call.run_idles.map⟩
  | initUlk => exact ⟨[], rfl, hidles initUlk_idles⟩
  | mapUlk component => exact ⟨[], rfl, hidles (mapUlk_idles component)⟩

/-- Any primitives, called one after the other, follow a course. -/
theorem Tallied.exists_course (h : k.Tallied layout deeds) (hbase : layout.captblBase ≠ 0)
    (ps : List Primitive) : ∃ more, Course k more (Primitive.runAll ps k) := by
  induction ps generalizing deeds k with
  | nil => exact ⟨[], .start⟩
  | cons p ps ih =>
    obtain ⟨now, _, hnow⟩ := p.exists_course h.counted
    obtain ⟨later, hlater⟩ := ih (hnow.tallied h hbase)
    exact ⟨now ++ later, hnow.trans hlater⟩

/-! ### Full tables -/

/-- A table is reported full exactly if slots of it were to be taken, and fewer were
never handed out than that. -/
theorem Maker.full_iff (m : Maker) (h : k.Tallied layout deeds) (hbase : layout.captblBase ≠ 0) :
    (∃ k', m.run k = .error (.refused (.capabilityTableFull id)) k') ↔
      id = m.target k ∧ m.Reaches k ∧
        layout.captblSize.toNat - (issued id deeds).length < m.takes := by
  constructor
  · rintro ⟨k', hrun⟩
    rcases (m.run_installs h.counted).of_error hrun with
      ⟨hreached, hwhy, slots, hlength, hcourse, hroom⟩ | ⟨_, hother, _⟩
    · obtain rfl : id = m.target k := by simpa using hwhy
      -- What was taken filled the table up, and it was not enough.
      have hthere := hcourse.stays.2 _ (hreached.hasTarget h.counted)
      rw [(hcourse.tallied h hbase).room_eq hthere, issued_append, issued_map_issues,
        List.length_append] at hroom
      exact ⟨rfl, hreached, by omega⟩
    · exact absurd rfl (hother id)
  · rintro ⟨rfl, hreached, hfew⟩
    rcases (m.run_installs h.counted).ends with
      ⟨slots, _, _, hlength, hcourse⟩ | ⟨why, hrun, ⟨_, rfl, _⟩ | ⟨hno, _⟩⟩
    · -- A table never hands out more slots than it has.
      have hfits := (hcourse.tallied h hbase).length_le (m.target k)
      rw [issued_append, issued_map_issues, List.length_append] at hfits
      omega
    · exact ⟨_, hrun⟩
    · exact absurd hreached hno

/-! ### Slots are handed out once -/

/-- What holds of the slots of all capability tables after these deeds. -/
structure IssuedOnce (layout : Layout) (deeds : List Deed) (k : Kernel) : Prop where
  /-- Each slot of a table lies behind those that were handed out before. -/
  ascending : ∀ id, (issued id deeds).Pairwise (· < ·)
  /-- No slot is the null slot, and all lie within their table. -/
  within : ∀ id, ∀ slot ∈ issued id deeds,
    slot ≠ 0 ∧ ∃ s, k.space? id = some s ∧ slot < s.captblLimit
  /-- The live slots are those that were handed out and not emptied. -/
  live : ∀ id slot, k.holds id slot = true ↔ slot ∈ issued id deeds ∧ slot ∉ revoked id deeds
  /-- What was emptied stays empty, whatever follows. -/
  dead : ∀ more k', Course k more k' → ∀ id, ∀ slot ∈ revoked id deeds, k'.holds id slot = false
  /-- A table is reported full if more slots are to be taken than were never handed
  out. -/
  full : ∀ (m : Maker) id, (∃ k', m.run k = .error (.refused (.capabilityTableFull id)) k') ↔
    id = m.target k ∧ m.Reaches k ∧ layout.captblSize.toNat - (issued id deeds).length < m.takes

theorem Tallied.issuedOnce (h : k.Tallied layout deeds) (hbase : layout.captblBase ≠ 0) :
    k.IssuedOnce layout deeds where
  ascending := h.ascending
  within _ _ hslot := h.within hslot
  live _ _ := h.holds_iff
  dead more k' hcourse id slot hslot := by
    rw [← Bool.not_eq_true, (hcourse.tallied h hbase).holds_iff, revoked_append]
    exact fun ⟨_, hgone⟩ => hgone (List.mem_append_left _ hslot)
  full m _ := m.full_iff h hbase

/-- From a new kernel whose tables begin behind the null slot, any primitives follow a
course of the capability tables.  At every point of a course the next primitive goes on
with it, and the slots of each table were handed out once.  A revocation that is
refused changes nothing. -/
theorem slots_are_never_reused {selfId : ComponentId} {faults : List Fault}
    (created : create? selfId layout faults = some k₀) (hbase : layout.captblBase ≠ 0) :
    (∀ ps, ∃ deeds, Course k₀ deeds (Primitive.runAll ps k₀)) ∧
    (∀ deeds k, Course k₀ deeds k →
      (∀ p : Primitive, ∃ more, p.Does k more ∧ Course k more (p.run.final k)) ∧
      k.IssuedOnce layout deeds) ∧
    ∀ (r : Revocation) k why k', r.run k = .error why k' → k' = k := by
  have hnew : k₀.Tallied layout [] := .of_create? created hbase
  refine ⟨hnew.exists_course hbase, fun deeds k hcourse => ?_, fun r k why k' hrun => ?_⟩
  · have htallied : k.Tallied layout deeds := hcourse.tallied hnew hbase
    exact ⟨fun p => p.exists_course htallied.counted, htallied.issuedOnce hbase⟩
  · exact r.run_empties.of_error hrun

/-- A receive endpoint is made and revoked, and a second one finds a single slot left.
That slot stays taken, and the table of four is full with one slot live. -/
theorem revoked_slots_do_not_return :
    ∃ k₀ deeds k, create? ⟨1⟩ { Layout.standard with captblSize := 4 } [] = some k₀ ∧
      k = Primitive.runAll [.createComponent ⟨2⟩ "client" none, .make (.createRcv ⟨2⟩),
        .revoke (.rcv ⟨⟨17⟩, ⟨⟨16⟩, ⟨1⟩, ⟨2⟩⟩, ⟨18⟩, ⟨2⟩⟩), .make (.createRcv ⟨2⟩)] k₀ ∧
      Course k₀ deeds k ∧ k.holds ⟨1⟩ 16 = false ∧ k.holds ⟨1⟩ 19 = true ∧
      19 ∈ issued ⟨1⟩ deeds ∧ 4 ≤ (issued ⟨1⟩ deeds).length := by
  have hshow : (create? ⟨1⟩ { Layout.standard with captblSize := 4 } []).any (fun k₀ =>
      let k := Primitive.runAll [.createComponent ⟨2⟩ "client" none, .make (.createRcv ⟨2⟩),
        .revoke (.rcv ⟨⟨17⟩, ⟨⟨16⟩, ⟨1⟩, ⟨2⟩⟩, ⟨18⟩, ⟨2⟩⟩), .make (.createRcv ⟨2⟩)] k₀
      decide (k.holds ⟨1⟩ 16 = false ∧ k.holds ⟨1⟩ 19 = true) &&
        match (Maker.createThread ⟨2⟩).run k with
        | .error why _ => decide (why = .refused (.capabilityTableFull ⟨1⟩))
        | .ok .. => false) = true := by decide +kernel
  obtain ⟨k₀, hk₀, hshow⟩ := (Option.any_eq_true _ _).1 hshow
  obtain ⟨hlive, hshow⟩ := (Bool.and_eq_true _ _).mp hshow
  obtain ⟨hgone, hlive⟩ := of_decide_eq_true hlive
  obtain ⟨hruns, hcourses, _⟩ := slots_are_never_reused hk₀ (by decide)
  obtain ⟨deeds, hcourse⟩ := hruns _
  obtain ⟨_, honce⟩ := hcourses deeds _ hcourse
  refine ⟨k₀, deeds, _, hk₀, rfl, hcourse, hgone, hlive, ?_, ?_⟩
  · exact ((honce.live ⟨1⟩ 19).1 hlive).1
  · split at hshow
    · next why k' hfull =>
      obtain rfl := of_decide_eq_true hshow
      have hleft := ((honce.full (.createThread ⟨2⟩) ⟨1⟩).1 ⟨k', hfull⟩).2.2
      change 4 - _ < 1 at hleft
      omega
    · cases hshow

end CapabilityBroker.Kernel
