/-
CapabilityBroker/Proofs/Unchanged/Basic.lean

What a refused operation leaves as it was.

`b.Unchanged b'` says that the two states agree on all that the broker answers
for: its objects under their handles, its free slots, the contiguous region,
the barriers, the scheduler, and in the kernel the components with their page
tables and the frames handed out.  A refusal may use up planned faults and
slots of capability tables, and the generation of a free slot may have moved
on, since a slot that was kept for a while is then free again.

Most operations keep slots before they can be refused.  What such an operation
is refused after is said from the state in which the slots are kept already;
`Part.Apart.holding_reverts` carries it over to the state before.
-/
import CapabilityBroker.Proofs.Move.Basic
import CapabilityBroker.Proofs.Unchanged.Kernel

namespace CapabilityBroker

open Step (Stays StaysFrom Reverts Certain Undone)

/-! ### Pools -/

namespace Pool

variable {α : Type} {p p' p'' p₁ : Pool α} {i : Nat} {indices : List Nat}

/-- Every slot is free, kept or occupied as it was, and every object is under
the handle that it was under. -/
structure Same (p p' : Pool α) : Prop where
  slot : ∀ i, (p'.entry i).slot = (p.entry i).slot
  handle : ∀ i g o, p.entry i = ⟨g, .active o⟩ → p'.entry i = ⟨g, .active o⟩

theorem Same.refl (p : Pool α) : p.Same p := ⟨fun _ => rfl, fun _ _ _ => id⟩

theorem Same.trans (h : p.Same p') (h' : p'.Same p'') : p.Same p'' :=
  ⟨fun i => (h'.slot i).trans (h.slot i), fun i g o ho => h'.handle i g o (h.handle i g o ho)⟩

/-- No object came, since every slot that has one had one. -/
theorem Same.get?_eq (h : p.Same p') (hd : Handle α) : p'.get? hd = p.get? hd := by
  refine Option.ext fun o => ?_
  rw [get?_eq_some_iff, get?_eq_some_iff]
  refine ⟨fun ho => ?_, h.handle hd.index hd.generation o⟩
  have hslot : (p.entry hd.index).slot = .active o := by rw [← h.slot hd.index, ho]
  have hentry : p.entry hd.index = ⟨(p.entry hd.index).generation, .active o⟩ := by rw [← hslot]
  have hgen := (h.handle _ _ o hentry).symm.trans ho
  exact hentry.trans hgen

/-- Slots that were free are kept, and all others are as they were. -/
structure Kept (p p' : Pool α) (indices : List Nat) : Prop where
  kept : ∀ i ∈ indices, (p.entry i).slot = .free ∧ (p'.entry i).slot = .reserved
  others : ∀ i, i ∉ indices → p'.entry i = p.entry i

theorem Kept.reserve (h : (p.entry i).slot = .free) (n : Nat) :
    p.Kept { p.reserve i with lowWater := n } [i] := by
  have hentry : ∀ j, ({ p.reserve i with lowWater := n } : Pool α).entry j =
      if i = j then { p.entry j with slot := .reserved } else p.entry j := entry_reserve p i
  refine ⟨fun j hj => ?_, fun j hj => ?_⟩
  · rw [List.mem_singleton] at hj
    rw [hentry, if_pos hj.symm, hj]
    exact ⟨h, rfl⟩
  · rw [List.mem_singleton] at hj
    rw [hentry, if_neg (Ne.symm hj)]

/-- When slots that were kept are given up, everything is as it was. -/
theorem Kept.unreserveAll {rs : List (Reservation α)} (h : p.Kept p₁ (rs.map Reservation.index))
    (hs : p₁.Same p') : p.Same (p'.unreserveAll rs) := by
  refine ⟨fun i => ?_, fun i g o ho => ?_⟩
  · rw [entry_unreserveAll]
    split
    · next hmem =>
      obtain ⟨hfree, hkept⟩ := h.kept i hmem
      unfold Entry.givenUp
      rw [hs.slot i, hkept, hfree]
    · next hmem => rw [hs.slot i, h.others i hmem]
  · have hmem : i ∉ rs.map Reservation.index := by
      intro hmem
      have hfree := (h.kept i hmem).1
      rw [ho] at hfree
      cases hfree
    rw [entry_unreserveAll, if_neg hmem]
    exact hs.handle i g o ((h.others i hmem).trans ho)

theorem allocate_kept :
    allocate.Leads p (fun r p' => p.Kept p' [r.index]) (fun _ p' => p' = p) := by
  refine allocate_leads.mono ?_ fun _ _ h => h.2.2
  rintro r _ ⟨hfree, _, rfl⟩
  exact .reserve (firstFree?_eq_some hfree).2.2 _

/-- A run of slots is kept only if the pool has that many. -/
theorem allocateRun_kept {count : Nat} (hc : count ≠ 0) :
    (allocateRun count).Leads p
      (fun run p' => p.Kept p' (run.map Reservation.index) ∧ run ≠ [] ∧ count ≤ p.capacity)
      (fun _ p' => p' = p) := by
  have hfits : (allocateRun count).Leads p (fun _ _ => count ≤ p.capacity) (fun _ _ => True) := by
    apply Step.Leads.get_bind
    rw [if_neg hc]
    refine Step.Leads.ite (fun _ => Step.leads_refuse.2 trivial) fun h => ?_
    split
    · exact Step.leads_refuse.2 trivial
    · exact Step.Leads.set_bind (Step.leads_pure.2 (Nat.le_of_not_lt h))
  refine (hfits.and (allocateRun_leads hc)).mono ?_ fun _ _ h => h.2.2.2
  rintro run _ ⟨hle, start, hrun, rfl, rfl⟩
  obtain ⟨_, _, hfree⟩ := findRun?_eq_some hrun
  have hindices : (p.runOf start count).map Reservation.index = List.range' start count := by
    unfold runOf
    rw [List.map_map]
    exact List.map_id' _
  refine ⟨⟨fun i hi => ?_, fun i hi => ?_⟩, fun h => ?_, hle⟩
  · rw [hindices, List.mem_range'_1] at hi
    rw [entry_reserveRun, if_pos hi]
    exact ⟨hfree i hi.1 hi.2, rfl⟩
  · rw [hindices, List.mem_range'_1] at hi
    rw [entry_reserveRun, if_neg hi]
  · have hlength := congrArg List.length h
    rw [runOf, List.length_map, List.length_range'] at hlength
    exact hc hlength

/-! ### Objects that are taken out again -/

/-- At most one slot changed, which was free. -/
structure SameBut (p p' : Pool α) (i : Nat) : Prop where
  free : (p.entry i).slot = .free
  others : ∀ j, j ≠ i → (p'.entry j).slot = (p.entry j).slot ∧
    ∀ g o, p.entry j = ⟨g, .active o⟩ → p'.entry j = ⟨g, .active o⟩

theorem Kept.sameBut (h : p.Kept p' [i]) : p.SameBut p' i := by
  refine ⟨(h.kept i (List.mem_singleton_self _)).1, fun j hj => ?_⟩
  rw [h.others j (by simpa using hj)]
  exact ⟨rfl, fun _ _ => id⟩

theorem SameBut.same (h : p.SameBut p' i) (h' : p'.Same p'') : p.SameBut p'' i :=
  ⟨h.free, fun j hj => ⟨(h'.slot j).trans (h.others j hj).1,
    fun g o ho => h'.handle j g o ((h.others j hj).2 g o ho)⟩⟩

theorem SameBut.publish {r : Reservation α} (o : α) (h : p.SameBut p' r.index) :
    p.SameBut (p'.publish r o) r.index := by
  refine ⟨h.free, fun j hj => ?_⟩
  rw [entry_publish, if_neg (Ne.symm hj)]
  exact h.others j hj

/-- When the one slot is free again, everything is as it was. -/
theorem SameBut.release {n : Nat} (h : p.SameBut p' i) :
    p.Same { p'.release i with active := n } := by
  have hentry : ∀ j, ({ p'.release i with active := n } : Pool α).entry j =
      if i = j then ⟨(p'.entry j).generation + 1, .free⟩ else p'.entry j := entry_release p' i
  refine ⟨fun j => ?_, fun j g o ho => ?_⟩
  · rw [hentry]
    by_cases hj : i = j
    · subst hj
      rw [if_pos rfl, h.free]
    · rw [if_neg hj]
      exact (h.others j (Ne.symm hj)).1
  · have hj : i ≠ j := by
      rintro rfl
      have hfree := h.free
      rw [ho] at hfree
      cases hfree
    rw [hentry, if_neg hj]
    exact (h.others j (Ne.symm hj)).2 g o ho

end Pool

/-! ### The state -/

/-- The two states agree on all that the broker answers for. -/
structure Broker.Unchanged (b b' : Broker) : Prop where
  kernel : b.kernel.Steady b'.kernel
  components : b.components.Same b'.components
  threads : b.threads.Same b'.threads
  rcvs : b.rcvs.Same b'.rcvs
  asnds : b.asnds.Same b'.asnds
  pages : b.pages.Same b'.pages
  spans : b.spans.Same b'.spans
  contig : b'.contig = b.contig
  barriers : b'.barriers = b.barriers
  scheduler : b'.scheduler = b.scheduler

variable {b b' b'' : Broker} {ε α σ : Type}

namespace Broker.Unchanged

theorem refl (b : Broker) : b.Unchanged b :=
  ⟨.refl _, .refl _, .refl _, .refl _, .refl _, .refl _, .refl _, rfl, rfl, rfl⟩

theorem trans (h : b.Unchanged b') (h' : b'.Unchanged b'') : b.Unchanged b'' :=
  ⟨h.kernel.trans h'.kernel, h.components.trans h'.components, h.threads.trans h'.threads,
    h.rcvs.trans h'.rcvs, h.asnds.trans h'.asnds, h.pages.trans h'.pages, h.spans.trans h'.spans,
    h'.contig.trans h.contig, h'.barriers.trans h.barriers, h'.scheduler.trans h.scheduler⟩

instance : IsPreorder Broker Broker.Unchanged where
  refl := refl
  trans _ _ _ := trans

theorem of_kernel {k : Kernel} (h : b.kernel.Steady k) : b.Unchanged { b with kernel := k } :=
  ⟨h, .refl _, .refl _, .refl _, .refl _, .refl _, .refl _, rfl, rfl, rfl⟩

theorem of_notes {trail : Trail Event} {journal : Trail JournalLine} :
    b.Unchanged { b with trail, journal } :=
  ⟨.refl _, .refl _, .refl _, .refl _, .refl _, .refl _, .refl _, rfl, rfl, rfl⟩

end Broker.Unchanged

theorem note_unchanged (event : Event) :
    Stays Broker.Unchanged (note event : Step Broker ε Unit) := .modify fun _ => .of_notes

theorem log_unchanged (level : Level) (message : String) :
    Stays Broker.Unchanged (log level message : Step Broker ε Unit) := .modify fun _ => .of_notes

theorem kernelPart_unchanged : kernelPart.Allows Broker.Unchanged Kernel.Steady :=
  fun _ _ h => .of_kernel h

theorem askKernel_unchanged {s : Step Kernel Kernel.Refusal α}
    (hs : Stays (Kernel.ObjectMove fun _ => False) s) : Stays Broker.Unchanged (askKernel s) :=
  kernelPart_unchanged.run (Kernel.steady_of_objects hs).explain

/-! ### Refusals -/

/-- A failure after which the state is to be as it was: it is no defect, and
no thread was left behind on record. -/
def Failure.Plain (failure : Failure) : Prop :=
  failure.defect? = none ∧ ∀ tid, failure ≠ .threadAliasFailed tid

/-- After a plain failure of the operation, the state is as it was in
`first`. -/
abbrev Recoils (first : Broker) (s : Operation α) (b : Broker) : Prop :=
  s.Reverts Broker.Unchanged Failure.Plain first b

variable {plain : Failure → Prop}

/-- A defect is not plain. -/
theorem certain_defect {s : Step Broker Defect α} :
    (s.explain Failure.fatal).Certain Failure.Plain :=
  .of_explain fun _ h => by cases h.1

theorem certain_activate {part : Part (Pool σ)} (slot : Reservation σ) (o : σ) :
    (part.ask (Pool.activate slot o)).Certain plain :=
  Certain.within (Certain.explain fun p =>
    Pool.activate_leads.mono (fun _ _ _ => trivial) fun _ _ h reason heq => by
      rw [h.2.1] at heq
      cases heq)

theorem certain_note (event : Event) : (note event : Operation Unit).Certain plain := .modify

theorem certain_log (level : Level) (message : String) :
    (log level message : Operation Unit).Certain plain := .modify

theorem certain_drive (f : Scheduler → Scheduler) : (drive f : Operation Unit).Certain plain :=
  .modify

theorem askKernel_reverts {s : Step Kernel Kernel.Refusal α} (hs : Kernel.Recoils s) :
    (askKernel s).Reverts Broker.Unchanged plain b b := by
  refine Part.run_leads (Step.leads_explain.2 ((hs b.kernel).mono (fun _ _ _ => trivial) ?_))
  rintro why k hwhy
  cases why with
  | refused reason => exact fun _ => .of_kernel (hwhy trivial)
  | abort => trivial

/-! ### Keeping slots -/

/-- A pool of the state that changes by itself. -/
structure Part.Apart (part : Part (Pool σ)) : Prop where
  get : ∀ b p, part.get (part.put p b) = p
  self : ∀ b, part.put (part.get b) b = b
  same : ∀ b b', b.Unchanged b' → (part.get b).Same (part.get b')
  put : ∀ b b' p p', (part.put p b).Unchanged b' → (part.get b).Same p' →
    b.Unchanged (part.put p' b')

theorem componentPool_apart : componentPool.Apart where
  get _ _ := rfl
  self _ := rfl
  same _ _ h := h.components
  put _ _ _ _ h hp := { h with components := hp }

theorem threadPool_apart : threadPool.Apart where
  get _ _ := rfl
  self _ := rfl
  same _ _ h := h.threads
  put _ _ _ _ h hp := { h with threads := hp }

theorem rcvPool_apart : rcvPool.Apart where
  get _ _ := rfl
  self _ := rfl
  same _ _ h := h.rcvs
  put _ _ _ _ h hp := { h with rcvs := hp }

theorem asndPool_apart : asndPool.Apart where
  get _ _ := rfl
  self _ := rfl
  same _ _ h := h.asnds
  put _ _ _ _ h hp := { h with asnds := hp }

theorem pagePool_apart : pagePool.Apart where
  get _ _ := rfl
  self _ := rfl
  same _ _ h := h.pages
  put _ _ _ _ h hp := { h with pages := hp }

theorem spanPool_apart : spanPool.Apart where
  get _ _ := rfl
  self _ := rfl
  same _ _ h := h.spans
  put _ _ _ _ h hp := { h with spans := hp }

namespace Part.Apart

variable {part : Part (Pool σ)} {p : Pool σ}

/-- What is refused after slots were kept gives them up again. -/
theorem holdingAll_reverts (hp : part.Apart) {slots : List (Reservation σ)} {s : Operation α}
    (hk : (part.get b).Kept p (slots.map Reservation.index))
    (hs : s.Reverts Broker.Unchanged plain (part.put p b) (part.put p b)) :
    (part.holdingAll slots s).Reverts Broker.Unchanged plain b (part.put p b) := by
  refine Step.leads_cleanly.2 (hs.mono (fun _ _ => id) fun why b' hwhy => ?_)
  cases why with
  | refused reason =>
    intro hplain
    have hsame := hp.same _ _ (hwhy hplain)
    rw [hp.get] at hsame
    exact hp.put _ _ _ _ (hwhy hplain) (hk.unreserveAll hsame)
  | abort => trivial

/-- Where no slot was kept, nothing has happened. -/
theorem undone (hp : part.Apart) (why : Stop Pool.Refusal) (h : p = part.get b) :
    Undone Broker.Unchanged plain b (why.map .pool) (part.put p b) := by
  rw [h, hp.self]
  cases why with
  | refused reason => exact fun _ => .refl b
  | abort => trivial

/-- A slot is kept for an object that is then made. -/
theorem allocate_reverts (hp : part.Apart) {f : Reservation σ → Operation α}
    (hf : ∀ slot p, (f slot).Reverts Broker.Unchanged plain (part.put p b) (part.put p b)) :
    (part.ask Pool.allocate >>= fun slot => part.holding slot (f slot)).Reverts
      Broker.Unchanged plain b b := by
  refine Step.leads_bind.2 (Part.ask_leads (Pool.allocate_kept.mono ?_ fun why _ => hp.undone why))
  intro slot p hk
  show (part.holdingAll [slot] (f slot)).Reverts Broker.Unchanged plain b (part.put p b)
  exact hp.holdingAll_reverts hk (hf slot p)

/-- The same for a run of slots. -/
theorem allocateRun_reverts (hp : part.Apart) {count : Nat} (hc : count ≠ 0)
    {f : List (Reservation σ) → Operation α}
    (hf : ∀ run p, run ≠ [] →
      (f run).Reverts Broker.Unchanged plain (part.put p b) (part.put p b)) :
    (part.ask (Pool.allocateRun count) >>= fun run => part.holdingAll run (f run)).Reverts
      Broker.Unchanged plain b b := by
  refine Step.leads_bind.2
    (Part.ask_leads ((Pool.allocateRun_kept hc).mono ?_ fun why _ => hp.undone why))
  rintro run p ⟨hk, hne, _⟩
  exact hp.holdingAll_reverts hk (hf run p hne)

end Part.Apart

end CapabilityBroker
