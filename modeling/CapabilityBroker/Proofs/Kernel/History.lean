/-
CapabilityBroker/Proofs/Kernel/History.lean

The mappings of a kernel, from its first state on.

A history lists every call that may put pages into a page table, each with the
kernel that it was issued on; between two calls the kernel may do anything that
touches no page table (`Rests`).  The calls that answered are the mappings on the
kernel's trail, in the same order (`History.mappings`).  A call that aborts may
leave pages behind, but only if they fill the address space to its end, and then
they are there for good (`History.not_spills`).
-/
import CapabilityBroker.Proofs.Kernel.Calls

namespace CapabilityBroker.Kernel

open Step (Stays StaysFrom)

variable {k₀ k k' k'' : Kernel} {id : ComponentId} {vaddr : Vaddr} {c : Call}
  {why : Stop Refusal}

/-! ### Between the calls -/

/-- Page tables and frontiers are as they were, and no mapping was written down.
Components may have come, with nothing mapped, and with a heap above the null
page where the machine has one. -/
structure Rests (k k' : Kernel) : Prop where
  layout : k'.layout = k.layout
  mappings : k'.mappings = k.mappings
  frontiers : ∀ id frontier, k.frontier? id = some frontier → k'.frontier? id = some frontier
  pages : ∀ id n, k'.frameAt? id n = k.frameAt? id n
  seeded : k.layout.heapBase ≠ .null →
    ∀ id, k.frontier? id = none → k'.frontier? id ≠ some .null

namespace Rests

/-- The components are untouched. -/
theorem of_components (hc : k'.components = k.components) (hl : k'.layout = k.layout)
    (hm : k'.mappings = k.mappings) : k.Rests k' := by
  have hfrontier : ∀ id, k'.frontier? id = k.frontier? id := fun id => by
    unfold frontier? space?
    rw [hc]
  refine ⟨hl, hm, fun id frontier => (hfrontier id).trans, fun id n => ?_, ?_⟩
  · unfold frameAt? space?
    rw [hc]
  · exact fun _ id hnone hnull => by cases ((hfrontier id).trans hnone).symm.trans hnull

end Rests

theorem ObjectMove.rests {adds : ComponentId → Prop} (h : ObjectMove adds k k') : k.Rests k' where
  layout := h.layout
  mappings := h.mappings
  frontiers id frontier hfrontier := by
    obtain ⟨s, hs, rfl⟩ := Option.map_eq_some_iff.1 hfrontier
    obtain ⟨s', hs', hm⟩ := h.spaces id s hs
    rw [frontier?_eq hs', hm.heap]
  pages id n := by
    cases hs : k.space? id with
    | some s =>
      obtain ⟨s', hs', hm⟩ := h.spaces id s hs
      rw [frameAt?_eq hs', frameAt?_eq hs, hm.pages]
    | none =>
      have hnone : k.frameAt? id n = none := frameAt?_eq_none hs
      cases hs' : k'.space? id with
      | none => exact (frameAt?_eq_none hs').trans hnone.symm
      | some s' =>
        rw [hnone, frameAt?_eq hs', (h.fresh id s' hs hs').2]
        exact Std.ExtTreeMap.getElem?_empty
  seeded hbase id hnone := by
    have hs : k.space? id = none := Option.map_eq_none_iff.1 hnone
    intro hnull
    obtain ⟨s', hs', hheap⟩ := Option.map_eq_some_iff.1 hnull
    exact h.seeded hbase id s' hs hs' hheap

/-- Where the page tables are as they were, a call that stopped was a rest. -/
theorem Call.Halts.rests (h : c.Halts k why k')
    (hpages : ∀ id n, k'.frameAt? id n = k.frameAt? id n) : k.Rests k' where
  layout := h.layout
  mappings := h.mappings
  frontiers id frontier hfrontier := (h.frontiers id).trans hfrontier
  pages := hpages
  seeded _ id hnone hnull := by cases ((h.frontiers id).trans hnone).symm.trans hnull

theorem reserveFrames_rests (count : Nat) : Stays Rests (reserveFrames count) := by
  have hrests : ∀ {k k' : Kernel}, k'.components = k.components ∧ k'.layout = k.layout ∧
      k'.mappings = k.mappings → k.Rests k' := fun ⟨hc, hl, hm⟩ => .of_components hc hl hm
  exact fun k => (Call.reserveFrames_notes count).mono (fun _ _ => hrests) fun _ _ => hrests

/-! ### Calls that were issued -/

/-- The kernel translates the address. -/
def Translates (k : Kernel) (id : ComponentId) (vaddr : Vaddr) (paddr : Paddr) : Prop :=
  (translate id vaddr : Step Kernel Refusal (Option Paddr)) k = .ok (some paddr) k

/-- It does so by the frame at the page of the address. -/
theorem translates_iff {paddr : Paddr} : k.Translates id vaddr paddr ↔
    ∃ frame, k.frameAt? id vaddr.pageNumber = some frame ∧
      Paddr.ofNat? (frame.toNat + vaddr.offset) = some paddr := by
  constructor
  · intro h
    obtain ⟨_, hfound⟩ := translate_leads.of_ok h
    obtain ⟨s, hs, frame, hframe, hpaddr⟩ := hfound paddr rfl
    exact ⟨frame, (frameAt?_eq hs).trans hframe, hpaddr⟩
  · rintro ⟨frame, hframe, hpaddr⟩
    obtain ⟨s, hs, hpage⟩ := Option.bind_eq_some_iff.1 hframe
    rcases (translate_finds (ε := Refusal) hs ⟨frame, hpage, hpaddr⟩).ends with
      ⟨found, hrun, rfl, hkernel⟩ | ⟨_, _, hno⟩
    · unfold Translates
      rw [hrun, hkernel]
    · exact hno.elim

/-- A call, and the kernel that it was issued on. -/
structure Issued where
  call : Call
  before : Kernel

namespace Issued

/-- The kernel that the call left, whatever it came to. -/
def after (i : Issued) : Kernel := i.call.run.final i.before

/-- The call answered the address. -/
def Gives (i : Issued) (vaddr : Vaddr) : Prop := i.call.run i.before = .ok vaddr i.after

/-- The call ended its thread. -/
def Aborts (i : Issued) : Prop := i.call.run i.before = .error .abort i.after

/-- The call ended its thread after pages were in. -/
def Spills (i : Issued) : Prop :=
  i.Aborts ∧ ∃ id n, i.after.frameAt? id n ≠ i.before.frameAt? id n

/-- What the kernel wrote down of the call. -/
def event? (i : Issued) : Option Event :=
  match i.call.run i.before with
  | .ok vaddr _ => some (i.call.event vaddr)
  | .error _ _ => none

variable {i : Issued}

/-- A call gives an address, or stops. -/
theorem ends (i : Issued) :
    (∃ vaddr place, i.Gives vaddr ∧ i.call.MapsAt i.before place i.after ∧
      vaddr.toNat = place.toNat + i.call.offset ∧
      i.after.mappings = i.before.mappings ++ [i.call.event vaddr]) ∨
    ∃ why, i.call.run i.before = .error why i.after ∧ i.call.Halts i.before why i.after := by
  rcases i.call.run_ends.ends with ⟨vaddr, hgives, place, hend⟩ | hstop
  · exact .inl ⟨vaddr, place, hgives, hend⟩
  · exact .inr hstop

/-- What the call gives is at the place of its pages. -/
theorem Gives.maps (h : i.Gives vaddr) :
    ∃ place, i.call.MapsAt i.before place i.after ∧ vaddr.toNat = place.toNat + i.call.offset := by
  obtain ⟨place, hmaps, hvaddr, _⟩ := i.call.run_ends.of_ok h
  exact ⟨place, hmaps, hvaddr⟩

/-- A call can only spill if its range has no end in the address space. -/
theorem Spills.overflows (h : i.Spills) : i.call.Overflows i.before := by
  obtain ⟨haborts, id, n, hn⟩ := h
  rcases (i.call.run_ends.of_error haborts).pages with hpages | ⟨_, hover⟩
  · exact absurd (hpages id n) hn
  · obtain ⟨place, ⟨⟨frontier, hfrontier, hplace⟩, _, _⟩, hsize⟩ := hover
    exact ⟨frontier, place, hfrontier, hplace, hsize⟩

end Issued

/-! ### Histories -/

/-- The histories of a kernel: the frontier that each component had first, the
calls that may have put pages into page tables, and the kernel that they and
what happened between them led to. -/
inductive History (k₀ : Kernel) : (ComponentId → Option Vaddr) → List Issued → Kernel → Prop where
  | start : History k₀ k₀.frontier? [] k₀
  | rest {first : ComponentId → Option Vaddr} {issued : List Issued} {k k' : Kernel}
      (before : History k₀ first issued k) (rests : k.Rests k') :
      History k₀ (fun id => (first id).or (k'.frontier? id)) issued k'
  | call {first : ComponentId → Option Vaddr} {issued : List Issued} {k : Kernel}
      (before : History k₀ first issued k) (c : Call) (aligned : WholePages c.align) :
      History k₀ first (issued ++ [⟨c, k⟩]) (c.run.final k)

variable {first : ComponentId → Option Vaddr} {issued : List Issued}

namespace History

theorem layout (h : History k₀ first issued k) : k.layout = k₀.layout := by
  induction h with
  | start => rfl
  | rest _ hr ih => exact hr.layout.trans ih
  | @call first issued k _ c _ ih =>
    rcases (Issued.mk c k).ends with ⟨_, _, _, hmaps, _⟩ | ⟨_, _, hhalts⟩
    · exact hmaps.layout.trans ih
    · exact hhalts.layout.trans ih

/-- The trail has the calls that answered, in their order, and no other
mapping. -/
theorem mappings (h : History k₀ first issued k) :
    k.mappings = k₀.mappings ++ issued.filterMap Issued.event? := by
  induction h with
  | start => exact (List.append_nil _).symm
  | rest _ hr ih => exact hr.mappings.trans ih
  | @call first issued k _ c _ ih =>
    rw [List.filterMap_append, ← List.append_assoc, ← ih]
    rcases (Issued.mk c k).ends with ⟨vaddr, _, hgives, _, _, hnoted⟩ | ⟨why, hstop, hhalts⟩
    · have hevent : (Issued.mk c k).event? = some (c.event vaddr) := by
        unfold Issued.event?
        rw [hgives]
      rw [List.filterMap_cons_some hevent]
      exact hnoted
    · have hevent : (Issued.mk c k).event? = none := by
        unfold Issued.event?
        rw [hstop]
      rw [List.filterMap_cons_none hevent]
      exact hhalts.mappings.trans (List.append_nil _).symm

end History

/-! ### Where a call has spilled -/

/-- No page leaves a page table. -/
def Retains (k k' : Kernel) : Prop := ∀ id n, k.frameAt? id n ≠ none → k'.frameAt? id n ≠ none

theorem Call.Puts.retains (h : c.Puts k place k') : k.Retains k' := by
  intro id n hn
  by_cases hcovers : c.Covers place id n
  · exact h.new id n hcovers
  · rwa [h.old id n hcovers]

theorem Issued.retains (i : Issued) : i.before.Retains i.after := by
  rcases i.ends with ⟨_, _, _, hmaps, _⟩ | ⟨_, _, hhalts⟩
  · exact hmaps.puts.retains
  · rcases hhalts.pages with hpages | ⟨_, _, hputs, _⟩
    · exact fun id n hn => (hpages id n).symm ▸ hn
    · exact hputs.retains

/-- The last page of the address space is mapped in some component. -/
def ReachesEnd (k : Kernel) : Prop :=
  ∃ id n, k.frameAt? id n ≠ none ∧ UInt64.size ≤ (n + 1) * pageSize

/-- It can be read off the page tables. -/
instance : Decidable k.ReachesEnd :=
  decidable_of_iff (k.components.toList.any (fun c => c.2.pages.toList.any fun p =>
    UInt64.size ≤ (p.1 + 1) * pageSize) = true) <| by
    simp only [List.any_eq_true, Prod.exists, Std.ExtTreeMap.mem_toList_iff_getElem?_eq_some,
      decide_eq_true_eq]
    constructor
    · rintro ⟨id, s, hs, n, frame, hframe, hsize⟩
      refine ⟨id, n, ?_, hsize⟩
      rw [frameAt?_eq hs, hframe]
      exact Option.some_ne_none _
    · rintro ⟨id, n, hn, hsize⟩
      obtain ⟨frame, hframe⟩ := Option.ne_none_iff_exists'.1 hn
      obtain ⟨s, hs, hpage⟩ := Option.bind_eq_some_iff.1 hframe
      exact ⟨id, s, hs, n, frame, hpage, hsize⟩

theorem Retains.reachesEnd (h : k.Retains k') (hk : k.ReachesEnd) : k'.ReachesEnd := by
  obtain ⟨id, n, hn, hsize⟩ := hk
  exact ⟨id, n, h id n hn, hsize⟩

/-- What spills has filled the address space to its end. -/
theorem Issued.Spills.reachesEnd {i : Issued} (h : i.Spills) (ha : WholePages i.call.align) :
    i.after.ReachesEnd := by
  obtain ⟨haborts, id, n, hn⟩ := h
  rcases (i.call.run_ends.of_error haborts).pages with hpages | ⟨_, place, hputs, hsize⟩
  · exact absurd (hpages id n) hn
  obtain ⟨frontier, _, hplace⟩ := hputs.aligned
  obtain ⟨q, hq⟩ := Vaddr.dvd_of_alignUp hplace ha.2
  have hnumber : place.pageNumber = q := by
    unfold Vaddr.pageNumber
    rw [hq, Nat.mul_div_cancel_left _ (by decide)]
  have hword : place.toNat < UInt64.size := place.word.toNat_lt
  have hsome : i.call.count ≠ 0 := fun h0 => by
    rw [h0] at hsize
    omega
  refine ⟨i.call.into, q + (i.call.count - 1), hputs.new _ _ ⟨rfl, ?_, ?_⟩, ?_⟩
  · omega
  · omega
  · have hend : q + (i.call.count - 1) + 1 = q + i.call.count := by omega
    rw [hend, Nat.add_mul, Nat.mul_comm q, ← hq]
    exact hsize

/-- Where no page table reaches the end of the address space, no call has
spilled. -/
theorem History.not_spills (h : History k₀ first issued k) (hend : ¬ k.ReachesEnd) :
    ∀ i ∈ issued, ¬ i.Spills := by
  induction h with
  | start => exact nofun
  | rest _ hr ih =>
    have hretains : Retains _ _ := fun id n hn => (hr.pages id n).symm ▸ hn
    exact ih fun hk => hend (hretains.reachesEnd hk)
  | @call first issued k _ c ha ih =>
    intro i hi hspills
    rcases List.mem_append.1 hi with hold | hlast
    · exact ih (fun hk => hend ((Issued.mk c k).retains.reachesEnd hk)) i hold hspills
    · obtain rfl := List.mem_singleton.1 hlast
      exact hend (hspills.reachesEnd ha)

/-! ### Going on -/

/-- Whatever the history of the first kernel, it goes on to the second. -/
def Continues (k k' : Kernel) : Prop := ∀ k₀ first issued, History k₀ first issued k →
  ∃ first' issued', History k₀ first' issued' k'

instance : IsPreorder Kernel Continues where
  refl _ _ first issued h := ⟨first, issued, h⟩
  trans _ _ _ h h' k₀ first issued hk := by
    obtain ⟨first', issued', hk'⟩ := h k₀ first issued hk
    exact h' k₀ first' issued' hk'

theorem Rests.continues (h : k.Rests k') : k.Continues k' :=
  fun _ _ issued hk => ⟨_, issued, hk.rest h⟩

theorem Call.continues (c : Call) (ha : WholePages c.align) : Stays Continues c.run := by
  have hcall : ∀ k : Kernel, k.Continues (c.run.final k) :=
    fun _ _ first _ hk => ⟨first, _, hk.call c ha⟩
  refine fun k => (Step.leads_final c.run k).mono ?_ ?_
  · rintro vaddr _ rfl
    exact hcall k
  · rintro why _ rfl
    exact hcall k

end CapabilityBroker.Kernel
