/-
CapabilityBroker/Proofs/Kernel/Fresh.lean

Mappings get fresh addresses.

One number carries the argument: the heap frontier of a component lies behind
every page that is in its page table (`Grounded`).  A call begins at the frontier
and leaves it behind its own pages, so what it installs is fresh, whatever was
installed before, and at whatever alignment (`History.orderly`).
-/
import CapabilityBroker.Proofs.Kernel.History

namespace CapabilityBroker.Kernel

open Step (Stays StaysFrom)

variable {k₀ k k' : Kernel} {id : ComponentId} {n : Nat} {place vaddr : Vaddr} {c : Call}
  {why : Stop Refusal}

/-! ### What is to be shown of a call -/

/-- A mapping got fresh addresses: nothing below the first frontier of its
component, nothing in the null page, and nothing that was in use.  The pages
that it installed are those of its range, and every translation is as it was. -/
structure Issued.Fresh (first : ComponentId → Option Vaddr) (i : Issued) : Prop where
  above : ∀ vaddr, i.Gives vaddr →
    ∃ initial, first i.call.into = some initial ∧ initial.toNat ≤ vaddr.pageStart
  nonzero : ∀ vaddr, i.Gives vaddr → vaddr.pageStart ≠ 0
  aligned : ∀ vaddr, i.Gives vaddr →
    i.call.align.toNat ∣ vaddr.pageStart ∧ vaddr.offset = i.call.offset
  installs : ∀ id n, (i.before.frameAt? id n = none ∧ i.after.frameAt? id n ≠ none) ↔
    ∃ vaddr, i.Gives vaddr ∧ i.call.Covers vaddr id n
  kept : ∀ id vaddr paddr, i.before.Translates id vaddr paddr → i.after.Translates id vaddr paddr

/-- In one component, the range of the first mapping ends where that of the
second begins, or before. -/
def Issued.Apart (i i' : Issued) : Prop :=
  i.call.into = i'.call.into → ∀ vaddr vaddr', i.Gives vaddr → i'.Gives vaddr' →
    vaddr.pageStart + i.call.count * pageSize ≤ vaddr'.pageStart

/-! ### Where a call places its pages -/

theorem Call.offset_lt (c : Call) : c.offset < pageSize := by
  cases c with
  | frames => exact (by decide : 0 < pageSize)
  | device => exact Nat.mod_lt _ (by decide)

namespace Call.MapsAt

/-- The answer lies in the first page, which begins at the place. -/
theorem answer (h : c.MapsAt k place k') (hc : WholePages c.align)
    (hv : vaddr.toNat = place.toNat + c.offset) :
    vaddr.pageNumber = place.pageNumber ∧ vaddr.pageStart = place.toNat ∧
      vaddr.offset = c.offset := by
  obtain ⟨frontier, _, hplace⟩ := h.puts.aligned
  obtain ⟨q, hq⟩ := Vaddr.dvd_of_alignUp hplace hc.2
  have hlt := c.offset_lt
  have hnumber : vaddr.pageNumber = q := by
    unfold Vaddr.pageNumber
    rw [hv, hq, Nat.mul_add_div (by decide), Nat.div_eq_of_lt hlt, Nat.add_zero]
  refine ⟨hnumber.trans ?_, ?_, ?_⟩
  · unfold Vaddr.pageNumber
    rw [hq, Nat.mul_div_cancel_left _ (by decide)]
  · unfold Vaddr.pageStart
    rw [hnumber, hq, Nat.mul_comm]
  · unfold Vaddr.offset
    rw [hv, hq, Nat.mul_add_mod, Nat.mod_eq_of_lt hlt]

end Call.MapsAt

/-! ### Frontiers move forward -/

/-- No frontier went back. -/
def Forward (k k' : Kernel) : Prop := ∀ id frontier, k.frontier? id = some frontier →
  ∃ frontier', k'.frontier? id = some frontier' ∧ frontier.toNat ≤ frontier'.toNat

theorem Rests.forward (h : k.Rests k') : k.Forward k' := fun id frontier hfrontier =>
  ⟨frontier, h.frontiers id frontier hfrontier, Nat.le_refl _⟩

theorem Call.MapsAt.forward (h : c.MapsAt k place k') : k.Forward k' := by
  intro id frontier hf
  obtain ⟨old, hold, hplace⟩ := h.puts.aligned
  obtain ⟨new, hnew, hmoved⟩ := h.behind
  rw [hmoved]
  by_cases hid : c.into = id
  · subst hid
    obtain rfl := Option.some.inj (hold.symm.trans hf)
    have hle := Vaddr.le_of_alignUp hplace
    rw [Vaddr.addPages_eq_some_iff] at hnew
    exact ⟨new, if_pos rfl, by omega⟩
  · exact ⟨frontier, (if_neg hid).trans hf, Nat.le_refl _⟩

/-! ### The frontier lies behind every page -/

/-- Every page lies below the frontier of its component. -/
def Clear (k : Kernel) : Prop := ∀ id n, k.frameAt? id n ≠ none →
  ∃ frontier, k.frontier? id = some frontier ∧ (n + 1) * pageSize ≤ frontier.toNat

namespace Clear

theorem rest (h : k.Clear) (hr : k.Rests k') : k'.Clear := by
  intro id n hn
  rw [hr.pages] at hn
  obtain ⟨frontier, hfrontier, hle⟩ := h id n hn
  exact ⟨frontier, hr.frontiers id frontier hfrontier, hle⟩

/-- From the aligned frontier on, nothing is mapped. -/
theorem free (h : k.Clear) (hm : c.MapsAt k place k') (hn : c.Covers place id n) :
    k.frameAt? id n = none := by
  obtain ⟨rfl, hle, _⟩ := hn
  refine Decidable.byContradiction fun hmapped => ?_
  obtain ⟨frontier, hfrontier, hbelow⟩ := h c.into n hmapped
  obtain ⟨old, hold, hplace⟩ := hm.puts.aligned
  obtain rfl := Option.some.inj (hold.symm.trans hfrontier)
  have hlt := Vaddr.lt_pageNumber (Nat.le_trans hbelow (Vaddr.le_of_alignUp hplace))
  omega

theorem call (h : k.Clear) (hm : c.MapsAt k place k') : k'.Clear := by
  intro id n hn
  by_cases hcovers : c.Covers place id n
  -- A page of the call ends where its range does, or before.
  · obtain ⟨rfl, _, hlt⟩ := hcovers
    obtain ⟨new, hnew, hmoved⟩ := hm.behind
    refine ⟨new, (hmoved _).trans (if_pos rfl), ?_⟩
    rw [Vaddr.addPages_eq_some_iff] at hnew
    have hstart : place.pageNumber * pageSize ≤ place.toNat := Nat.div_mul_le_self _ _
    have hend : (n + 1) * pageSize ≤ (place.pageNumber + c.count) * pageSize :=
      Nat.mul_le_mul_right _ hlt
    rw [Nat.add_mul place.pageNumber] at hend
    omega
  · rw [hm.puts.old id n hcovers] at hn
    obtain ⟨frontier, hfrontier, hle⟩ := h id n hn
    obtain ⟨new, hnew, hmoved⟩ := hm.forward id frontier hfrontier
    exact ⟨new, hnew, Nat.le_trans hle hmoved⟩

end Clear

/-- Every page lies below the frontier of its component, which is where the
component began or behind it. -/
structure Grounded (first : ComponentId → Option Vaddr) (k : Kernel) : Prop where
  since : ∀ id frontier, k.frontier? id = some frontier →
    ∃ initial, first id = some initial ∧ initial ≠ .null ∧ initial.toNat ≤ frontier.toNat
  absent : ∀ id, k.frontier? id = none → first id = none
  below : ∀ id n, k.frameAt? id n ≠ none →
    ∃ frontier, k.frontier? id = some frontier ∧ (n + 1) * pageSize ≤ frontier.toNat

namespace Grounded

variable {first : ComponentId → Option Vaddr}

theorem rest (h : Grounded first k) (hbase : k.layout.heapBase ≠ .null) (hr : k.Rests k') :
    Grounded (fun id => (first id).or (k'.frontier? id)) k' where
  since id frontier hfrontier := by
    cases hold : k.frontier? id with
    | none =>
      refine ⟨frontier, ?_, fun hnull => hr.seeded hbase id hold (hnull ▸ hfrontier), Nat.le_refl _⟩
      rw [h.absent id hold, Option.none_or]
      exact hfrontier
    | some old =>
      obtain rfl := Option.some.inj ((hr.frontiers id old hold).symm.trans hfrontier)
      obtain ⟨initial, hfirst, hstart⟩ := h.since id old hold
      exact ⟨initial, by rw [hfirst, Option.some_or], hstart⟩
  absent id hnone := by
    have hold : k.frontier? id = none := by
      cases hold : k.frontier? id with
      | none => rfl
      | some old => cases hnone.symm.trans (hr.frontiers id old hold)
    rw [h.absent id hold, hnone]
    rfl
  below := Clear.rest h.below hr

theorem congr (h : Grounded first k) (hf : ∀ id, k'.frontier? id = k.frontier? id)
    (hp : ∀ id n, k'.frameAt? id n = k.frameAt? id n) : Grounded first k' where
  since id frontier hfrontier := h.since id frontier ((hf id).symm.trans hfrontier)
  absent id hnone := h.absent id ((hf id).symm.trans hnone)
  below id n hn := by
    rw [hf]
    exact h.below id n (hp id n ▸ hn)

theorem call (h : Grounded first k) (hm : c.MapsAt k place k') : Grounded first k' where
  since id frontier' hfrontier' := by
    obtain ⟨new, hnew, hmoved⟩ := hm.behind
    have hthere : ∃ frontier, k.frontier? id = some frontier := by
      rw [hmoved] at hfrontier'
      split at hfrontier'
      · next hid =>
        obtain ⟨old, hold, _⟩ := hm.puts.aligned
        exact ⟨old, hid ▸ hold⟩
      · exact ⟨frontier', hfrontier'⟩
    obtain ⟨frontier, hfrontier⟩ := hthere
    obtain ⟨initial, hfirst, hnull, hstart⟩ := h.since id frontier hfrontier
    obtain ⟨after, hafter, hle⟩ := hm.forward id frontier hfrontier
    obtain rfl := Option.some.inj (hafter.symm.trans hfrontier')
    exact ⟨initial, hfirst, hnull, Nat.le_trans hstart hle⟩
  absent id hnone := by
    refine h.absent id ?_
    cases hold : k.frontier? id with
    | none => rfl
    | some old =>
      obtain ⟨new, hnew, _⟩ := hm.forward id old hold
      cases hnone.symm.trans hnew
  below := Clear.call h.below hm

end Grounded

/-! ### One call -/

theorem Translates.of_pages {paddr : Paddr} (h : k.Translates id vaddr paddr)
    (hp : ∀ frame, k.frameAt? id vaddr.pageNumber = some frame →
      k'.frameAt? id vaddr.pageNumber = some frame) : k'.Translates id vaddr paddr := by
  obtain ⟨frame, hframe, hpaddr⟩ := translates_iff.1 h
  exact translates_iff.2 ⟨frame, hp frame hframe, hpaddr⟩

/-- Where the frontiers lie behind every page, a call keeps what is translated. -/
theorem Clear.keeps {paddr : Paddr} (h : k.Clear) (hm : c.MapsAt k place k')
    (ht : k.Translates id vaddr paddr) : k'.Translates id vaddr paddr := by
  refine ht.of_pages fun frame hframe => ?_
  have hold : ¬ c.Covers place id vaddr.pageNumber := fun hn => by
    cases (h.free hm hn).symm.trans hframe
  rw [hm.puts.old id _ hold, hframe]

namespace Issued

variable {i : Issued} {first : ComponentId → Option Vaddr}

/-- A call that stopped without spilling left the page tables as they were. -/
theorem rests_of_stop (hs : ¬ i.Spills) (hstop : i.call.run i.before = .error why i.after)
    (hhalts : i.call.Halts i.before why i.after) : i.before.Rests i.after := by
  refine hhalts.rests ?_
  rcases hhalts.pages with hpages | ⟨rfl, _⟩
  · exact hpages
  · intro id n
    exact Decidable.byContradiction fun hn => hs ⟨hstop, id, n, hn⟩

/-- A call that stopped gave no address. -/
theorem not_gives_of_stop (hstop : i.call.run i.before = .error why i.after) :
    ¬ i.Gives vaddr := fun hgives => by cases hgives.symm.trans hstop

/-- A call gives one address only. -/
theorem Gives.unique {vaddr' : Vaddr} (h : i.Gives vaddr) (h' : i.Gives vaddr') :
    vaddr = vaddr' := by
  cases h.symm.trans h'
  rfl

/-- A call that answers on a grounded kernel maps fresh addresses. -/
theorem fresh_of_gives (hg : Grounded first i.before) (hc : WholePages i.call.align)
    (hgives : i.Gives vaddr) : i.Fresh first := by
  obtain ⟨place, hmaps, hvaddr⟩ := hgives.maps
  obtain ⟨hnumber, hstart, hoffset⟩ := hmaps.answer hc hvaddr
  obtain ⟨frontier, hfrontier, hplace⟩ := hmaps.puts.aligned
  obtain ⟨initial, hfirst, hnull, hinitial⟩ := hg.since _ _ hfrontier
  have habove : initial.toNat ≤ vaddr.pageStart := by
    rw [hstart]
    exact Nat.le_trans hinitial (Vaddr.le_of_alignUp hplace)
  have hcovers : ∀ id n, i.call.Covers vaddr id n ↔ i.call.Covers place id n := by
    unfold Call.Covers
    rw [hnumber]
    exact fun _ _ => Iff.rfl
  refine ⟨?above, ?nonzero, ?aligned, fun id n => ⟨?installed, ?covered⟩, ?kept⟩
  case above =>
    intro v hv
    obtain rfl := hgives.unique hv
    exact ⟨initial, hfirst, habove⟩
  case nonzero =>
    intro v hv
    obtain rfl := hgives.unique hv
    have hpos : initial.toNat ≠ 0 := fun h0 => hnull (congrArg Vaddr.mk (UInt64.toNat.inj h0))
    omega
  case aligned =>
    intro v hv
    obtain rfl := hgives.unique hv
    have hpos : i.call.align.toNat ≠ 0 := fun h0 => hc.1 (UInt64.toNat.inj h0)
    have hpage : pageSize ≤ i.call.align.toNat := Nat.le_of_dvd (by omega) hc.2
    have hdvd := Vaddr.max_dvd_of_alignUp hplace
    rw [Nat.max_eq_left hpage] at hdvd
    exact ⟨hstart ▸ hdvd, hoffset⟩
  case installed =>
    rintro ⟨hfree, hmapped⟩
    refine ⟨vaddr, hgives, (hcovers id n).2 (Decidable.byContradiction fun hn => hmapped ?_)⟩
    rw [hmaps.puts.old id n hn, hfree]
  case covered =>
    rintro ⟨v, hv, hn⟩
    obtain rfl := hgives.unique hv
    have hplaced := (hcovers id n).1 hn
    exact ⟨Clear.free hg.below hmaps hplaced, hmaps.puts.new id n hplaced⟩
  case kept =>
    intro id v paddr ht
    exact Clear.keeps hg.below hmaps ht

/-- A call that stops and does not spill maps nothing. -/
theorem fresh_of_stop (hs : ¬ i.Spills) (hstop : i.call.run i.before = .error why i.after)
    (hhalts : i.call.Halts i.before why i.after) : i.Fresh first := by
  have hpages := (rests_of_stop hs hstop hhalts).pages
  have hno : ∀ vaddr, ¬ i.Gives vaddr := fun _ => not_gives_of_stop hstop
  refine ⟨?above, ?nonzero, ?aligned, fun id n => ⟨?installed, ?covered⟩, ?kept⟩
  case above => exact fun v hv => absurd hv (hno v)
  case nonzero => exact fun v hv => absurd hv (hno v)
  case aligned => exact fun v hv => absurd hv (hno v)
  case installed =>
    rintro ⟨hfree, hmapped⟩
    exact absurd ((hpages id n).trans hfree) hmapped
  case covered =>
    rintro ⟨v, hv, _⟩
    exact absurd hv (hno v)
  case kept =>
    intro id v paddr ht
    exact ht.of_pages fun frame hframe => (hpages id _).trans hframe

/-- The frontier of its component lies behind the range of the call. -/
def Below (i : Issued) (k : Kernel) : Prop :=
  ∀ vaddr, i.Gives vaddr → ∃ frontier, k.frontier? i.call.into = some frontier ∧
    vaddr.pageStart + i.call.count * pageSize ≤ frontier.toNat

/-- A call begins at the frontier, so it is apart from those below it. -/
theorem Below.apart {i' : Issued} (h : i.Below i'.before) (hc : WholePages i'.call.align) :
    i.Apart i' := by
  intro hinto vaddr vaddr' hgives hgives'
  obtain ⟨frontier, hfrontier, hle⟩ := h vaddr hgives
  obtain ⟨place, hmaps, hvaddr⟩ := hgives'.maps
  obtain ⟨old, hold, hplace⟩ := hmaps.puts.aligned
  rw [hinto] at hfrontier
  obtain rfl := Option.some.inj (hold.symm.trans hfrontier)
  rw [(hmaps.answer hc hvaddr).2.1]
  exact Nat.le_trans hle (Vaddr.le_of_alignUp hplace)

theorem Below.forward (h : i.Below k) (hf : k.Forward k') : i.Below k' := by
  intro vaddr hgives
  obtain ⟨frontier, hfrontier, hle⟩ := h vaddr hgives
  obtain ⟨frontier', hfrontier', hle'⟩ := hf _ _ hfrontier
  exact ⟨frontier', hfrontier', Nat.le_trans hle hle'⟩

/-- A call leaves the frontier behind its range. -/
theorem below_after (hc : WholePages i.call.align) : i.Below i.after := by
  intro v hv
  obtain ⟨place, hmaps, hplace⟩ := hv.maps
  obtain ⟨frontier, hend, hmoved⟩ := hmaps.behind
  refine ⟨frontier, (hmoved _).trans (if_pos rfl), ?_⟩
  have hstart := (hmaps.answer hc hplace).2.1
  rw [Vaddr.addPages_eq_some_iff] at hend
  omega

end Issued

/-! ### All calls of a history -/

variable {first : ComponentId → Option Vaddr} {issued : List Issued}

/-- What carries a history: the frontiers lie behind every page and behind every
range, and the calls so far mapped fresh addresses. -/
structure Orderly (first : ComponentId → Option Vaddr) (issued : List Issued) (k : Kernel) :
    Prop where
  grounded : Grounded first k
  below : ∀ i ∈ issued, i.Below k
  apart : issued.Pairwise Issued.Apart
  fresh : ∀ i ∈ issued, i.Fresh first

namespace Orderly

theorem rest (h : Orderly first issued k) (hbase : k.layout.heapBase ≠ .null) (hr : k.Rests k') :
    Orderly (fun id => (first id).or (k'.frontier? id)) issued k' where
  grounded := h.grounded.rest hbase hr
  below i hm := (h.below i hm).forward hr.forward
  apart := h.apart
  fresh i hm := by
    have hfresh := h.fresh i hm
    refine ⟨fun vaddr hgives => ?_, hfresh.nonzero, hfresh.aligned, hfresh.installs, hfresh.kept⟩
    obtain ⟨initial, hfirst, hle⟩ := hfresh.above vaddr hgives
    exact ⟨initial, by rw [hfirst, Option.some_or], hle⟩

/-- One more call: it is apart from those before it, and fresh itself. -/
theorem append {i : Issued} (h : Orderly first issued i.before) (hc : WholePages i.call.align)
    (hg : Grounded first i.after) (hf : i.before.Forward i.after)
    (hfresh : i.Fresh first) : Orderly first (issued ++ [i]) i.after where
  grounded := hg
  below i' hi' := by
    rcases List.mem_append.1 hi' with hold | hlast
    · exact (h.below i' hold).forward hf
    · obtain rfl := List.mem_singleton.1 hlast
      exact Issued.below_after hc
  apart := by
    refine List.pairwise_append.2 ⟨h.apart, List.pairwise_singleton _ _, fun i' hi' i'' hi'' => ?_⟩
    obtain rfl := List.mem_singleton.1 hi''
    exact (h.below i' hi').apart hc
  fresh i' hi' := by
    rcases List.mem_append.1 hi' with hold | hlast
    · exact h.fresh i' hold
    · exact List.mem_singleton.1 hlast ▸ hfresh

theorem call {i : Issued} (h : Orderly first issued i.before) (hc : WholePages i.call.align)
    (hs : ¬ i.Spills) : Orderly first (issued ++ [i]) i.after := by
  rcases i.ends with ⟨vaddr, place, hgives, hmaps, _⟩ | ⟨why, hstop, hhalts⟩
  · exact h.append hc (h.grounded.call hmaps) hmaps.forward
      (Issued.fresh_of_gives h.grounded hc hgives)
  · have hrests := Issued.rests_of_stop hs hstop hhalts
    have hgrounded := h.grounded.congr hhalts.frontiers hrests.pages
    exact h.append hc hgrounded hrests.forward (Issued.fresh_of_stop hs hstop hhalts)

end Orderly

namespace History

/-- Unless a call spills, a history that begins on a grounded kernel is
orderly. -/
theorem orderly (h : History k₀ first issued k) (hbase : k₀.layout.heapBase ≠ .null)
    (h₀ : Grounded k₀.frontier? k₀) (hs : ∀ i ∈ issued, ¬ i.Spills) : Orderly first issued k := by
  induction h with
  | start => exact ⟨h₀, nofun, List.Pairwise.nil, nofun⟩
  | rest before hr ih => exact (ih hs).rest (before.layout ▸ hbase) hr
  | @call first issued k _ c hc ih =>
    have hlast : (Issued.mk c k) ∈ issued ++ [⟨c, k⟩] :=
      List.mem_append_right _ (List.mem_singleton_self _)
    have hbefore : Orderly first issued k := ih fun i hm => hs i (List.mem_append_left _ hm)
    exact Orderly.call (i := ⟨c, k⟩) hbefore hc (hs _ hlast)

end History

/-! ### Where histories begin -/

/-- A new kernel has nothing mapped. -/
theorem frameAt?_of_create? {selfId : ComponentId} {layout : Layout} {faults : List Fault}
    (h : create? selfId layout faults = some k) (id : ComponentId) (n : Nat) :
    k.frameAt? id n = none := by
  obtain ⟨s, hspace, ⟨hpages, _⟩, _⟩ := space?_of_create? h
  unfold frameAt?
  rw [hspace]
  split
  · rw [Option.bind_some, hpages, Std.ExtTreeMap.getElem?_empty]
  · rfl

/-- The frontier of a new kernel's one component lies behind no page. -/
theorem grounded_of_create? {selfId : ComponentId} {layout : Layout} {faults : List Fault}
    (h : create? selfId layout faults = some k) (hbase : layout.heapBase ≠ .null) :
    Grounded k.frontier? k := by
  obtain ⟨s, hspace, _, hheap, _⟩ := space?_of_create? h
  refine ⟨fun id frontier hfrontier => ⟨frontier, hfrontier, ?_, Nat.le_refl _⟩, fun _ => id, ?_⟩
  · obtain ⟨t, ht, rfl⟩ := Option.map_eq_some_iff.1 hfrontier
    rw [hspace] at ht
    split at ht
    · obtain rfl := Option.some.inj ht
      rwa [hheap]
    · cases ht
  · exact fun id n hn => absurd (frameAt?_of_create? h id n) hn

end CapabilityBroker.Kernel
