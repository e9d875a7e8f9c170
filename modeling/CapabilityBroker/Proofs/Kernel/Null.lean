/-
CapabilityBroker/Proofs/Kernel/Null.lean

The null page is never mapped.

Where the heaps of a machine begin above the null address, no frontier is ever
null.  Ranges begin at the aligned frontier, so none of them has the null page; a
call that runs out of addresses is no exception, although it may leave pages
behind.  Hence no address that a mapping was given is null.
-/
import CapabilityBroker.Proofs.Kernel.Fresh
import CapabilityBroker.Proofs.Kernel.Ranges

namespace CapabilityBroker

theorem Vaddr.toNat_ne_zero {v : Vaddr} (h : v ≠ .null) : v.toNat ≠ 0 := fun hzero =>
  h (congrArg Vaddr.mk (UInt64.toNat.inj hzero))

/-- What is rounded up is null only if it was. -/
theorem Vaddr.ne_null_of_alignUp {v v' : Vaddr} {align : UInt64} (h : v.alignUp align = some v')
    (hv : v ≠ .null) : v' ≠ .null := by
  rintro rfl
  exact Vaddr.toNat_ne_zero hv (Nat.le_zero.1 (Vaddr.le_of_alignUp h))

/-- And it is in another page than the null page. -/
theorem Vaddr.pageNumber_ne_zero_of_alignUp {v v' : Vaddr} {align : UInt64}
    (h : v.alignUp align = some v') (hv : v ≠ .null) : v'.pageNumber ≠ 0 := by
  have hpos : 0 < v'.toNat :=
    Nat.pos_of_ne_zero (Vaddr.toNat_ne_zero (Vaddr.ne_null_of_alignUp h hv))
  have hunit := Nat.le_of_dvd hpos (Vaddr.max_dvd_of_alignUp h)
  have hpage : pageSize ≤ v'.toNat := Nat.le_trans (Nat.le_max_right _ _) hunit
  exact Nat.ne_of_gt (Nat.div_pos hpage (by decide))

namespace Kernel

variable {k₀ k k' : Kernel} {c : Call} {place vaddr : Vaddr} {why : Stop Refusal}
  {first : ComponentId → Option Vaddr} {issued : List Issued} {into : ComponentId} {count : Nat}

/-! ### One call -/

/-- No frontier is null, and no component has its null page mapped. -/
structure SparesNull (k : Kernel) : Prop where
  frontiers : ∀ id, k.frontier? id ≠ some .null
  pages : ∀ id, k.frameAt? id 0 = none

/-- Pages are put behind an aligned frontier. -/
theorem Call.Puts.pages_null (h : c.Puts k place k') (hk : k.SparesNull) (id : ComponentId) :
    k'.frameAt? id 0 = none := by
  obtain ⟨frontier, hfrontier, hplace⟩ := h.aligned
  have hnull : frontier ≠ .null := by
    rintro rfl
    exact hk.frontiers _ hfrontier
  have hnumber := Vaddr.pageNumber_ne_zero_of_alignUp hplace hnull
  rw [h.old id 0 fun hcovers => hnumber (Nat.le_zero.1 hcovers.2.1)]
  exact hk.pages id

theorem Call.MapsAt.sparesNull (h : c.MapsAt k place k') (hk : k.SparesNull) :
    k'.SparesNull where
  frontiers id hnull := by
    obtain ⟨frontier, hend, hmoved⟩ := h.behind
    rw [hmoved] at hnull
    split at hnull
    · obtain rfl := Option.some.inj hnull
      obtain ⟨old, hold, hplace⟩ := h.puts.aligned
      have hne : old ≠ .null := by
        rintro rfl
        exact hk.frontiers _ hold
      -- The frontier ends behind the place of the pages, which is not null.
      have hpos := Vaddr.toNat_ne_zero (Vaddr.ne_null_of_alignUp hplace hne)
      rw [Vaddr.addPages_eq_some_iff] at hend
      change 0 = place.toNat + c.count * pageSize at hend
      omega
    · exact hk.frontiers id hnull
  pages := h.puts.pages_null hk

theorem Call.Halts.sparesNull (h : c.Halts k why k') (hk : k.SparesNull) : k'.SparesNull where
  frontiers id hnull := hk.frontiers id ((h.frontiers id).symm.trans hnull)
  pages id := by
    rcases h.pages with hpages | ⟨_, place, hputs, _⟩
    · exact (hpages id 0).trans (hk.pages id)
    · exact hputs.pages_null hk id

/-- Between the calls no component comes with a null frontier. -/
theorem Rests.sparesNull (h : k.Rests k') (hbase : k.layout.heapBase ≠ .null)
    (hk : k.SparesNull) : k'.SparesNull where
  frontiers id hnull := by
    cases hold : k.frontier? id with
    | none => exact h.seeded hbase id hold hnull
    | some frontier =>
      have heq := (h.frontiers id frontier hold).symm.trans hnull
      exact hk.frontiers id (hold.trans heq)
  pages id := (h.pages id 0).trans (hk.pages id)

/-! ### A whole history -/

theorem sparesNull_of_create? {selfId : ComponentId} {layout : Layout} {faults : List Fault}
    (h : create? selfId layout faults = some k) (hbase : layout.heapBase ≠ .null) :
    k.SparesNull where
  frontiers id hnull := by
    obtain ⟨initial, hfirst, hne, _⟩ := (grounded_of_create? h hbase).since id .null hnull
    exact hne (Option.some.inj (hfirst.symm.trans hnull))
  pages id := frameAt?_of_create? h id 0

theorem History.sparesNull (h : History k₀ first issued k) (hbase : k₀.layout.heapBase ≠ .null)
    (hk₀ : k₀.SparesNull) : k.SparesNull := by
  induction h with
  | start => exact hk₀
  | rest before hr ih => exact hr.sparesNull (before.layout ▸ hbase) ih
  | @call first issued k before c _ ih =>
    rcases (Issued.mk c k).ends with ⟨_, _, _, hmaps, _⟩ | ⟨_, _, hhalts⟩
    · exact hmaps.sparesNull ih
    · exact hhalts.sparesNull ih

/-- A range that is shown does not begin at the null address. -/
theorem ShowsPages.ne_null (h : k.ShowsPages into vaddr count) (hk : k.SparesNull) :
    vaddr ≠ .null := by
  rintro rfl
  obtain ⟨place, _, hplace, s, hs, _, base, hbase, _⟩ :=
    h.shown 0 (Nat.pos_of_ne_zero h.nonempty)
  obtain rfl := Option.some.inj ((Vaddr.addPages_zero _).symm.trans hplace)
  have hpage : (Vaddr.null).pageNumber = 0 := Nat.zero_div _
  rw [hpage] at hbase
  have hmapped : k.frameAt? into 0 = some base := (frameAt?_eq hs).trans hbase
  cases (hk.pages into).symm.trans hmapped

end Kernel

end CapabilityBroker
