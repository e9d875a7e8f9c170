/-
CapabilityBroker/Proofs/Placement.lean

Mappings are placed at fresh addresses.

Heap pages, shared and contiguous pages, spans and device memory all go through
the same two primitives of the kernel, and everything else that happens to a
broker leaves page tables and heap frontiers alone.  So the kernel of every
state of a run has a history, and what is true of all histories
(`History.orderly`) is true of the run: whatever is mapped, in whatever order
and at whatever alignment, gets addresses that no mapping had before.
-/
import CapabilityBroker.Proofs.Accounts
import CapabilityBroker.Proofs.Kernel.Fresh
import CapabilityBroker.Proofs.Move.Boot

namespace CapabilityBroker

open Step (Stays)

variable {b b' : Broker} {s : Setting} {image : Image}

/-! ### The history of a broker's kernel -/

/-- Whatever the history of the kernel, it goes on to the second state. -/
def Broker.Continues (b b' : Broker) : Prop := b.kernel.Continues b'.kernel

instance : IsPreorder Broker Broker.Continues where
  refl b := refl_of Kernel.Continues b.kernel
  trans _ _ _ := trans_of Kernel.Continues

theorem Broker.ObjectMove.continues {adds : ComponentId → Option Kernel.Resources → Prop}
    (h : b.ObjectMove adds b') : b.Continues b' := h.kernel.rests.continues

theorem history_admits : AdmitsMemory Kernel.Continues Broker.Continues where
  lines b _ := refl_of Kernel.Continues b.kernel
  events b _ _ := refl_of Kernel.Continues b.kernel
  kernel _ _ h := h
  reads := refl_of Kernel.Continues
  spans b _ := refl_of Kernel.Continues b.kernel
  region b _ := refl_of Kernel.Continues b.kernel
  carvings b _ _ _ := refl_of Kernel.Continues b.kernel
  pages b _ _ := refl_of Kernel.Continues b.kernel
  reserve count k := (Kernel.reserveFrames_rests count k).mono
    (fun _ _ => Kernel.Rests.continues) fun _ _ => Kernel.Rests.continues
  frames first count align into := (Kernel.Call.frames first count align into).continues
  device into paddr size := (Kernel.Call.device into paddr size).continues wholePages_native

namespace Service

theorem Action.continues (image : Image) (action : Action) (b : Broker) :
    b.Continues (action.after image b) := by
  cases action with
  | request i r =>
    by_cases h : isAboutObjects r = true
    · have hmove := dispatch_stays (fun _ _ => objects_tacit.log _ _) (perform_objects image i h) b
      exact hmove.final.continues
    · exact (dispatch_stays (fun _ _ => history_admits.log _ _)
        (perform_memory history_admits image i h) b).final
  | parallelInit core isInitCore =>
    have hmove : b.ObjectMove machinesOnly ((Service.parallelInit image core isInitCore).final b) :=
      (parallelInit_objects image core isInitCore b).final
    exact hmove.continues
  | parallelMain core =>
    have hmove : b.ObjectMove machinesOnly ((Service.parallelMain image core).final b) :=
      (parallelMain_objects image core b).final
    exact hmove.continues

/-- The kernel of every state of a run has a history, from the new kernel on. -/
theorem Reached.history (h : Reached s image b) :
    ∃ kernel, Kernel.create? s.selfId s.layout s.faults = some kernel ∧
      ∃ first issued, kernel.History first issued b.kernel := by
  induction h with
  | @boot kernel b created booted =>
    have hobjects : ∀ b b' : Broker, b.ObjectMove (Replays s.manifest) b' → b.Continues b' :=
      fun _ _ => Broker.ObjectMove.continues
    have hspans : ∀ region, Stays Broker.Continues (setAside region) :=
      fun region => setAside_memory history_admits region
    have hcontig : Stays Broker.Continues
        (initContig s.settings.selfId s.settings.contigPages.toNat) :=
      history_admits.initContig _ _
    have hboot := boot_moves (b := .create kernel) s.settings s.manifest hobjects
      (fun region => (hspans region).answers) hcontig.answers
    obtain ⟨_, made, hmade, hcontinues⟩ := hboot.of_ok booted
    have hstart : kernel.History kernel.frontier? [] made.kernel := by
      rw [hmade.kernel]
      exact .start
    exact ⟨kernel, created, hcontinues _ _ _ hstart⟩
  | @act b action _ ih =>
    obtain ⟨kernel, created, first, issued, hhistory⟩ := ih
    exact ⟨kernel, created, action.continues image b _ _ _ hhistory⟩

/-- The kernel of every state of a run has a history, and what is on its trail are
the mappings of that history.  Unless a call spills, which takes a range that
leaves the address space, the ranges in a component do not overlap, and every
single mapping is fresh. -/
theorem mappings_are_fresh (hbase : s.layout.heapBase ≠ .null) (h : Reached s image b) :
    ∃ kernel, Kernel.create? s.selfId s.layout s.faults = some kernel ∧
      (∃ first issued, kernel.History first issued b.kernel) ∧
      ∀ first issued, kernel.History first issued b.kernel →
        issued.filterMap Kernel.Issued.event? = b.kernel.mappings ∧
        (∀ i ∈ issued, i.Spills → i.call.Overflows i.before) ∧
        ((∀ i ∈ issued, ¬ i.Spills) →
          issued.Pairwise Kernel.Issued.Apart ∧ ∀ i ∈ issued, i.Fresh first) := by
  obtain ⟨kernel, created, hhistory⟩ := h.history
  refine ⟨kernel, created, hhistory, fun first issued hh => ⟨?_, fun i _ => ?_, fun hs => ?_⟩⟩
  · have hnone : kernel.mappings = [] := by
      obtain ⟨_, _, rfl⟩ := Option.map_eq_some_iff.1 created
      rfl
    rw [hh.mappings, hnone, List.nil_append]
  · exact Kernel.Issued.Spills.overflows
  · have hlayout : kernel.layout = s.layout := by
      obtain ⟨_, _, rfl⟩ := Option.map_eq_some_iff.1 created
      rfl
    have horderly := hh.orderly (hlayout ▸ hbase) (Kernel.grounded_of_create? created hbase) hs
    exact ⟨horderly.apart, horderly.fresh⟩

/-- After the busy day the client maps a device, and then a page at an alignment of
two mebibytes. -/
def Setting.longDay : List Action :=
  Setting.busyDay ++
    [.request ⟨⟨5⟩, ⟨0⟩⟩ (.mapPhysicalRegion ⟨0xFEE00123⟩ 5000),
      .request ⟨⟨5⟩, ⟨0⟩⟩ (.allocateHeapPages 1 (some 0x200000))]

/-- What the kernel writes down of it.  The contiguous region is mapped first, and
the two pages of the device lie between the last two mappings. -/
def Setting.longDayMappings : List Kernel.Event :=
  [.framesMapped ⟨2⟩ ⟨0x40000000⟩ 64, .framesMapped ⟨5⟩ ⟨0x40000000⟩ 2,
    .framesMapped ⟨5⟩ ⟨0x40002000⟩ 3, .framesMapped ⟨6⟩ ⟨0x40000000⟩ 3,
    .framesMapped ⟨5⟩ ⟨0x40005000⟩ 1, .hwMapped ⟨5⟩ ⟨0xFEE00123⟩ 5000,
    .framesMapped ⟨5⟩ ⟨0x40200000⟩ 1]

/-- The page tables end far below the end of the address space, so no call has
spilled. -/
theorem long_day_maps_fresh_addresses :
    ∃ (image : Image) (b : Broker) (kernel : Kernel) (first : ComponentId → Option Vaddr)
      (issued : List Kernel.Issued), Reached .ordinary image b ∧
      kernel.History first issued b.kernel ∧
      issued.filterMap Kernel.Issued.event? = Setting.longDayMappings ∧
      issued.Pairwise Kernel.Issued.Apart ∧ ∀ i ∈ issued, i.Fresh first := by
  have hrun : (Setting.ordinary.run Setting.longDay).any (fun p =>
      p.2.kernel.mappings = Setting.longDayMappings ∧ ¬ p.2.kernel.ReachesEnd) = true := by
    decide +kernel
  obtain ⟨image, b, hreached, hshows⟩ := exists_reached hrun
  obtain ⟨hmappings, hend⟩ := of_decide_eq_true hshows
  have hbase : Setting.ordinary.layout.heapBase ≠ .null := by decide
  obtain ⟨kernel, _, ⟨first, issued, hhistory⟩, hall⟩ := mappings_are_fresh hbase hreached
  obtain ⟨hevents, _, hfresh⟩ := hall first issued hhistory
  exact ⟨image, b, kernel, first, issued, hreached, hhistory, hevents.trans hmappings,
    hfresh (hhistory.not_spills hend)⟩

end Service

end CapabilityBroker
