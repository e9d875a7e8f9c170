/-
CapabilityBroker/Proofs/Kernel/Calls.lean

The two primitives that put pages into page tables.

One maps frames that were handed out, the other device memory.  They round
differently on the way, but what they do to the kernel is the same and is said
once for both (`Call.run_leads`): the pages go behind the aligned heap frontier
of one component (`Call.MapsAt`), or the frontiers stay where they are
(`Call.Halts`).  Pages without a frontier behind them are left by one thing
only, an end of the range that has no address.
-/
import CapabilityBroker.Proofs.Kernel.Mapping

namespace CapabilityBroker

/-- The address of the first byte of the page that holds an address. -/
def Vaddr.pageStart (v : Vaddr) : Nat := v.pageNumber * pageSize

namespace Kernel

open Step (Stays StaysFrom)

variable {ε α : Type} {k k' k'' : Kernel} {id owner : ComponentId} {s : Space} {n : Nat}
  {place vaddr frontier : Vaddr}

/-! ### The heap frontier -/

/-- The heap frontier of a component. -/
def frontier? (k : Kernel) (id : ComponentId) : Option Vaddr :=
  (k.space? id).map Space.heapFrontier

theorem frontier?_eq (hs : k.space? id = some s) : k.frontier? id = some s.heapFrontier := by
  unfold frontier?
  rw [hs]
  rfl

theorem frontier?_withSpace :
    (k.withSpace owner s).frontier? id =
      if owner = id then some s.heapFrontier else k.frontier? id := by
  unfold frontier?
  rw [space?_withSpace]
  split
  · rfl
  · rfl

theorem frameAt?_eq_none (hs : k.space? id = none) : k.frameAt? id n = none := by
  unfold frameAt?
  rw [hs]
  rfl

theorem frameAt?_withSpace :
    (k.withSpace owner s).frameAt? id n = if owner = id then s.pages[n]? else k.frameAt? id n := by
  unfold frameAt?
  rw [space?_withSpace]
  split
  · rfl
  · rfl

/-! ### Calls -/

/-- A call of a primitive that puts pages into a page table. -/
inductive Call where
  | frames (first : Paddr) (count : Nat) (align : UInt64) (into : ComponentId)
  | device (into : ComponentId) (paddr : Paddr) (size : UInt64)

namespace Call

/-- The component that the pages are for. -/
def into : Call → ComponentId
  | .frames _ _ _ into => into
  | .device into _ _ => into

/-- The alignment that is asked for.  Device memory is aligned to pages. -/
def align : Call → UInt64
  | .frames _ _ align _ => align
  | .device .. => 4096

/-- The number of pages. -/
def count : Call → Nat
  | .frames _ count _ _ => count
  | .device _ paddr size => devicePages paddr size

/-- How far behind the start of its page the answer lies. -/
def offset : Call → Nat
  | .frames .. => 0
  | .device _ paddr _ => paddr.toNat % pageSize

/-- The primitive itself. -/
def run : Call → Step Kernel Refusal Vaddr
  | .frames first count align into => aliasFrames first count align into
  | .device into paddr size => mapDevice into paddr size

/-- What the kernel writes down when the answer is `vaddr`. -/
def event (c : Call) (vaddr : Vaddr) : Event :=
  match c with
  | .frames _ count _ into => .framesMapped into vaddr count
  | .device into paddr size => .hwMapped into paddr size

/-- The page is one of those that the call is for, if its first one holds the
address. -/
def Covers (c : Call) (vaddr : Vaddr) (id : ComponentId) (n : Nat) : Prop :=
  id = c.into ∧ vaddr.pageNumber ≤ n ∧ n < vaddr.pageNumber + c.count

instance {c : Call} : Decidable (c.Covers vaddr id n) :=
  inferInstanceAs (Decidable (id = c.into ∧ vaddr.pageNumber ≤ n ∧ n < vaddr.pageNumber + c.count))

/-- Pages were put into the page table of the component from an address on, which is its
aligned frontier; every other page is as it was. -/
structure Puts (c : Call) (k : Kernel) (place : Vaddr) (k' : Kernel) : Prop where
  aligned : ∃ frontier, k.frontier? c.into = some frontier ∧ frontier.alignUp c.align = some place
  old : ∀ id n, ¬ c.Covers place id n → k'.frameAt? id n = k.frameAt? id n
  new : ∀ id n, c.Covers place id n → k'.frameAt? id n ≠ none

/-- The pages are in the page table, and the frontier is behind them. -/
structure MapsAt (c : Call) (k : Kernel) (place : Vaddr) (k' : Kernel) : Prop where
  puts : c.Puts k place k'
  layout : k'.layout = k.layout
  behind : ∃ frontier, place.addPages c.count = some frontier ∧
    ∀ id, k'.frontier? id = if c.into = id then some frontier else k.frontier? id

/-- Behind the aligned frontier, the end of the range has no address. -/
def Overflows (c : Call) (k : Kernel) : Prop :=
  ∃ frontier place, k.frontier? c.into = some frontier ∧ frontier.alignUp c.align = some place ∧
    UInt64.size ≤ place.toNat + c.count * pageSize

/-- The call stopped: no frontier moved, and the page tables are as they were,
unless the range left the address space. -/
structure Halts (c : Call) (k : Kernel) (why : Stop Refusal) (k' : Kernel) : Prop where
  layout : k'.layout = k.layout
  mappings : k'.mappings = k.mappings
  frontiers : ∀ id, k'.frontier? id = k.frontier? id
  pages : (∀ id n, k'.frameAt? id n = k.frameAt? id n) ∨
    why = .abort ∧ ∃ place, c.Puts k place k' ∧ UInt64.size ≤ place.toNat + c.count * pageSize

variable {c : Call} {why : Stop Refusal} {found : Option (List Paddr)}

theorem Halts.refl (c : Call) (k : Kernel) (why : Stop Refusal) : c.Halts k why k :=
  ⟨rfl, rfl, fun _ => rfl, .inl fun _ _ => rfl⟩

/-- Whatever happened before the call looked at the components is no part of
it. -/
theorem Puts.of_components (h : c.Puts k' place k'') (hc : k'.components = k.components) :
    c.Puts k place k'' := by
  obtain ⟨frontier, hfrontier, hplace⟩ := h.aligned
  refine ⟨⟨frontier, ?_, hplace⟩, fun id n hn => ?_, h.new⟩
  · unfold frontier? space? at hfrontier ⊢
    rwa [← hc]
  · rw [h.old id n hn]
    unfold frameAt? space?
    rw [hc]

/-- Pages go behind the aligned frontier, and into their component only. -/
theorem puts_mapPages {frames : List Paddr} (hs : k.space? c.into = some s)
    (hlen : frames.length = c.count) (hplace : s.heapFrontier.alignUp c.align = some place) :
    c.Puts k place (k.withSpace c.into (s.mapPages place.pageNumber frames)) := by
  refine ⟨⟨_, frontier?_eq hs, hplace⟩, fun id n hn => ?_, ?_⟩
  · rw [frameAt?_withSpace]
    by_cases hid : c.into = id
    · subst hid
      rw [if_pos rfl, Space.getElem?_mapPages, if_neg, frameAt?_eq hs]
      rintro ⟨hle, hlt⟩
      exact hn ⟨rfl, hle, hlen ▸ hlt⟩
    · rw [if_neg hid]
  · rintro id n ⟨rfl, hle, hlt⟩
    rw [← hlen] at hlt
    rw [frameAt?_withSpace, if_pos rfl, Space.getElem?_mapPages, if_pos ⟨hle, hlt⟩,
      List.getElem?_eq_getElem (by omega)]
    exact Option.some_ne_none _

/-- Where the frontier goes afterwards is no part of it. -/
theorem Puts.moveFrontier {mapped : Space} (h : c.Puts k place (k'.withSpace c.into mapped))
    (frontier : Vaddr) : c.Puts k place ((k'.withSpace c.into mapped).withSpace c.into
      { mapped with heapFrontier := frontier }) := by
  have hsame : ∀ id n, ((k'.withSpace c.into mapped).withSpace c.into
      { mapped with heapFrontier := frontier }).frameAt? id n =
        (k'.withSpace c.into mapped).frameAt? id n := by
    intro id n
    rw [frameAt?_withSpace, frameAt?_withSpace]
    split
    · rfl
    · rfl
  refine ⟨h.aligned, fun id n hn => (hsame id n).trans (h.old id n hn), fun id n hn => ?_⟩
  rw [hsame]
  exact h.new id n hn

theorem MapsAt.of_components (h : c.MapsAt k' place k'') (hc : k'.components = k.components)
    (hl : k'.layout = k.layout) : c.MapsAt k place k'' := by
  obtain ⟨frontier, hbehind, hmoved⟩ := h.behind
  refine ⟨h.puts.of_components hc, h.layout.trans hl, frontier, hbehind, fun id => ?_⟩
  rw [hmoved]
  unfold frontier? space?
  rw [hc]

/-- What is written down afterwards is no part of it. -/
theorem MapsAt.record {trail : Trail Event} (h : c.MapsAt k place k') :
    c.MapsAt k place { k' with trail } :=
  ⟨⟨h.puts.aligned, h.puts.old, h.puts.new⟩, h.layout, h.behind⟩

theorem Halts.of_components (h : c.Halts k' why k'') (hc : k'.components = k.components)
    (hl : k'.layout = k.layout) (hm : k'.mappings = k.mappings) : c.Halts k why k'' := by
  refine ⟨h.layout.trans hl, h.mappings.trans hm, fun id => ?_, h.pages.imp (fun hp id n => ?_) ?_⟩
  · rw [h.frontiers]
    unfold frontier? space?
    rw [hc]
  · rw [hp]
    unfold frameAt? space?
    rw [hc]
  · rintro ⟨habort, place, hputs, hsize⟩
    exact ⟨habort, place, hputs.of_components hc, hsize⟩

/-! ### How a call ends -/

/-- Pages are placed behind the aligned frontier, and the rest goes on from
there. -/
theorem place_leads {f : Vaddr → Step Kernel Refusal α} {post : α → Kernel → Prop}
    {stop : Stop Refusal → Kernel → Prop} (hs : k.space? c.into = some s)
    (hfound : ∀ frames, found = some frames → frames.length = c.count)
    (hf : ∀ place k', c.MapsAt k place k' → k'.trail = k.trail → (f place).Leads k' post stop)
    (hstop : ∀ k', c.Halts k .abort k' → stop .abort k') :
    (Step.exact (s.heapFrontier.alignUp c.align) >>= fun place => Step.exact found >>= fun frames =>
      placeFrames c.into s place frames >>= fun _ => f place).Leads k post stop := by
  have hfrontier := frontier?_eq hs
  refine Step.Leads.exact_bind (fun place hplace => ?_) fun _ => hstop k (.refl ..)
  refine Step.Leads.exact_bind (fun frames hframes => ?_) fun _ => hstop k (.refl ..)
  have hlen := hfound frames hframes
  have hputs := puts_mapPages hs hlen hplace
  refine Step.leads_bind.2 ((placeFrames_leads c.into s place frames).mono ?_ ?_)
  · rintro _ _ ⟨frontier, hbehind, rfl⟩
    rw [hlen] at hbehind
    refine hf place _ ⟨hputs.moveFrontier frontier, rfl, frontier, hbehind, fun id => ?_⟩ rfl
    rw [frontier?_withSpace, frontier?_withSpace]
    split
    · rfl
    · rfl
  · rintro _ _ ⟨rfl, hnone, rfl⟩
    refine hstop _ ⟨rfl, rfl, fun id => ?_, .inr ⟨rfl, place, hputs, ?_⟩⟩
    · rw [frontier?_withSpace, Space.heapFrontier_mapPages]
      split
      · next hid => exact hid ▸ hfrontier.symm
      · rfl
    · rw [← hlen]
      refine Nat.le_of_not_lt fun hlt => ?_
      obtain ⟨behind, hbehind⟩ := Vaddr.exists_addPages hlt
      cases hnone.symm.trans hbehind

/-- A fault that fires is written down, and is no mapping. -/
theorem inject_notes (fault : Fault) :
    (inject fault : Step Kernel ε Bool).Leads k
      (fun _ k' => k'.components = k.components ∧ k'.layout = k.layout ∧ k'.mappings = k.mappings)
      (fun _ _ => False) := by
  refine Step.Leads.get_bind (Step.Leads.ite (fun _ => ?_) fun _ => ?_)
  · refine Step.Leads.set_bind (Step.Leads.modify_bind (Step.leads_pure.2 ⟨rfl, rfl, ?_⟩))
    exact mappings_record rfl
  · exact Step.leads_pure.2 ⟨rfl, rfl, rfl⟩

/-- Frames are handed out with no regard to components. -/
theorem reserveFrames_notes (count : Nat) :
    (reserveFrames count).StaysFrom (fun k k' => k'.components = k.components ∧
      k'.layout = k.layout ∧ k'.mappings = k.mappings) k := by
  refine Step.Leads.ite (fun _ => Step.Leads.refuse_bind ⟨rfl, rfl, rfl⟩) fun _ => ?_
  refine Step.leads_bind.2 ((inject_notes .failFrameReserve).mono ?_ fun _ _ => False.elim)
  intro fires k₁ hnotes
  refine Step.Leads.ite (fun _ => Step.Leads.refuse_bind hnotes) fun _ => Step.Leads.get_bind ?_
  refine Step.Leads.exact_bind (fun taken _ => ?_) fun _ => hnotes
  refine Step.Leads.ite (fun _ => Step.Leads.refuse_bind hnotes) fun _ => ?_
  refine Step.Leads.exact_bind (fun first _ => ?_) fun _ => hnotes
  obtain ⟨hc, hl, hm⟩ := hnotes
  refine Step.Leads.set_bind (Step.Leads.modify_bind (Step.leads_pure.2 ⟨hc, hl, ?_⟩))
  exact (mappings_record rfl).trans hm

/-- How a call ends: its pages are placed and it is written down, or it halts. -/
abbrev Ends (c : Call) (k : Kernel) (step : Step Kernel Refusal Vaddr) : Prop :=
  step.Leads k
    (fun vaddr k' => ∃ place, c.MapsAt k place k' ∧ vaddr.toNat = place.toNat + c.offset ∧
      k'.mappings = k.mappings ++ [c.event vaddr])
    (c.Halts k)

theorem mappings_append {event : Event} (ht : k'.trail = k.trail) (h : event.isMapping = true) :
    mappings { k' with trail := k'.trail.record event } = k.mappings ++ [event] := by
  unfold mappings
  rw [ht, Trail.toList_record, List.filter_append, List.filter_cons_of_pos h]
  rfl

theorem Ends.of_components {step : Step Kernel Refusal Vaddr} (h : c.Ends k' step)
    (hc : k'.components = k.components) (hl : k'.layout = k.layout)
    (hm : k'.mappings = k.mappings) :
    step.Leads k'
      (fun vaddr k'' => ∃ place, c.MapsAt k place k'' ∧ vaddr.toNat = place.toNat + c.offset ∧
        k''.mappings = k.mappings ++ [c.event vaddr])
      (c.Halts k) := by
  refine Step.Leads.mono h ?_ fun _ _ hstop => hstop.of_components hc hl hm
  rintro vaddr k'' ⟨place, hmaps, hvaddr, hmappings⟩
  exact ⟨place, hmaps.of_components hc hl, hvaddr, hm ▸ hmappings⟩

/-- A component that is not there is given nothing. -/
theorem ends_of_knownSpace {f : Space → Step Kernel Refusal Vaddr}
    (h : ∀ s, k.space? c.into = some s → c.Ends k (f s)) : c.Ends k (knownSpace c.into >>= f) := by
  refine Step.leads_bind.2 ((knownSpace_leads c.into).mono ?_ ?_)
  · rintro s _ ⟨rfl, hs⟩
    exact h s hs
  · rintro why _ ⟨rfl, _⟩
    exact .refl ..

theorem frames_ends (first : Paddr) (count : Nat) (align : UInt64) (into : ComponentId) :
    (Call.frames first count align into).Ends k (aliasFrames first count align into) := by
  refine aliasFrames_walks (I := fun _ k' => k'.components = k.components ∧
    k'.layout = k.layout ∧ k'.mappings = k.mappings) ⟨rfl, rfl, rfl⟩ (fun _ => .refl ..)
    ((inject_notes _).mono (fun _ _ => id) fun _ _ => False.elim) ?_
  rintro gap k' hgap _ ⟨hc, hl, hm⟩
  suffices hplaced : (Call.frames first count align into).Ends k'
      (placeRun first count align into gap) from hplaced.of_components hc hl hm
  refine ends_of_knownSpace (c := .frames first count align into) fun s hs => ?_
  refine place_leads (c := .frames first count align into) hs (fun frames hframes => ?_)
    (fun place k'' hmaps htrail => ?_) fun _ hstop => hstop
  · by_cases hcount : count = 0
    · cases gap with
      | true => exact absurd hcount (Nat.ne_of_gt (Nat.lt_of_succ_lt (hgap rfl)))
      | false =>
        obtain ⟨run, hrun, hrest⟩ := Option.bind_eq_some_iff.1 hframes
        obtain rfl := Option.some.inj hrest
        exact (Paddr.run?_eq_some hrun).1
    · exact length_mappedRun? hframes hcount
  · exact Step.Leads.modify_bind
      (Step.leads_pure.2 ⟨place, hmaps.record, rfl, mappings_append htrail rfl⟩)

theorem device_ends (into : ComponentId) (paddr : Paddr) (size : UInt64) :
    (Call.device into paddr size).Ends k (mapDevice into paddr size) := by
  refine mapDevice_leads (fun _ _ => .refl ..) (fun _ _ => .refl ..) (fun _ _ => .refl ..) ?_
  intro hsize hin s hs base _
  refine place_leads (c := .device into paddr size) hs
    (fun frames hframes => (Paddr.run?_eq_some hframes).1) (fun place k' hmaps htrail => ?_)
    fun _ hstop => hstop
  refine Step.Leads.modify_bind (Step.leads_exact.2 ⟨fun vaddr hvaddr => ?_, fun hnone => ?_⟩)
  · obtain ⟨word, hword, rfl⟩ := Option.map_eq_some_iff.1 hvaddr
    rw [word64?_eq_some_iff] at hword
    exact ⟨place, hmaps.record, hword, mappings_append htrail rfl⟩
  -- The offset lies in the first page, and the frontier is behind it.
  · obtain ⟨frontier, hfrontier, _⟩ := hmaps.behind
    rw [Vaddr.addPages_eq_some_iff] at hfrontier
    obtain ⟨hsome, _⟩ := devicePages_bounds hsize (deviceRangeFits_iff.1 hin)
    have hone : 1 * pageSize ≤ devicePages paddr size * pageSize :=
      Nat.mul_le_mul_right _ (Nat.one_le_iff_ne_zero.2 hsome)
    have hpage : paddr.toNat % pageSize < pageSize := Nat.mod_lt _ (by decide)
    have hlast : frontier.toNat < UInt64.size := frontier.word.toNat_lt
    change frontier.toNat = place.toNat + devicePages paddr size * pageSize at hfrontier
    unfold Vaddr.ofNat? at hnone
    rw [Option.map_eq_none_iff, word64?_eq_none_iff] at hnone
    omega

theorem run_ends (c : Call) : c.Ends k c.run := by
  cases c with
  | frames first count align into => exact frames_ends first count align into
  | device into paddr size => exact device_ends into paddr size

end Call

end Kernel

end CapabilityBroker
