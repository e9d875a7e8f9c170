/-
CapabilityBroker/Proofs/Carving/Memory.lean

Parcels of the contiguous region.

Parcels that are cut off the region lie one behind the other (`Parcel.laidOut`), so
the offset of each is the number of pages in those before it.  `b.Cuts region parcels
b'` says of two states that between them these parcels were cut off and nothing else:
the region is as much shorter, the trail has their events, and the kernel shows their
pages at the addresses that were answered.  Such stretches follow one another
(`Cuts.trans`), so it is enough to know what one allocation does.

An allocation that does not answer declines (`Broker.Declines`).  A refusal leaves the
region as it was, and if it is for the region's sake, it says how much is left.  But
one that breaks off later has taken its pages off the region already.
-/
import CapabilityBroker.Proofs.Grants.Memory
import CapabilityBroker.Proofs.Ledger.Memory
import CapabilityBroker.Proofs.Sound.Basic
import CapabilityBroker.Proofs.Unchanged.Memory

namespace CapabilityBroker

variable {b b' b'' : Broker} {into : ComponentId} {count : Nat} {region : ContigRegion}

/-! ### Parcels -/

/-- Pages of the region that a component was given, and where it has them. -/
structure Parcel where
  into : ComponentId
  count : Nat
  vaddr : Vaddr
deriving DecidableEq

namespace Parcel

/-- The number of pages in all the parcels. -/
def total : List Parcel → Nat
  | [] => 0
  | parcel :: rest => parcel.count + total rest

/-- The parcels with their offsets, one behind the other. -/
def laidOut : (offset : Nat) → List Parcel → List (Nat × Parcel)
  | _, [] => []
  | offset, parcel :: rest => (offset, parcel) :: laidOut (offset + parcel.count) rest

/-- The event of a parcel at an offset. -/
def event (e : Nat × Parcel) : Event := .contigAllocated e.2.into e.1 e.2.count

variable {parcels parcels' : List Parcel}

theorem total_append : total (parcels ++ parcels') = total parcels + total parcels' := by
  induction parcels with
  | nil => exact (Nat.zero_add _).symm
  | cons parcel rest ih =>
    show parcel.count + total (rest ++ parcels') = parcel.count + total rest + total parcels'
    rw [ih, Nat.add_assoc]

theorem laidOut_append (offset : Nat) : laidOut offset (parcels ++ parcels') =
    laidOut offset parcels ++ laidOut (offset + total parcels) parcels' := by
  induction parcels generalizing offset with
  | nil => rfl
  | cons parcel rest ih =>
    show (offset, parcel) :: laidOut _ (rest ++ parcels') = _
    rw [ih, total, Nat.add_assoc]
    rfl

/-- The offset of a parcel is the number of pages in those before it. -/
theorem getElem?_laidOut (offset k : Nat) : (laidOut offset parcels)[k]? =
    parcels[k]?.map fun parcel => (offset + total (parcels.take k), parcel) := by
  induction parcels generalizing offset k with
  | nil => rfl
  | cons parcel rest ih =>
    cases k with
    | zero => rfl
    | succ k =>
      rw [List.take_succ_cons, total, ← Nat.add_assoc]
      exact ih _ k

theorem length_laidOut (offset : Nat) : (laidOut offset parcels).length = parcels.length := by
  induction parcels generalizing offset with
  | nil => rfl
  | cons parcel rest ih => exact congrArg Nat.succ (ih _)

end Parcel

/-! ### What the trail has of them -/

/-- Whether an event is that of a parcel. -/
def Event.isCarving : Event → Bool
  | .contigAllocated .. => true
  | _ => false

theorem Event.isCarving_eq_false {event : Event} (h : event.isRoutine = true) :
    event.isCarving = false := by
  cases event <;> first | rfl | cases h

namespace Broker

/-- The events of parcels on the trail, in order. -/
def carvings (b : Broker) : List Event := b.trail.toList.filter Event.isCarving

/-- Any other event leaves them as they are. -/
theorem carvings_record (b : Broker) {event : Event} (h : event.isCarving = false) :
    carvings { b with trail := b.trail.record event } = b.carvings := by
  unfold carvings
  rw [Trail.toList_record, List.filter_append, List.filter_cons_of_neg (ne_true_of_eq_false h),
    List.filter_nil, List.append_nil]

theorem carvings_contigAllocated (b : Broker) (e : Nat × Parcel) :
    carvings { b with trail := b.trail.record (Parcel.event e) } =
      b.carvings ++ [Parcel.event e] := by
  unfold carvings
  rw [Trail.toList_record, List.filter_append, List.filter_cons_of_pos rfl, List.filter_nil]

/-- The region is as it was, and the trail has no more of it. -/
structure SameCarvings (b b' : Broker) : Prop where
  contig : b'.contig = b.contig
  carvings : b'.carvings = b.carvings

instance : IsPreorder Broker SameCarvings where
  refl _ := ⟨rfl, rfl⟩
  trans _ _ _ h h' := ⟨h'.contig.trans h.contig, h'.carvings.trans h.carvings⟩

theorem SameCarvings.used (h : b.SameCarvings b') : b'.contigUsed = b.contigUsed := by
  unfold contigUsed
  rw [h.contig]

theorem SameCarvings.capacity (h : b.SameCarvings b') :
    b'.contigCapacity = b.contigCapacity := by
  unfold contigCapacity
  rw [h.contig]

end Broker

theorem sameCarvings_notes : AdmitsNotes Broker.SameCarvings where
  lines _ _ := ⟨rfl, rfl⟩
  events b _ he := ⟨rfl, b.carvings_record (Event.isCarving_eq_false he)⟩

/-- Whatever leaves the region alone. -/
theorem mappings_sameCarvings : AdmitsMappings (fun _ _ => True) Broker.SameCarvings where
  toAdmitsNotes := sameCarvings_notes
  spans _ _ := ⟨rfl, rfl⟩
  pages _ _ _ := ⟨rfl, rfl⟩
  kernel _ _ _ := ⟨rfl, rfl⟩
  reads _ := trivial
  reserve _ := .always
  frames _ _ _ _ _ := .always
  device _ _ _ := .always

/-! ### Stretches of a run -/

/-- The kernel shows the pages of the parcel: they are those of the region from an offset
on. -/
def Kernel.ShowsParcel (k : Kernel) (base : Paddr) (offset : Nat) (parcel : Parcel) : Prop :=
  ∀ j < parcel.count, ∃ place frame, parcel.vaddr.addPages j = some place ∧
    frame.toNat = base.toNat + (offset + j) * pageSize ∧ k.Shows ⟨parcel.into, place⟩ frame

theorem Kernel.ShowsParcel.advance {w : Kernel.Warrant} {k k' : Kernel} {base : Paddr}
    {offset : Nat} {parcel : Parcel} (h : k.ShowsParcel base offset parcel)
    (ha : Kernel.Advance w k k') : k'.ShowsParcel base offset parcel := by
  intro j hj
  obtain ⟨place, frame, hplace, hframe, hshows⟩ := h j hj
  exact ⟨place, frame, hplace, hframe, hshows.advance ha⟩

namespace Broker

open Parcel (total laidOut)

/-- Between the two states these parcels were cut off the region, and nothing else. -/
structure Cuts (region : ContigRegion) (parcels : List Parcel) (b b' : Broker) : Prop where
  deepens : b.Deepens b'
  contig : b'.contig = some (carved region (total parcels))
  written : b'.carvings = b.carvings ++ (laidOut region.used parcels).map Parcel.event
  shown : ∀ e ∈ laidOut region.used parcels, b'.kernel.ShowsParcel region.base e.1 e.2

namespace Cuts

variable {parcels parcels' : List Parcel}

theorem of_same (hd : b.Deepens b') (hs : b.SameCarvings b') (hregion : b.contig = some region) :
    b.Cuts region [] b' where
  deepens := hd
  contig := hs.contig.trans hregion
  written := hs.carvings.trans (List.append_nil _).symm
  shown _ he := by cases he

theorem trans (h : b.Cuts region parcels b')
    (h' : b'.Cuts (carved region (total parcels)) parcels' b'') :
    b.Cuts region (parcels ++ parcels') b'' where
  deepens := trans_of Deepens h.deepens h'.deepens
  contig := by
    rw [h'.contig, Parcel.total_append]
    unfold carved
    rw [Nat.add_assoc]
  written := by
    rw [h'.written, h.written, List.append_assoc, Parcel.laidOut_append, List.map_append]
    rfl
  shown e he := by
    rw [Parcel.laidOut_append] at he
    rcases List.mem_append.1 he with he | he
    · exact (h.shown e he).advance h'.deepens
    · exact h'.shown e he

end Cuts

/-- The region had room for the parcel, and the parcel was cut off. -/
def GivesOut (parcel : Parcel) (b b' : Broker) : Prop :=
  ∃ region, (b.contig = some region ∧ region.used + parcel.count ≤ region.capacity) ∧
    b.Cuts region [parcel] b'

namespace GivesOut

variable {parcel : Parcel}

theorem room (h : b.GivesOut parcel b') : b.contigUsed + parcel.count ≤ b.contigCapacity := by
  obtain ⟨region, ⟨hregion, hroom⟩, _⟩ := h
  rw [contigUsed_eq hregion, contigCapacity_eq hregion]
  exact hroom

/-- What comes before it leaves the region alone. -/
theorem after (h : b'.GivesOut parcel b'') (hd : b.Deepens b') (hs : b.SameCarvings b') :
    b.GivesOut parcel b'' := by
  obtain ⟨region, ⟨hregion, hroom⟩, hcuts⟩ := h
  have hregion : b.contig = some region := hs.contig.symm.trans hregion
  exact ⟨region, ⟨hregion, hroom⟩, (Cuts.of_same hd hs hregion).trans hcuts⟩

/-- So does what comes behind it. -/
theorem before (h : b.GivesOut parcel b') (hd : b'.Deepens b'') (hs : b'.SameCarvings b'') :
    b.GivesOut parcel b'' := by
  obtain ⟨region, hroom, hcuts⟩ := h
  exact ⟨region, hroom, hcuts.trans (Cuts.of_same hd hs hcuts.contig)⟩

end GivesOut

/-- How an allocation of so many pages ends without an answer. -/
inductive Declines (count : Nat) (b : Broker) : Stop Failure → Broker → Prop
  /-- Something else is in the way. -/
  | refused {failure : Failure} {b' : Broker} (ordinary : failure.defect? = none)
      (other : ∀ requested remaining, failure ≠ .contigExhausted requested remaining)
      (same : b.SameCarvings b') : Declines count b (.refused failure) b'
  /-- The region has not so many pages left. -/
  | full {b' : Broker} (lacks : b.contigCapacity < b.contigUsed + count)
      (same : b.SameCarvings b') :
      Declines count b (.refused (.contigExhausted count (b.contigCapacity - b.contigUsed))) b'
  /-- The pages were taken off the region, and nobody has them. -/
  | lost {why : Stop Failure} {b' : Broker} {region : ContigRegion}
      (there : b.contig = some region) (room : region.used + count ≤ region.capacity)
      (breaks : ¬ why.Ordinary) (contig : b'.contig = some (carved region count)) :
      Declines count b why b'

namespace Declines

variable {why : Stop Failure}

theorem after (h : b'.Declines count why b'') (hs : b.SameCarvings b') :
    b.Declines count why b'' := by
  cases h with
  | refused ordinary other same =>
    exact .refused ordinary other (trans_of SameCarvings hs same)
  | full lacks same =>
    rw [hs.used, hs.capacity] at lacks ⊢
    exact .full lacks (trans_of SameCarvings hs same)
  | lost there room breaks contig =>
    exact .lost (hs.contig.symm.trans there) room breaks contig

/-- What is given up afterwards is no part of the region. -/
theorem tidy (h : b.Declines count why b') (hs : b'.SameCarvings b'') :
    b.Declines count why b'' := by
  cases h with
  | refused ordinary other same =>
    exact .refused ordinary other (trans_of SameCarvings same hs)
  | full lacks same => exact .full lacks (trans_of SameCarvings same hs)
  | lost there room breaks contig =>
    exact .lost there room breaks (hs.contig.trans contig)

/-- An allocation that stops when its parcel was cut off loses it. -/
theorem of_givesOut {parcel : Parcel} (h : b.GivesOut parcel b') (hwhy : ¬ why.Ordinary) :
    b.Declines parcel.count why b' := by
  obtain ⟨region, ⟨hregion, hroom⟩, hcuts⟩ := h
  exact .lost hregion hroom hwhy hcuts.contig

/-- A pool that has no slot refuses. -/
theorem of_pool {refusal : Pool.Refusal} (hs : b.SameCarvings b') :
    b.Declines count (.refused (.pool refusal)) b' := .refused rfl nofun hs

end Declines

end Broker

/-! ### The region only recedes -/

namespace Broker

/-- The region is where it was, and has given up more pages if anything. -/
def Recedes (b b' : Broker) : Prop :=
  ∀ region, b.contig = some region → ∃ count, b'.contig = some (carved region count)

theorem Recedes.used_le (h : b.Recedes b') : b.contigUsed ≤ b'.contigUsed := by
  cases hregion : b.contig with
  | none =>
    unfold contigUsed
    rw [hregion]
    exact Nat.zero_le _
  | some region =>
    obtain ⟨count, hcontig⟩ := h region hregion
    rw [contigUsed_eq hregion, contigUsed_eq hcontig]
    exact Nat.le_add_right _ _

theorem SameCarvings.recedes (h : b.SameCarvings b') : b.Recedes b' :=
  fun _ hregion => ⟨0, h.contig.trans hregion⟩

theorem GivesOut.recedes {parcel : Parcel} (h : b.GivesOut parcel b') : b.Recedes b' := by
  intro region hregion
  obtain ⟨region', ⟨hregion', _⟩, hcuts⟩ := h
  obtain rfl := Option.some.inj (hregion.symm.trans hregion')
  exact ⟨_, hcuts.contig⟩

theorem Declines.recedes {why : Stop Failure} (h : b.Declines count why b') : b.Recedes b' := by
  cases h with
  | refused _ _ same => exact same.recedes
  | full _ same => exact same.recedes
  | lost there _ _ contig =>
    intro region hregion
    obtain rfl := Option.some.inj (hregion.symm.trans there)
    exact ⟨_, contig⟩

/-- A refusal that its caller can live with leaves the region alone. -/
theorem Declines.ordinary {why : Stop Failure} (h : b.Declines count why b')
    (hwhy : why.Ordinary) : b.SameCarvings b' := by
  cases h with
  | refused _ _ same => exact same
  | full _ same => exact same
  | lost _ _ breaks _ => exact absurd hwhy breaks

end Broker

/-! ### Allocations -/

theorem not_ordinary_abort : ¬ Stop.Ordinary .abort := fun ⟨_, heq, _⟩ => by cases heq

/-- A mapping that shows its frames, the first of which is so far behind the base of the
region, shows the parcel. -/
theorem Kernel.ShowsRun.parcel {k : Kernel} {base first : Paddr} {offset : Nat} {vaddr : Vaddr}
    (h : k.ShowsRun into vaddr first count)
    (hfound : ∀ j < count, k.FindsPage into vaddr first j)
    (hfirst : base.addPages offset = some first) :
    k.ShowsParcel base offset ⟨into, count, vaddr⟩ := by
  intro j hj
  obtain ⟨place, frame, hplace, hframe, _⟩ := hfound j hj
  have hshows := h j hj place frame hplace hframe
  rw [Paddr.addPages_eq_some_iff] at hfirst hframe
  refine ⟨place, frame, hplace, ?_, hshows⟩
  rw [hframe, hfirst, Nat.add_assoc, ← Nat.add_mul]

/-- Pages that the region has given up are mapped and put on record, or they are lost. -/
theorem giveOut_leads {p : Pool Page} {first : Paddr} {start : Nat} {align : UInt64}
    (message : String) (hc : count ≠ 0) (hgives : b.GivesUp region count b')
    (hpages : b'.pages = p.reserveRun start count)
    (hfirst : region.base.addPages region.used = some first) :
    Step.Leads (do
        let vaddr ← (mapVerified first count align into).explain .fatal
        let head ← publishRun (p.runOf start count) first (some (into, vaddr))
        note (.contigAllocated into region.used count)
        log .debug message
        pure (head, vaddr)) b'
      (fun answer b'' => b.GivesOut ⟨into, count, answer.2⟩ b'') (b.Declines count) := by
  obtain ⟨hregion, hroom, rfl⟩ := hgives
  refine Step.leads_bind.2 (Step.leads_explain.2 ((mapVerified_finds.and
    (mapVerified_leads (w := .any) trivial)).mono ?_ ?_))
  swap
  · rintro why _ ⟨⟨k, _, rfl⟩, _⟩
    refine .lost hregion hroom ?_ rfl
    rintro ⟨failure, heq, hordinary⟩
    cases why with
    | refused defect =>
      cases heq
      cases hordinary
    | abort => cases heq
  rintro vaddr _ ⟨⟨k, _, rfl, hfound⟩, hadvance, hshown⟩
  have hposts := publishRun_posts (r := ⟨first, some (into, vaddr), start, count⟩)
    (b := { b with kernel := k, contig := some (Broker.carved region count) }) hc hpages
  refine Step.leads_bind.2 (hposts.mono ?_ fun why b' hstop =>
    absurd (exists_page? (b := { b with kernel := k }) start hfound) hstop)
  rintro head _ ⟨pages, firstPage, _, rfl⟩
  refine Step.Leads.modify_bind (Step.Leads.modify_bind (Step.leads_pure.2 ?_))
  refine ⟨region, ⟨hregion, hroom⟩, hadvance.kernel, rfl, ?_, ?_⟩
  · refine (Broker.carvings_contigAllocated _ (region.used, ⟨into, count, vaddr⟩)).trans ?_
    exact congrArg (· ++ _) (b.carvings_record rfl)
  · rintro e he
    obtain rfl := List.mem_singleton.1 he
    exact hshown.parcel hfound hfirst

/-- Pages are carved off the region and given out, or the allocation declines. -/
theorem carveContig_givesOut (into : ComponentId) (count : Nat) (align : UInt64) :
    (carveContig into count align).Leads b
      (fun answer b' => b.GivesOut ⟨into, count, answer.2⟩ b') (b.Declines count) := by
  refine Step.Leads.ite (fun _ => Step.Leads.refuse_bind ?_) fun hc => ?_
  · exact .refused rfl nofun (refl_of Broker.SameCarvings b)
  refine Step.leads_bind.2 (Part.ask_leads ((Pool.allocateRun_leads hc).mono ?_ ?_))
  swap
  · rintro why _ ⟨_, rfl, rfl⟩
    exact .of_pool ⟨rfl, rfl⟩
  rintro _ _ ⟨start, _, rfl, rfl⟩
  have hkept : b.SameCarvings (pagePool.put (b.pages.reserveRun start count) b) := ⟨rfl, rfl⟩
  have htidy : ∀ why b', b.Declines count why b' →
      b.Declines count why (pagePool.put (b'.pages.unreserveAll (b.pages.runOf start count)) b') :=
    fun _ _ h => h.tidy ⟨rfl, rfl⟩
  refine Step.leads_cleanly.2 (Step.Leads.mono ?_ (fun _ _ => id) htidy)
  refine Step.leads_bind.2 ((advanceContig_gives hc).mono ?_ ?_)
  · rintro ⟨first, _⟩ b₂ ⟨region, hgives, hfirst, rfl⟩
    have hpages : b₂.pages = b.pages.reserveRun start count := hgives.rest ▸ rfl
    refine (giveOut_leads _ hc hgives hpages hfirst).mono (fun _ _ h => h.after ?_ hkept)
      fun _ _ h => h.after hkept
    exact refl_of Broker.Deepens b
  · rintro why b₂ (⟨rfl, hfull, rfl⟩ | ⟨rfl, region, ⟨hregion, hroom, rfl⟩, _⟩)
    · exact (Broker.Declines.full hfull (refl_of Broker.SameCarvings _)).after hkept
    · exact .lost hregion hroom not_ordinary_abort rfl

/-- The same as a span.  No span is as long as the pool of pages can be, so none is too
long. -/
theorem allocateContiguousShared_givesOut (hlimit : b.pages.capacity < Pool.capacityLimit)
    (into : ComponentId) (count : Nat) (align : UInt64) :
    (allocateContiguousShared into count align).Leads b
      (fun answer b' => b.GivesOut ⟨into, count, answer.2⟩ b') (b.Declines count) := by
  refine Step.leads_bind.2 (Part.ask_leads (Pool.allocate_leads.mono ?_ ?_))
  swap
  · rintro why _ ⟨_, rfl, rfl⟩
    exact .of_pool ⟨rfl, rfl⟩
  rintro slot p _
  have hkept : b.SameCarvings (spanPool.put p b) := ⟨rfl, rfl⟩
  refine Step.leads_cleanly.2 (Step.Leads.mono ?_ (fun _ _ => id)
    fun why b' (h : b.Declines count why b') => h.tidy ⟨rfl, rfl⟩)
  have hcarve := (spanLength_of_run (b := spanPool.put p b) hlimit).and
    (carveContig_givesOut (b := spanPool.put p b) into count align)
  refine Step.leads_bind.2 (Step.Leads.mono hcarve ?_ fun _ _ h => h.2.after hkept)
  rintro ⟨head, vaddr⟩ b₂ ⟨hlength, hgives⟩
  have hgives := hgives.after (refl_of Broker.Deepens b) hkept
  refine Step.leads_bind.2 (((mappings_sameCarvings.activateSpan slot head count b₂).and
    (memory_deepens.activateSpan slot head count b₂ |>.and activateSpan_leads)).mono ?_ ?_)
  · rintro id b₃ ⟨hsame, hdeepens, _⟩
    exact Step.leads_pure.2 (hgives.before hdeepens hsame)
  · rintro why _ ⟨_, _, ⟨rfl, _⟩ | ⟨_, hlong⟩, rfl⟩
    · exact .of_givesOut hgives not_ordinary_abort
    · exact absurd hlength hlong

end CapabilityBroker
