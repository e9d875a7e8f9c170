/-
CapabilityBroker/Proofs/Kernel/Device.lean

Mappings of device memory, byte by byte.

A range of device memory may begin and end anywhere in a page.  What is mapped
are the pages that it touches, and the answer lies as far behind the start of a
page as the range does, so every byte of the range is behind the address that
lies as far behind the answer (`MapsDevice`).  The guard on the end of the range
leaves a page of room, and with it every sum on the way fits the word.

What was mapped before stays only if the frontier lies behind it (`Clear`).  It
does so as long as no mapping has spilled (`Calm`).  A mapping that leaves the
address space puts its pages in before it ends its thread, and does not move the
frontier behind them; a later one that fits then goes to the same pages
(`mapping_after_a_spill_takes_an_address`).
-/
import CapabilityBroker.Proofs.Kernel.Fresh
import CapabilityBroker.Proofs.Kernel.Primitive
import CapabilityBroker.Proofs.Kernel.Ranges

namespace CapabilityBroker.Kernel

variable {k k' : Kernel} {into : ComponentId} {s : Space} {paddr : Paddr} {size : UInt64}
  {start vaddr : Vaddr} {q : Nat}

/-! ### The pages of a range -/

/-- A byte of the range lies in the physical page. -/
def Touches (paddr : Paddr) (size : UInt64) (q : Nat) : Prop :=
  q * pageSize < paddr.toNat + size.toNat ∧ paddr.toNat < (q + 1) * pageSize

/-- The pages that a range touches are consecutive, from the page that it begins in. -/
theorem touches_iff (hsize : size ≠ 0) :
    Touches paddr size q ↔
      paddr.toNat / pageSize ≤ q ∧ q < paddr.toNat / pageSize + devicePages paddr size := by
  have hpos : 0 < size.toNat := Nat.pos_of_ne_zero fun h0 => hsize (UInt64.toNat.inj h0)
  unfold Touches devicePages pageSize
  omega

/-- Rounded to pages, the range fits between the frontier and the end of the
address space. -/
def Space.FitsDevice (s : Space) (paddr : Paddr) (size : UInt64) : Prop :=
  (s.heapFrontier.toNat + (pageSize - 1)) / pageSize * pageSize +
    devicePages paddr size * pageSize < UInt64.size

theorem Space.FitsDevice.hasRoom (h : s.FitsDevice paddr size) :
    s.hasRoom 4096 (devicePages paddr size) = true := by
  unfold FitsDevice at h
  obtain ⟨word, hword⟩ := word64?_isSome_iff.2 (Nat.lt_of_le_of_lt (Nat.le_add_right _ _) h)
  have hstart : s.heapFrontier.alignUp 4096 = some ⟨word⟩ :=
    Vaddr.alignUp_eq_some_iff.2 (word64?_eq_some_iff.1 hword)
  rw [Space.hasRoom_iff hstart]
  apply Vaddr.exists_addPages
  show word.toNat + _ < _
  rw [word64?_eq_some_iff.1 hword]
  exact h

/-! ### The bytes of a range -/

/-- Where the pages of a range are mapped from an address on, each of its bytes is
found as far behind that address as it lies behind the start of its first page. -/
theorem translates_byte {d : Nat} (ha : pageSize ∣ start.toNat)
    (hfits : paddr.toNat + size.toNat + pageSize < UInt64.size)
    (hbelow : start.toNat + devicePages paddr size * pageSize < UInt64.size)
    (hpages : ∀ j < devicePages paddr size, ∃ frame,
      k.frameAt? into (start.pageNumber + j) = some frame ∧
        frame.toNat = paddr.toNat - paddr.toNat % pageSize + j * pageSize)
    (hd : d < size.toNat) :
    ∃ v p, v.toNat = start.toNat + paddr.toNat % pageSize + d ∧ p.toNat = paddr.toNat + d ∧
      k.Translates into v p := by
  -- The byte lies in page `j` of the range, at the place `rest` of it.
  obtain ⟨j, hj⟩ : ∃ j, j = (paddr.toNat % pageSize + d) / pageSize := ⟨_, rfl⟩
  obtain ⟨rest, hrest⟩ : ∃ rest, rest = (paddr.toNat % pageSize + d) % pageSize := ⟨_, rfl⟩
  have hparts : paddr.toNat % pageSize + d = j * pageSize + rest := by
    rw [hj, hrest, Nat.div_add_mod']
  have hlt : rest < pageSize := hrest ▸ Nat.mod_lt _ (by decide)
  have hpage : j < devicePages paddr size := by
    rw [hj]
    unfold devicePages pageSize
    omega
  have hstep : (j + 1) * pageSize ≤ devicePages paddr size * pageSize :=
    Nat.mul_le_mul_right _ hpage
  rw [Nat.add_mul, Nat.one_mul] at hstep
  obtain ⟨vword, hv⟩ := word64?_isSome_iff.2
    (show start.toNat + paddr.toNat % pageSize + d < UInt64.size by omega)
  obtain ⟨pword, hp⟩ := word64?_isSome_iff.2 (show paddr.toNat + d < UInt64.size by omega)
  have hvaddr := word64?_eq_some_iff.1 hv
  have hpaddr := word64?_eq_some_iff.1 hp
  refine ⟨⟨vword⟩, ⟨pword⟩, hvaddr, hpaddr, translates_iff.2 ?_⟩
  have hplace : (⟨vword⟩ : Vaddr).toNat = start.toNat + rest + j * pageSize := by
    show vword.toNat = _
    omega
  obtain ⟨hnumber, hoffset⟩ := place_of_start ha hlt hplace
  obtain ⟨frame, hentry, hframe⟩ := hpages j hpage
  refine ⟨frame, hnumber ▸ hentry, ?_⟩
  have hmod : paddr.toNat % pageSize ≤ paddr.toNat := Nat.mod_le _ _
  have hsum : frame.toNat + (⟨vword⟩ : Vaddr).offset = paddr.toNat + d := by
    rw [hoffset]
    omega
  unfold Paddr.ofNat?
  rw [hsum, hp]
  rfl

/-- The virtual page that shows a physical page of the range, if the range is
mapped at the address. -/
def pageFor (vaddr : Vaddr) (paddr : Paddr) (q : Nat) : Nat :=
  vaddr.pageNumber + (q - paddr.toNat / pageSize)

/-- What a mapping of device memory leaves behind: every byte of the range is
translated in place, and the page table of the component has gained the pages
that the range touches, and nothing else. -/
structure MapsDevice (k : Kernel) (into : ComponentId) (paddr : Paddr) (size : UInt64)
    (vaddr : Vaddr) (k' : Kernel) : Prop where
  congruent : vaddr.toNat % pageSize = paddr.toNat % pageSize
  bytes : ∀ d < size.toNat, ∃ v p, v.toNat = vaddr.toNat + d ∧ p.toNat = paddr.toNat + d ∧
    k'.Translates into v p
  pages : ∀ q, Touches paddr size q → ∃ frame, frame.toNat = q * pageSize ∧
    k'.frameAt? into (pageFor vaddr paddr q) = some frame
  others : ∀ id n, ¬ (id = into ∧ ∃ q, Touches paddr size q ∧ n = pageFor vaddr paddr q) →
    k'.frameAt? id n = k.frameAt? id n

/-- The pages of the call are those that show the pages of the range. -/
theorem covers_iff_touches {id : ComponentId} {n : Nat} (hsize : size ≠ 0)
    (hnumber : vaddr.pageNumber = start.pageNumber) :
    (Call.device into paddr size).Covers start id n ↔
      id = into ∧ ∃ q, Touches paddr size q ∧ n = pageFor vaddr paddr q := by
  simp only [touches_iff hsize]
  unfold pageFor
  rw [hnumber]
  constructor
  · rintro ⟨hid, hle, hlt⟩
    change n < start.pageNumber + devicePages paddr size at hlt
    refine ⟨hid, paddr.toNat / pageSize + (n - start.pageNumber), ⟨?_, ?_⟩, ?_⟩
    · exact Nat.le_add_right _ _
    · omega
    · omega
  · rintro ⟨hid, q, ⟨hle, hlt⟩, rfl⟩
    refine ⟨hid, Nat.le_add_right _ _, ?_⟩
    show _ < start.pageNumber + devicePages paddr size
    omega

/-- Pages that are placed for a range leave what they should. -/
theorem MapsDevice.of_places (hsize : size ≠ 0)
    (hfits : paddr.toNat + size.toNat + pageSize < UInt64.size)
    (hmaps : (Call.device into paddr size).MapsAt k start k')
    (hvaddr : vaddr.toNat = start.toNat + paddr.toNat % pageSize)
    (hpages : ∀ j < devicePages paddr size, ∃ frame,
      k'.frameAt? into (start.pageNumber + j) = some frame ∧
        frame.toNat = paddr.toNat - paddr.toNat % pageSize + j * pageSize) :
    k.MapsDevice into paddr size vaddr k' := by
  obtain ⟨hnumber, _, hoffset⟩ := hmaps.answer wholePages_native hvaddr
  refine ⟨hoffset, ?_, ?_, ?_⟩
  · intro d hd
    obtain ⟨frontier, hend, _⟩ := hmaps.behind
    obtain ⟨old, _, halign⟩ := hmaps.puts.aligned
    rw [Vaddr.addPages_eq_some_iff] at hend
    have hbelow : start.toNat + devicePages paddr size * pageSize < UInt64.size :=
      hend.symm ▸ frontier.word.toNat_lt
    rw [hvaddr]
    exact translates_byte (Vaddr.dvd_of_alignUp halign wholePages_native.2) hfits hbelow hpages hd
  · intro q hq
    obtain ⟨hle, hlt⟩ := (touches_iff hsize).1 hq
    obtain ⟨frame, hentry, hframe⟩ := hpages (q - paddr.toNat / pageSize) (by omega)
    refine ⟨frame, ?_, ?_⟩
    · rw [hframe]
      unfold pageSize at hle ⊢
      omega
    · unfold pageFor
      rw [hnumber]
      exact hentry
  · intro id n hn
    exact hmaps.puts.old id n fun hcovers => hn ((covers_iff_touches hsize hnumber).1 hcovers)

/-- A range that cannot be mapped is refused, and the kernel is as it was. -/
theorem mapDevice_refuses (h : size = 0 ∨ UInt64.size ≤ paddr.toNat + size.toNat + pageSize) :
    ∃ reason, mapDevice into paddr size k = .error (.refused reason) k := by
  have hleads : (mapDevice into paddr size).Leads k (fun _ _ => False)
      (fun why k' => (∃ reason, why = .refused reason) ∧ k' = k) := by
    refine mapDevice_leads (fun _ reason => ⟨⟨reason, rfl⟩, rfl⟩)
      (fun _ reason => ⟨⟨reason, rfl⟩, rfl⟩) (fun _ reason => ⟨⟨reason, rfl⟩, rfl⟩) ?_
    intro hsize hin
    rw [deviceRangeFits_iff] at hin
    rcases h with h0 | hwraps
    · exact absurd h0 hsize
    · omega
  obtain ⟨_, _, hno⟩ | ⟨_, hstop, ⟨reason, rfl⟩, hsame⟩ := hleads.ends
  · exact hno.elim
  · rw [hsame] at hstop
    exact ⟨reason, hstop⟩

/-- A range that fits is mapped. -/
theorem exists_mapDevice (hs : k.space? into = some s) (hroom : s.FitsDevice paddr size)
    (hsize : size ≠ 0) (hfits : paddr.toNat + size.toNat + pageSize < UInt64.size) :
    ∃ vaddr k', mapDevice into paddr size k = .ok vaddr k' := by
  have hgrows : (mapDevice into paddr size).Leads k _ _ := mapDevice_grows
  obtain ⟨vaddr, hrun, _⟩ | ⟨why, _, hstop, _⟩ := hgrows.ends
  · exact ⟨vaddr, _, hrun⟩
  · rcases hstop hsize ⟨s, hs⟩ with ⟨_, hfull, _⟩ | ⟨hwraps, _⟩
    · rw [hasRoom_eq hs] at hfull
      exact absurd hroom.hasRoom hfull
    · exact absurd (deviceRangeFits_iff.2 hfits) hwraps

/-! ### What was mapped before -/

/-- A kernel that any primitives have led to, as long as none of them was a
mapping that put pages in and then ended its thread. -/
inductive Calm : Kernel → Prop where
  | new {selfId : ComponentId} {layout : Layout} {faults : List Fault} {k : Kernel}
      (created : create? selfId layout faults = some k) : Calm k
  | call {k : Kernel} (before : Calm k) (p : Primitive)
      (settled : ∀ c, p = .map c → ¬ (Issued.mk c k).Spills) : Calm (p.run.final k)

/-- The frontiers of a calm kernel lie behind every page. -/
theorem Calm.clear (h : k.Calm) : k.Clear := by
  induction h with
  | new created => exact fun id n hn => absurd (frameAt?_of_create? created id n) hn
  | @call k _ p settled ih =>
    by_cases hp : ∃ c, p = .map c
    · obtain ⟨c, rfl⟩ := hp
      show ((fun _ => ()) <$> c.run).final k |>.Clear
      rw [Step.final_map]
      rcases (Issued.mk c k).ends with ⟨_, _, _, hmaps, _⟩ | ⟨why, hstop, hhalts⟩
      · exact ih.call hmaps
      · exact ih.rest (Issued.rests_of_stop (settled c rfl) hstop hhalts)
    · exact ih.rest (p.rests (fun c hc => hp ⟨c, hc⟩) k).final

/-! ### Device memory is mapped byte by byte -/

/-- For a component that is there and a range that fits behind its frontier: the
range is refused exactly if it is empty or ends less than a page before the end of
the physical address space, and then nothing changes.  Otherwise no number leaves
its word, every byte of the range is translated in place, and the pages that it
touches are what the page table gains.  If the frontiers lie behind every page,
those pages were free, and every translation stays; and they do, as long as no
mapping has spilled. -/
theorem device_memory_is_mapped_by_the_byte (hs : k.space? into = some s)
    (hroom : s.FitsDevice paddr size) :
    (size = 0 ∨ UInt64.size ≤ paddr.toNat + size.toNat + pageSize →
      ∃ reason, mapDevice into paddr size k = .error (.refused reason) k) ∧
    (¬ (size = 0 ∨ UInt64.size ≤ paddr.toNat + size.toNat + pageSize) →
      ∃ vaddr k', mapDevice into paddr size k = .ok vaddr k' ∧
        k.MapsDevice into paddr size vaddr k' ∧
        (k.Clear →
          (∀ q, Touches paddr size q → k.frameAt? into (pageFor vaddr paddr q) = none) ∧
          ∀ id v p, k.Translates id v p → k'.Translates id v p)) ∧
    (k.Calm → k.Clear) := by
  refine ⟨mapDevice_refuses, fun hmappable => ?_, Calm.clear⟩
  obtain ⟨hsize, hfits⟩ := not_or.1 hmappable
  rw [Nat.not_le] at hfits
  obtain ⟨vaddr, k', hrun⟩ := exists_mapDevice hs hroom hsize hfits
  obtain ⟨_, _, start, hmaps, hvaddr, hpages⟩ := mapDevice_places.of_ok hrun
  obtain ⟨hnumber, _⟩ := hmaps.answer wholePages_native hvaddr
  refine ⟨vaddr, k', hrun, .of_places hsize hfits hmaps hvaddr hpages, fun hclear => ⟨?_, ?_⟩⟩
  · intro q hq
    exact hclear.free hmaps ((covers_iff_touches hsize hnumber).2 ⟨rfl, q, hq, rfl⟩)
  · intro id v p ht
    exact hclear.keeps hmaps ht

instance : Decidable (s.FitsDevice paddr size) := inferInstanceAs (Decidable (_ < _))

/-- Five thousand bytes that begin sixteen bytes before the end of a page touch
three pages. -/
theorem device_registers_are_mapped :
    ∃ k s vaddr k', create? ⟨2⟩ .standard [] = some k ∧ k.space? ⟨2⟩ = some s ∧
      s.FitsDevice ⟨0xFEE00FF0⟩ 5000 ∧ mapDevice ⟨2⟩ ⟨0xFEE00FF0⟩ 5000 k = .ok vaddr k' ∧
      k.MapsDevice ⟨2⟩ ⟨0xFEE00FF0⟩ 5000 vaddr k' ∧
      (∀ id v p, k.Translates id v p → k'.Translates id v p) := by
  have hshow : ((create? ⟨2⟩ .standard []).any fun k => (k.space? ⟨2⟩).any fun s =>
      decide (s.FitsDevice ⟨0xFEE00FF0⟩ 5000)) = true := by decide +kernel
  obtain ⟨k, hk, hshow⟩ := (Option.any_eq_true _ _).1 hshow
  obtain ⟨s, hs, hroom⟩ := (Option.any_eq_true _ _).1 hshow
  have hroom := of_decide_eq_true hroom
  obtain ⟨_, hmaps, hclear⟩ := device_memory_is_mapped_by_the_byte hs hroom
  obtain ⟨vaddr, k', hrun, hbytes, hkept⟩ := hmaps (by decide)
  exact ⟨k, s, vaddr, k', hk, hs, hroom, hrun, hbytes, (hkept (hclear (.new hk))).2⟩

/-- Two pages before the end of the address space, a range of two pages ends the
thread after its pages are in.  A range of one page then fits, and is mapped over
the first of them. -/
theorem mapping_after_a_spill_takes_an_address :
    ∃ k₀ k s vaddr k',
      create? ⟨2⟩ { Layout.standard with heapBase := ⟨0xFFFFFFFFFFFFE000⟩ } [] = some k₀ ∧
      mapDevice ⟨2⟩ ⟨0x1000⟩ 8192 k₀ = .error .abort k ∧
      k.space? ⟨2⟩ = some s ∧ s.FitsDevice ⟨0x9000⟩ 4096 ∧
      mapDevice ⟨2⟩ ⟨0x9000⟩ 4096 k = .ok vaddr k' ∧
      k.Translates ⟨2⟩ vaddr ⟨0x1000⟩ ∧ ¬ k'.Translates ⟨2⟩ vaddr ⟨0x1000⟩ := by
  have hshow : ((create? ⟨2⟩ { Layout.standard with heapBase := ⟨0xFFFFFFFFFFFFE000⟩ } []).any
      fun k₀ => match mapDevice ⟨2⟩ ⟨0x1000⟩ 8192 k₀ with
        | .error .abort k => ((k.space? ⟨2⟩).any fun s => s.FitsDevice ⟨0x9000⟩ 4096) &&
          match mapDevice ⟨2⟩ ⟨0x9000⟩ 4096 k with
          | .ok vaddr k' => decide (vaddr.offset = 0 ∧
              k.frameAt? ⟨2⟩ vaddr.pageNumber = some ⟨0x1000⟩ ∧
              k'.frameAt? ⟨2⟩ vaddr.pageNumber = some ⟨0x9000⟩)
          | _ => false
        | _ => false) = true := by
    decide +kernel
  obtain ⟨k₀, hk₀, hshow⟩ := (Option.any_eq_true _ _).1 hshow
  split at hshow
  · next k hspill =>
    obtain ⟨hroom, hshow⟩ := (Bool.and_eq_true _ _).mp hshow
    obtain ⟨s, hs, hroom⟩ := (Option.any_eq_true _ _).1 hroom
    split at hshow
    · next vaddr k' hrun =>
      obtain ⟨hoffset, hbefore, hafter⟩ := of_decide_eq_true hshow
      refine ⟨k₀, k, s, vaddr, k', hk₀, hspill, hs, of_decide_eq_true hroom, hrun, ?_, ?_⟩
      · refine translates_iff.2 ⟨_, hbefore, ?_⟩
        rw [hoffset]
        rfl
      · intro h
        obtain ⟨frame, hframe, hpaddr⟩ := translates_iff.1 h
        obtain rfl := Option.some.inj (hafter.symm.trans hframe)
        rw [hoffset] at hpaddr
        exact absurd hpaddr (by decide)
    · cases hshow
  · cases hshow

end CapabilityBroker.Kernel
