/-
CapabilityBroker/Proofs/Kernel/Ranges.lean

Ranges of addresses that stay mapped.

A range is shown if its pages are, one by one.  The frontier of a component lies
behind every range that it was given, so no primitive touches a page of it, and
each page is translated later as it was before (`ShowsPages.keepsRange`).  A
mapping that passed its check shows its range, and so does a mapping of device
memory, whose frames are known without one.
-/
import CapabilityBroker.Proofs.Kernel.History
import CapabilityBroker.Proofs.Kernel.Shows

namespace CapabilityBroker.Kernel

variable {w : Warrant} {k k' : Kernel} {into : ComponentId} {vaddr : Vaddr} {first : Paddr}
  {count : Nat}

/-! ### Ranges -/

/-- There are pages in the range, and every one of them is shown. -/
structure ShowsPages (k : Kernel) (into : ComponentId) (vaddr : Vaddr) (count : Nat) : Prop where
  nonempty : count ≠ 0
  shown : ∀ j < count, ∃ place frame, vaddr.addPages j = some place ∧ k.Shows ⟨into, place⟩ frame

/-- Both kernels translate every page of the range, and to the same address. -/
def KeepsRange (k k' : Kernel) (into : ComponentId) (vaddr : Vaddr) (count : Nat) : Prop :=
  ∀ j < count, ∃ place paddr, vaddr.addPages j = some place ∧ k.Translates into place paddr ∧
    k'.Translates into place paddr

theorem ShowsPages.advance (h : k.ShowsPages into vaddr count) (ha : Advance w k k') :
    k'.ShowsPages into vaddr count where
  nonempty := h.nonempty
  shown j hj := by
    obtain ⟨place, frame, hplace, hshows⟩ := h.shown j hj
    exact ⟨place, frame, hplace, hshows.advance ha⟩

/-- What is shown is translated from then on. -/
theorem ShowsPages.keepsRange (h : k.ShowsPages into vaddr count) (ha : Advance w k k') :
    k.KeepsRange k' into vaddr count := by
  intro j hj
  obtain ⟨place, frame, hplace, hshows⟩ := h.shown j hj
  exact ⟨place, frame, hplace, hshows.translate, (hshows.advance ha).translate⟩

/-- The page that is found at a place below the frontier is shown. -/
theorem Space.Finds.shows {s : Space} {place : Vaddr} {frame : Paddr} (h : s.Finds place frame)
    (hs : k.space? into = some s)
    (hbelow : (place.pageNumber + 1) * pageSize ≤ s.heapFrontier.toNat) :
    k.Shows ⟨into, place⟩ frame := ⟨s, hs, hbelow, h⟩

/-- A range that passed its check and ends at the frontier is shown. -/
theorem ShowsPages.of_verified {s : Space} (hc : count ≠ 0) (hs : k.space? into = some s)
    (hend : vaddr.toNat + count * pageSize ≤ s.heapFrontier.toNat)
    (hfound : ∀ j < count, k.FindsPage into vaddr first j) : k.ShowsPages into vaddr count where
  nonempty := hc
  shown j hj := by
    obtain ⟨place, frame, hplace, hframe, _⟩ := hfound j hj
    exact ⟨place, frame, hplace, ShowsRun.of_verified hs hend hfound j hj place frame hplace hframe⟩

/-! ### Device memory -/

/-- The place of a page of a range that begins so far behind the start of its first
page. -/
theorem place_of_start {start place : Vaddr} {offset j : Nat} (ha : pageSize ∣ start.toNat)
    (hoffset : offset < pageSize) (hplace : place.toNat = start.toNat + offset + j * pageSize) :
    place.pageNumber = start.pageNumber + j ∧ place.offset = offset := by
  obtain ⟨q, hq⟩ := ha
  have hplace' : place.toNat = pageSize * (q + j) + offset := by
    rw [hplace, hq, Nat.mul_add, Nat.mul_comm j]
    omega
  unfold Vaddr.pageNumber Vaddr.offset
  rw [hplace', hq, Nat.mul_add_div (by decide), Nat.div_eq_of_lt hoffset,
    Nat.mul_div_cancel_left _ (by decide), Nat.mul_add_mod, Nat.mod_eq_of_lt hoffset]
  exact ⟨rfl, rfl⟩

/-- Every address that is mapped around a range of physical addresses fits the word. -/
theorem exists_deviceAddress {paddr frame : Paddr} {size : UInt64} {j : Nat}
    (hfits : paddr.toNat + size.toNat + pageSize < UInt64.size)
    (hj : j < devicePages paddr size)
    (hframe : frame.toNat = paddr.toNat - paddr.toNat % pageSize + j * pageSize) :
    ∃ address, Paddr.ofNat? (frame.toNat + paddr.toNat % pageSize) = some address := by
  have hmod : paddr.toNat % pageSize ≤ paddr.toNat := Nat.mod_le _ _
  have hoffset : paddr.toNat % pageSize < pageSize := Nat.mod_lt _ (by decide)
  have hpages : devicePages paddr size * pageSize ≤
      size.toNat + paddr.toNat % pageSize + (pageSize - 1) := Nat.div_mul_le_self _ _
  have hstep : (j + 1) * pageSize ≤ devicePages paddr size * pageSize :=
    Nat.mul_le_mul_right _ hj
  rw [Nat.add_mul, Nat.one_mul] at hstep
  obtain ⟨word, hword⟩ := word64?_isSome_iff.2
    (show frame.toNat + paddr.toNat % pageSize < UInt64.size by omega)
  exact ⟨⟨word⟩, Option.map_eq_some_iff.2 ⟨word, hword, rfl⟩⟩

/-- Where the pages of device memory go, and which frames are in them. -/
theorem mapDevice_places {paddr : Paddr} {size : UInt64} :
    (mapDevice into paddr size).Leads k
      (fun vaddr k' => size ≠ 0 ∧ paddr.toNat + size.toNat + pageSize < UInt64.size ∧
        ∃ start, (Call.device into paddr size).MapsAt k start k' ∧
          vaddr.toNat = start.toNat + paddr.toNat % pageSize ∧
          ∀ j < devicePages paddr size, ∃ frame,
            k'.frameAt? into (start.pageNumber + j) = some frame ∧
              frame.toNat = paddr.toNat - paddr.toNat % pageSize + j * pageSize)
      (fun _ _ => True) := by
  have hframes : (mapDevice into paddr size).Leads k
      (fun _ k' => size ≠ 0 ∧ paddr.toNat + size.toNat + pageSize < UInt64.size ∧
        ∃ s start, k.space? into = some s ∧ s.heapFrontier.alignUp 4096 = some start ∧
          ∀ j < devicePages paddr size, ∃ frame,
            k'.frameAt? into (start.pageNumber + j) = some frame ∧
              frame.toNat = paddr.toNat - paddr.toNat % pageSize + j * pageSize)
      (fun _ _ => True) := by
    refine mapDevice_leads (fun _ _ => trivial) (fun _ _ => trivial) (fun _ _ => trivial) ?_
    intro hsize hin s hs base hbase
    have hfits := deviceRangeFits_iff.1 hin
    obtain ⟨_, hend⟩ := devicePages_bounds hsize hfits
    rw [← hbase] at hend
    obtain ⟨frames, hframes⟩ := exists_run?_of_last hend
    obtain ⟨hlen, hget⟩ := Paddr.run?_eq_some hframes
    refine placeAligned_bind hs hframes ?_ fun _ _ _ _ => trivial
    intro start frontier k' hstart _ hthere _
    refine Step.Leads.modify_bind (Step.leads_exact.2 ⟨fun vaddr _ => ?_, fun _ => trivial⟩)
    refine ⟨hsize, hfits, s, start, hs, hstart, fun j hj => ?_⟩
    have hj' : j < frames.length := hlen.symm ▸ hj
    have hentry := List.getElem?_eq_getElem hj'
    have hframe := Paddr.addPages_eq_some_iff.1 ((hget j hj).symm.trans hentry)
    refine ⟨frames[j], ?_, hbase ▸ hframe⟩
    refine (frameAt?_eq hthere).trans ?_
    show (s.mapPages start.pageNumber frames).pages[start.pageNumber + j]? = _
    rw [Space.getElem?_mapPages_add hj', hentry]
  refine (hframes.and (Call.device_ends into paddr size)).mono ?_ fun _ _ _ => trivial
  rintro vaddr k' ⟨⟨hsize, hfits, s, start, hs, hstart, hpages⟩, start', hmaps, hvaddr, _⟩
  -- Both speak of the aligned frontier.
  obtain ⟨frontier, hfrontier, halign⟩ := hmaps.puts.aligned
  obtain rfl := Option.some.inj ((frontier?_eq hs).symm.trans hfrontier)
  obtain rfl := Option.some.inj (hstart.symm.trans halign)
  exact ⟨hsize, hfits, start, hmaps, hvaddr, hpages⟩

/-- The range of device memory that a mapping answers is shown. -/
theorem mapDevice_shows {paddr : Paddr} {size : UInt64} :
    (mapDevice into paddr size).Leads k
      (fun vaddr k' => k'.ShowsPages into vaddr (devicePages paddr size)) (fun _ _ => True) := by
  refine mapDevice_places.mono ?_ fun _ _ _ => trivial
  rintro vaddr k' ⟨hsize, hfits, start, hmaps, hvaddr, hpages⟩
  obtain ⟨hsome, _⟩ := devicePages_bounds hsize hfits
  have hoffset : paddr.toNat % pageSize < pageSize := Nat.mod_lt _ (by decide)
  obtain ⟨old, _, halign⟩ := hmaps.puts.aligned
  have ha : pageSize ∣ start.toNat := Vaddr.dvd_of_alignUp halign wholePages_native.2
  obtain ⟨frontier, hfrontier, hmoved⟩ := hmaps.behind
  rw [Vaddr.addPages_eq_some_iff] at hfrontier
  change frontier.toNat = start.toNat + devicePages paddr size * pageSize at hfrontier
  refine ⟨hsome, fun j hj => ?_⟩
  -- The range ends at the frontier, so each of its pages has an address below it.
  have hstep : (j + 1) * pageSize ≤ devicePages paddr size * pageSize :=
    Nat.mul_le_mul_right _ hj
  rw [Nat.add_mul, Nat.one_mul] at hstep
  have hlast : frontier.toNat < UInt64.size := frontier.word.toNat_lt
  obtain ⟨place, hplace⟩ : ∃ place, vaddr.addPages j = some place :=
    Vaddr.exists_addPages (by omega)
  have hat := Vaddr.addPages_eq_some_iff.1 hplace
  rw [hvaddr] at hat
  obtain ⟨hnumber, hrest⟩ := place_of_start ha hoffset hat
  obtain ⟨frame, hpage, hframe⟩ := hpages j hj
  obtain ⟨address, haddress⟩ := exists_deviceAddress hfits hj hframe
  rw [← hrest] at haddress
  rw [← hnumber] at hpage
  obtain ⟨s, hs, hentry⟩ := Option.bind_eq_some_iff.1 hpage
  have hheap : s.heapFrontier = frontier :=
    Option.some.inj ((frontier?_eq hs).symm.trans ((hmoved into).trans (if_pos rfl)))
  refine ⟨place, address, hplace, Space.Finds.shows ⟨frame, hentry, haddress⟩ hs ?_⟩
  have hnumbers : start.pageNumber * pageSize = start.toNat := Nat.div_mul_cancel ha
  rw [hheap, hnumber, Nat.add_assoc, Nat.add_mul, hnumbers, hfrontier, Nat.add_mul, Nat.one_mul]
  exact Nat.add_le_add_left hstep _

end CapabilityBroker.Kernel
