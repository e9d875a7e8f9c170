/-
CapabilityBroker/Proofs/Address.lean

Arithmetic of addresses.

Every operation is characterised by the number that it computes.  Rounding up
by an alignment never goes down, and rounds to whole pages if the alignment is
one of whole pages.  The mask form of rounding is division and multiplication
as well, as long as the page that it adds first fits the word.
-/
import CapabilityBroker.Address

namespace CapabilityBroker

theorem word64?_isSome_iff {n : Nat} : (∃ w, word64? n = some w) ↔ n < UInt64.size := by
  rw [← Nat.not_le, ← word64?_eq_none_iff, ← Option.ne_none_iff_exists']

/-! ### Moving by pages -/

theorem Vaddr.addPages_eq_some_iff {v v' : Vaddr} {n : Nat} :
    v.addPages n = some v' ↔ v'.toNat = v.toNat + n * pageSize := by
  obtain ⟨w'⟩ := v'
  simp only [Vaddr.addPages, CapabilityBroker.addPages, Option.map_eq_some_iff,
    word64?_eq_some_iff, Vaddr.mk.injEq, exists_eq_right]
  rfl

theorem Paddr.addPages_eq_some_iff {p p' : Paddr} {n : Nat} :
    p.addPages n = some p' ↔ p'.toNat = p.toNat + n * pageSize := by
  obtain ⟨w'⟩ := p'
  simp only [Paddr.addPages, CapabilityBroker.addPages, Option.map_eq_some_iff,
    word64?_eq_some_iff, Paddr.mk.injEq, exists_eq_right]
  rfl

theorem Paddr.exists_addPages {p : Paddr} {n : Nat} (h : p.toNat + n * pageSize < UInt64.size) :
    ∃ p', p.addPages n = some p' := by
  obtain ⟨word, hword⟩ := word64?_isSome_iff.2 h
  refine ⟨⟨word⟩, ?_⟩
  rw [Paddr.addPages_eq_some_iff]
  exact word64?_eq_some_iff.1 hword

theorem Vaddr.exists_addPages {v : Vaddr} {n : Nat} (h : v.toNat + n * pageSize < UInt64.size) :
    ∃ v', v.addPages n = some v' := by
  obtain ⟨word, hword⟩ := word64?_isSome_iff.2 h
  refine ⟨⟨word⟩, ?_⟩
  rw [Vaddr.addPages_eq_some_iff]
  exact word64?_eq_some_iff.1 hword

@[simp] theorem Vaddr.addPages_zero (v : Vaddr) : v.addPages 0 = some v := by
  rw [Vaddr.addPages_eq_some_iff, Nat.zero_mul, Nat.add_zero]

@[simp] theorem Paddr.addPages_zero (p : Paddr) : p.addPages 0 = some p := by
  rw [Paddr.addPages_eq_some_iff, Nat.zero_mul, Nat.add_zero]

/-- Pages that end below an address come before the page that holds it. -/
theorem Vaddr.lt_pageNumber {v : Vaddr} {n : Nat} (h : (n + 1) * pageSize ≤ v.toNat) :
    n < v.pageNumber := by
  unfold Vaddr.pageNumber
  rw [Nat.lt_iff_add_one_le, Nat.le_div_iff_mul_le (by decide)]
  exact h

/-! ### Alignments -/

/-- The least multiple at or above a number. -/
theorem le_roundUp (n unit : Nat) (hu : 0 < unit) : n ≤ (n + (unit - 1)) / unit * unit := by
  have h := Nat.div_add_mod (n + (unit - 1)) unit
  have hlt := Nat.mod_lt (n + (unit - 1)) hu
  rw [Nat.mul_comm] at h
  omega

theorem Vaddr.alignUp_eq_some_iff {v v' : Vaddr} {align : UInt64} :
    v.alignUp align = some v' ↔
      v'.toNat = (v.toNat + (max align.toNat pageSize - 1)) / max align.toNat pageSize
        * max align.toNat pageSize := by
  obtain ⟨w'⟩ := v'
  simp only [Vaddr.alignUp, CapabilityBroker.alignUp, Option.map_eq_some_iff,
    word64?_eq_some_iff, Vaddr.mk.injEq, exists_eq_right]
  rfl

theorem Vaddr.le_of_alignUp {v v' : Vaddr} {align : UInt64} (h : v.alignUp align = some v') :
    v.toNat ≤ v'.toNat := by
  rw [Vaddr.alignUp_eq_some_iff] at h
  rw [h]
  apply le_roundUp
  have : 0 < pageSize := by decide
  omega

/-- What is rounded up is aligned, and begins a page. -/
theorem Vaddr.max_dvd_of_alignUp {v v' : Vaddr} {align : UInt64}
    (h : v.alignUp align = some v') : max align.toNat pageSize ∣ v'.toNat := by
  rw [Vaddr.alignUp_eq_some_iff] at h
  rw [h]
  exact Nat.dvd_mul_left _ _

/-- The alignment is one of whole pages. -/
def WholePages (align : UInt64) : Prop := align ≠ 0 ∧ pageSize ∣ align.toNat

theorem wholePages_native : WholePages 4096 := ⟨by decide, Nat.dvd_refl _⟩

/-- An alignment of whole pages rounds to whole pages. -/
theorem Vaddr.dvd_of_alignUp {v v' : Vaddr} {align : UInt64} (h : v.alignUp align = some v')
    (ha : pageSize ∣ align.toNat) : pageSize ∣ v'.toNat := by
  refine Nat.dvd_trans ?_ (Vaddr.max_dvd_of_alignUp h)
  rcases Nat.le_total align.toNat pageSize with hle | hle
  · exact ⟨1, (Nat.max_eq_right hle).trans (Nat.mul_one _).symm⟩
  · rw [Nat.max_eq_left hle]
    exact ha

/-! ### The mask form -/

variable {bytes r n : UInt64}

/-- A word without its offset bits is its page number, shifted back. -/
theorem clearOffset_eq_shift (w : BitVec 64) : w &&& ~~~4095#64 = w >>> 12 <<< 12 := by
  refine BitVec.eq_of_getLsbD_eq fun i hi => ?_
  have hmask : (4095#64).getLsbD i = decide (i < 12) := Nat.testBit_two_pow_sub_one 12 i
  rw [BitVec.getLsbD_and, BitVec.getLsbD_not, hmask, BitVec.getLsbD_shiftLeft,
    BitVec.getLsbD_ushiftRight]
  by_cases h : i < 12
  · simp [h]
  · have hback : 12 + (i - 12) = i := by omega
    simp [h, hi, hback]

theorem toNat_clearOffset (w : UInt64) :
    (w &&& ~~~(4095 : UInt64)).toNat = w.toNat / pageSize * pageSize := by
  show (w.toBitVec &&& ~~~4095#64).toNat = _
  have hle := Nat.div_mul_le_self w.toNat pageSize
  have hlt := w.toNat_lt
  rw [clearOffset_eq_shift, BitVec.toNat_shiftLeft, BitVec.toNat_ushiftRight,
    Nat.shiftRight_eq_div_pow, Nat.shiftLeft_eq]
  exact Nat.mod_eq_of_lt (Nat.lt_of_le_of_lt hle hlt)

/-- The page that the mask form adds first must fit the word. -/
theorem roundUpToPage_eq_some_iff :
    roundUpToPage bytes = some r ↔ bytes.toNat + pageSize < UInt64.size ∧
      r.toNat = (bytes.toNat + (pageSize - 1)) / pageSize * pageSize := by
  -- Both directions compute the value from the sum that fits.
  have hvalue : ∀ above, word64? (bytes.toNat + pageSize) = some above →
      ((above - 1) &&& ~~~(4095 : UInt64)).toNat =
        (bytes.toNat + (pageSize - 1)) / pageSize * pageSize := by
    intro above habove
    rw [word64?_eq_some_iff] at habove
    have hone : (1 : UInt64) ≤ above := by
      rw [UInt64.le_iff_toNat_le, habove]
      exact Nat.le_trans (by decide) (Nat.le_add_left pageSize bytes.toNat)
    rw [toNat_clearOffset, UInt64.toNat_sub_of_le _ _ hone, habove]
    rfl
  rw [← word64?_isSome_iff]
  simp only [roundUpToPage, Option.bind_eq_bind, Option.bind_eq_some_iff, Option.pure_def,
    Option.some.injEq]
  constructor
  · rintro ⟨above, habove, rfl⟩
    exact ⟨⟨above, habove⟩, hvalue above habove⟩
  · rintro ⟨⟨above, habove⟩, hr⟩
    exact ⟨above, habove, UInt64.toNat.inj ((hvalue above habove).trans hr.symm)⟩

theorem bytesToPages_eq_some_iff :
    bytesToPages bytes = some n ↔ bytes.toNat + pageSize < UInt64.size ∧
      n.toNat = (bytes.toNat + (pageSize - 1)) / pageSize := by
  simp only [bytesToPages, Option.bind_eq_bind, Option.bind_eq_some_iff, Option.pure_def,
    Option.some.injEq, roundUpToPage_eq_some_iff]
  constructor
  · rintro ⟨rounded, ⟨hfits, hrounded⟩, rfl⟩
    refine ⟨hfits, ?_⟩
    rw [UInt64.toNat_div, hrounded]
    exact Nat.mul_div_cancel _ (by decide)
  · rintro ⟨hfits, hn⟩
    have hle := Nat.div_mul_le_self (bytes.toNat + (pageSize - 1)) pageSize
    have hlt : (bytes.toNat + (pageSize - 1)) / pageSize * pageSize < UInt64.size := by omega
    obtain ⟨rounded, hrounded⟩ := word64?_isSome_iff.2 hlt
    rw [word64?_eq_some_iff] at hrounded
    refine ⟨rounded, ⟨hfits, hrounded⟩, UInt64.toNat.inj ?_⟩
    rw [UInt64.toNat_div, hrounded, hn]
    exact Nat.mul_div_cancel _ (by decide)

end CapabilityBroker
