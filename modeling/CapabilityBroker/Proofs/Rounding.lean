/-
CapabilityBroker/Proofs/Rounding.lean

The two forms of rounding up.

What an address is rounded up to is the least multiple of the unit at or above it,
and there is an overflow if that multiple is no word (`Rounds`).  The form that
divides and multiplies does this for every address and every alignment.  The form
that clears the offset bits adds a whole page before it takes one byte off, so it
overflows at the start of the last page as well, which needs no rounding at all;
everywhere else the two forms agree.
-/
import Mathlib.Algebra.Group.Nat.Defs
import Mathlib.Order.Bounds.Basic
import CapabilityBroker.Proofs.Address

namespace CapabilityBroker

/-- The multiples of a unit at or above a number. -/
def multiplesFrom (unit n : Nat) : Set Nat := {m | unit ∣ m ∧ n ≤ m}

/-- A word is rounded up to the least multiple of the unit, and there is none exactly if
that multiple does not fit the word. -/
structure Rounds (r? : Option UInt64) (unit n : Nat) : Prop where
  value : ∀ r : UInt64, r? = some r ↔ IsLeast (multiplesFrom unit n) r.toNat
  overflow : r? = none ↔ ∃ m, IsLeast (multiplesFrom unit n) m ∧ UInt64.size ≤ m

/-- The start of the last page of the address space. -/
def lastPage : UInt64 := 0xFFFFFFFFFFFFF000

variable {x addr align r : UInt64} {unit n : Nat}

/-! ### Least multiples -/

theorem isLeast_roundUp (hu : 0 < unit) :
    IsLeast (multiplesFrom unit n) ((n + (unit - 1)) / unit * unit) := by
  refine ⟨⟨Nat.dvd_mul_left _ _, le_roundUp n unit hu⟩, ?_⟩
  rintro _ ⟨⟨q, rfl⟩, hle⟩
  have hlt : n + (unit - 1) < (q + 1) * unit := by
    rw [Nat.add_mul, Nat.one_mul, Nat.mul_comm q unit]
    omega
  rw [Nat.mul_comm unit q]
  exact Nat.mul_le_mul_right _ (Nat.lt_add_one_iff.1 ((Nat.div_lt_iff_lt_mul hu).2 hlt))

/-- Rounding over the natural numbers, brought back to a word. -/
theorem rounds_word64? (hu : 0 < unit) :
    Rounds (word64? ((n + (unit - 1)) / unit * unit)) unit n := by
  have hleast : ∀ m, IsLeast (multiplesFrom unit n) m ↔ m = (n + (unit - 1)) / unit * unit :=
    fun m => ⟨fun h => h.unique (isLeast_roundUp hu), fun h => h ▸ isLeast_roundUp hu⟩
  refine ⟨fun r => ?_, ?_⟩
  · rw [word64?_eq_some_iff, hleast]
  · rw [word64?_eq_none_iff]
    simp only [hleast, exists_eq_left]

/-! ### The form that divides -/

theorem alignUp_rounds : Rounds (alignUp addr align) (max align.toNat pageSize) addr.toNat :=
  rounds_word64? (Nat.lt_of_lt_of_le (by decide) (Nat.le_max_right _ _))

theorem alignUp_page_rounds : Rounds (alignUp x 4096) pageSize x.toNat :=
  alignUp_rounds

/-- An alignment that is a power of two and no finer than a page is one of whole pages. -/
theorem dvd_of_alignUp {k : Nat} (hpow : align.toNat = 2 ^ k) (hle : pageSize ≤ align.toNat)
    (h : alignUp addr align = some r) : align.toNat ∣ r.toNat ∧ pageSize ∣ r.toNat := by
  have hpage : pageSize = 2 ^ 12 := rfl
  have halign : align.toNat ∣ r.toNat := by
    have hdvd := (alignUp_rounds.value r |>.1 h).1.1
    rwa [Nat.max_eq_left hle] at hdvd
  rw [hpow, hpage] at hle
  have hk : 12 ≤ k := (Nat.pow_le_pow_iff_right (by decide)).1 hle
  exact ⟨halign, Nat.dvd_trans (hpage ▸ hpow ▸ Nat.pow_dvd_pow 2 hk) halign⟩

/-! ### The form that clears the offset bits -/

/-- Behind the start of the last page, the least boundary is no word. -/
theorem size_le_roundUp_iff (hx : x ≠ lastPage) :
    UInt64.size ≤ (x.toNat + (pageSize - 1)) / pageSize * pageSize ↔
      UInt64.size ≤ x.toNat + pageSize := by
  have hne : x.toNat ≠ lastPage.toNat := fun h => hx (UInt64.toNat.inj h)
  have hlast : lastPage.toNat + pageSize = UInt64.size := rfl
  unfold pageSize UInt64.size at *
  omega

theorem roundUpToPage_eq_alignUp (hx : x ≠ lastPage) : roundUpToPage x = alignUp x 4096 := by
  refine Option.ext fun r => ?_
  have hvalue : alignUp x 4096 = some r ↔
      r.toNat = (x.toNat + (pageSize - 1)) / pageSize * pageSize := word64?_eq_some_iff
  rw [roundUpToPage_eq_some_iff, hvalue]
  refine ⟨And.right, fun hr => ⟨?_, hr⟩⟩
  have hword : ¬ UInt64.size ≤ (x.toNat + (pageSize - 1)) / pageSize * pageSize :=
    Nat.not_le.2 (hr ▸ r.toNat_lt)
  exact Nat.not_le.1 (mt (size_le_roundUp_iff hx).2 hword)

theorem bytesToPages_eq_alignUp (hx : x ≠ lastPage) :
    bytesToPages x = (alignUp x 4096).map (· / 4096) := by
  rw [← roundUpToPage_eq_alignUp hx]
  unfold bytesToPages
  cases roundUpToPage x with
  | none => rfl
  | some r => rfl

/-! ### The two forms agree -/

/-- For every address but the start of the last page, the two forms of rounding to a
page are the same function: they give the least multiple of the page size at or above
it, and overflow exactly if that multiple is no word; and the number of pages is this
multiple in pages.  Every address is rounded up by every alignment to the least multiple
of the alignment, or of the page size if that is more, with an overflow exactly if it is
no word; if the alignment is a power of two and at least a page, what it is rounded to is
aligned and begins a page. -/
theorem roundings_agree_off_last_page {x : UInt64} (hx : x ≠ lastPage) (addr align : UInt64) :
    Rounds (roundUpToPage x) pageSize x.toNat ∧ Rounds (alignUp x 4096) pageSize x.toNat ∧
    roundUpToPage x = alignUp x 4096 ∧ bytesToPages x = (alignUp x 4096).map (· / 4096) ∧
    Rounds (alignUp addr align) (max align.toNat pageSize) addr.toNat ∧
    ∀ k r, align.toNat = 2 ^ k → pageSize ≤ align.toNat → alignUp addr align = some r →
      align.toNat ∣ r.toNat ∧ pageSize ∣ r.toNat := by
  have hagree := roundUpToPage_eq_alignUp hx
  exact ⟨hagree ▸ alignUp_page_rounds, alignUp_page_rounds, hagree, bytesToPages_eq_alignUp hx,
    alignUp_rounds, fun k r hpow hle h => dvd_of_alignUp hpow hle h⟩

/-- One byte into the page before the last one, both forms give the start of the last
page; one byte behind a gibibyte, that alignment gives the next one. -/
theorem last_page_is_rounded_to :
    0xFFFFFFFFFFFFE001 ≠ lastPage ∧ roundUpToPage 0xFFFFFFFFFFFFE001 = some lastPage ∧
      bytesToPages 0xFFFFFFFFFFFFE001 = some 0xFFFFFFFFFFFFF ∧
      (0x40000000 : UInt64).toNat = 2 ^ 30 ∧ pageSize ≤ (0x40000000 : UInt64).toNat ∧
      alignUp 0x40000001 0x40000000 = some 0x80000000 ∧
      (0x40000000 : UInt64).toNat ∣ (0x80000000 : UInt64).toNat ∧
      pageSize ∣ (0x80000000 : UInt64).toNat := by
  have hx : 0xFFFFFFFFFFFFE001 ≠ lastPage := by decide
  have halign : alignUp 0x40000001 0x40000000 = some 0x80000000 := by decide
  obtain ⟨-, -, hagree, hpages, -, hpow⟩ :=
    roundings_agree_off_last_page hx 0x40000001 0x40000000
  have hvalue : alignUp 0xFFFFFFFFFFFFE001 4096 = some lastPage := by decide
  have hpages' : bytesToPages 0xFFFFFFFFFFFFE001 = some 0xFFFFFFFFFFFFF := by
    rw [hpages, hvalue]
    rfl
  exact ⟨hx, hagree.trans hvalue, hpages', by decide, by decide, halign,
    hpow 30 _ (by decide) (by decide) halign⟩

/-- The start of the last page is the least multiple of the page size at or above itself
and a word, but the form that clears the offset bits overflows there. -/
theorem last_page_is_not_rounded :
    IsLeast (multiplesFrom pageSize lastPage.toNat) lastPage.toNat ∧
      alignUp lastPage 4096 = some lastPage ∧ roundUpToPage lastPage = none ∧
      bytesToPages lastPage = none := by
  have halign : alignUp lastPage 4096 = some lastPage := by decide
  exact ⟨(alignUp_page_rounds.value lastPage).1 halign, halign, by decide, by decide⟩

end CapabilityBroker
