/-
CapabilityBroker/Proofs/Pool/Search.lean

What the searches of a pool find.

Each search is the plain one over a list of candidates: the first free slot
among consecutive ones, and the first slot from which a run of free slots
begins.  The search for a run leaves out candidates: after a try that met a
busy slot it goes on behind that slot, as every run that begins between the
two would meet it too.  Candidates before the low-water mark are left out
because none of them is free.
-/
import CapabilityBroker.Proofs.Pool.Slots

namespace CapabilityBroker.Pool

variable {α : Type} {p : Pool α} {start count tries i : Nat}

/-! ### First elements -/

/-- Candidates that fail may be left out at the beginning. -/
theorem find?_range'_skip {q : Nat → Bool} {s m n : Nat} (hle : s ≤ m)
    (h : ∀ j, s ≤ j → j < m → q j = false) :
    (List.range' s n).find? q = (List.range' m (n - (m - s))).find? q := by
  refine Option.ext fun i => ?_
  rw [List.find?_range'_eq_some, List.find?_range'_eq_some, List.mem_range'_1, List.mem_range'_1]
  constructor
  · rintro ⟨hq, hi, hfirst⟩
    have hmi : m ≤ i := by
      refine Nat.le_of_not_lt fun hlt => ?_
      rw [h i hi.1 hlt] at hq
      cases hq
    exact ⟨hq, by omega, fun j hj hji => hfirst j (by omega) hji⟩
  · rintro ⟨hq, hi, hfirst⟩
    refine ⟨hq, by omega, fun j hj hji => ?_⟩
    rcases Nat.lt_or_ge j m with hlt | hge
    · rw [h j hj hlt]
      rfl
    · exact hfirst j hge hji

/-! ### Single slots -/

theorem firstFree?_eq_find? :
    p.firstFree? count start = (List.range' start count).find? p.isFree := by
  induction count generalizing start with
  | zero => rfl
  | succ count ih =>
    unfold firstFree?
    rw [List.range'_succ, List.find?_cons, ih]
    cases p.isFree start <;> rfl

theorem firstBusy?_eq_find? :
    p.firstBusy? count start = (List.range' start count).find? fun i => !p.isFree i := by
  induction count generalizing start with
  | zero => rfl
  | succ count ih =>
    unfold firstBusy?
    rw [List.range'_succ, List.find?_cons, ih]
    cases p.isFree start <;> rfl

/-! ### Runs -/

/-- Whether `count` slots from `start` on are free. -/
def freeRun (p : Pool α) (count start : Nat) : Bool := (List.range' start count).all p.isFree

theorem freeRun_iff :
    p.freeRun count start = true ↔ ∀ i, start ≤ i → i < start + count → p.isFree i = true := by
  unfold freeRun
  simp only [List.all_eq_true, List.mem_range'_1, and_imp]

/-- A run has no slot that is busy. -/
theorem freeRun_eq_false (hi : start ≤ i) (hlt : i < start + count)
    (hbusy : p.isFree i = false) : p.freeRun count start = false := by
  refine Bool.eq_false_iff.2 fun hrun => ?_
  rw [freeRun_iff.1 hrun i hi hlt] at hbusy
  cases hbusy

/-- The search with its tries finds the first run: there are tries enough, as
each one ends behind its first candidate. -/
theorem findRun?_eq_find? (hc : count ≠ 0) (htries : p.capacity < start + tries) :
    p.findRun? count tries start =
      (List.range' start (p.capacity + 2 - count - start)).find? (p.freeRun count) := by
  induction tries generalizing start with
  | zero =>
    have hnone : p.capacity + 2 - count - start = 0 := by omega
    rw [hnone]
    rfl
  | succ tries ih =>
    unfold findRun?
    by_cases hle : start + count ≤ p.capacity + 1
    · rw [if_pos hle, firstBusy?_eq_find?]
      have hsome : p.capacity + 2 - count - start =
          p.capacity + 2 - count - (start + 1) + 1 := by omega
      split
      · next hnone =>
        have hrun : p.freeRun count start = true := by
          refine List.all_eq_true.2 fun i hi => ?_
          simpa using List.find?_eq_none.1 hnone i hi
        rw [hsome, List.range'_succ, List.find?_cons_of_pos hrun]
      · next busy hbusy =>
        obtain ⟨hnot, hmem, _⟩ := List.find?_range'_eq_some.1 hbusy
        rw [List.mem_range'_1] at hmem
        have hnot : p.isFree busy = false := by simpa using hnot
        -- A run from any candidate up to the busy slot would contain that slot.
        rw [ih (by omega), find?_range'_skip (s := start) (m := busy + 1) (by omega)
          fun j hj hjb => freeRun_eq_false (i := busy) (by omega) (by omega) hnot]
        congr 2
        omega
    · have hnone : p.capacity + 2 - count - start = 0 := by omega
      rw [if_neg hle, hnone]
      rfl

/-! ### From the mark on -/

/-- What the pool finds from its low-water mark on is the first free slot. -/
theorem firstFree?_eq_first (hpos : 1 ≤ p.lowWater)
    (hbusy : ∀ i, 1 ≤ i → i < p.lowWater → p.isFree i = false) :
    p.firstFree? (p.capacity + 1 - p.lowWater) p.lowWater =
      (List.range' 1 p.capacity).find? p.isFree := by
  rw [firstFree?_eq_find?, find?_range'_skip hpos hbusy]
  congr 2
  omega

/-- What the pool finds from its low-water mark on is the first run. -/
theorem findRun?_eq_first (hc : count ≠ 0) (hpos : 1 ≤ p.lowWater)
    (hbusy : ∀ i, 1 ≤ i → i < p.lowWater → p.isFree i = false) :
    p.findRun? count (p.capacity + 1) p.lowWater =
      (List.range' 1 (p.capacity + 1 - count)).find? (p.freeRun count) := by
  rw [findRun?_eq_find? hc (by omega), find?_range'_skip hpos fun j hj hjm =>
    freeRun_eq_false (Nat.le_refl j) (by omega) (hbusy j hj hjm)]
  congr 2
  omega

end CapabilityBroker.Pool
