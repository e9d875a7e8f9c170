/-
CapabilityBroker/Unicode/Ranges.lean

Sets of code points, as lists of closed ranges.

A property of characters is a list of ranges that ascend and do not touch.
A look-up walks the list and stops at the first range that ends at or above
the code point; `contains_iff` says that on an ascending list this finds
every range there is to find.
-/

namespace CapabilityBroker.Unicode

/-- Closed ranges of code points, each with its first and its last. -/
abbrev Ranges := List (Nat × Nat)

namespace Ranges

/-- Whether every range is a range and ends before the next one starts, with
a gap between the two. -/
def ascending : Ranges → Bool
  | [] => true
  | [r] => r.1 ≤ r.2
  | r :: s :: rest => r.1 ≤ r.2 && r.2 + 1 < s.1 && ascending (s :: rest)

/-- Whether a code point lies in one of the ranges, which ascend. -/
def contains : Ranges → Nat → Bool
  | [], _ => false
  | r :: rest, n => if n ≤ r.2 then r.1 ≤ n else contains rest n

/-- The number of code points in the ranges. -/
def count (rs : Ranges) : Nat := rs.foldr (fun r n => r.2 + 1 - r.1 + n) 0

/-! ### What a look-up finds -/

theorem ascending_tail {r : Nat × Nat} {rs : Ranges} (h : ascending (r :: rs) = true) :
    ascending rs = true := by
  cases rs with
  | nil => rfl
  | cons s rest =>
    simp only [ascending, Bool.and_eq_true] at h
    exact h.2

/-- The first range of an ascending list ends before every other starts. -/
theorem lt_of_mem_tail {r : Nat × Nat} {rs : Ranges} (h : ascending (r :: rs) = true) :
    ∀ s ∈ rs, r.2 < s.1 := by
  induction rs generalizing r with
  | nil => simp
  | cons t rest ih =>
    have ht := ascending_tail h
    simp only [ascending, Bool.and_eq_true, decide_eq_true_eq] at h
    intro s hs
    rcases List.mem_cons.1 hs with rfl | hs
    · omega
    · have hfirst : t.1 ≤ t.2 := by
        cases rest with
        | nil => simpa [ascending] using ht
        | cons u rest =>
          simp only [ascending, Bool.and_eq_true, decide_eq_true_eq] at ht
          exact ht.1.1
      have := ih ht s hs
      omega

/-- A look-up in an ascending list answers whether some range holds the code
point. -/
theorem contains_iff {rs : Ranges} (h : ascending rs = true) (n : Nat) :
    rs.contains n = true ↔ ∃ r ∈ rs, r.1 ≤ n ∧ n ≤ r.2 := by
  induction rs with
  | nil => simp [contains]
  | cons r rest ih =>
    have hlt := lt_of_mem_tail h
    rw [contains]
    split
    · next hle =>
      simp only [decide_eq_true_eq, List.mem_cons, exists_eq_or_imp]
      constructor
      · exact fun hr => .inl ⟨hr, hle⟩
      · rintro (⟨hr, -⟩ | ⟨s, hs, hsn, -⟩)
        · exact hr
        · have := hlt s hs
          omega
    · next hle =>
      rw [ih (ascending_tail h)]
      simp only [List.mem_cons, exists_eq_or_imp]
      constructor
      · exact fun hr => .inr hr
      · rintro (⟨-, hr⟩ | hr)
        · exact absurd hr hle
        · exact hr

/-- A code point below all ranges is in none of them. -/
theorem contains_eq_false_of_lt {r : Nat × Nat} {rs : Ranges} {n : Nat}
    (h : n < r.1) (hr : r.1 ≤ r.2) : contains (r :: rs) n = false := by
  rw [contains, if_pos (by omega)]
  exact decide_eq_false (by omega)

end Ranges

end CapabilityBroker.Unicode
