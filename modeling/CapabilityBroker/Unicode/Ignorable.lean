/-
CapabilityBroker/Unicode/Ignorable.lean

The characters that a page shows nothing for unless it knows them, as Unicode
17.0 assigns them by its property Default_Ignorable_Code_Point: joiners,
variation selectors, directions, and the fillers that stand for a missing
letter of a Hangul syllable.  The fillers are letters by their category, so
that this property alone tells that they cannot be seen.
-/
import CapabilityBroker.Unicode.Ranges

namespace CapabilityBroker.Unicode

/-- The code points that are ignorable by default. -/
def ignorable : Ranges :=
  [(0xAD, 0xAD), (0x34F, 0x34F), (0x61C, 0x61C), (0x115F, 0x1160), (0x17B4, 0x17B5),
   (0x180B, 0x180F), (0x200B, 0x200F), (0x202A, 0x202E), (0x2060, 0x206F), (0x3164, 0x3164),
   (0xFE00, 0xFE0F), (0xFEFF, 0xFEFF), (0xFFA0, 0xFFA0), (0xFFF0, 0xFFF8), (0x1BCA0, 0x1BCA3),
   (0x1D173, 0x1D17A), (0xE0000, 0xE0FFF)]

/-- Whether a character is ignorable by default. -/
def isIgnorable (c : Char) : Bool := ignorable.contains c.toNat

theorem ignorable_ascending : ignorable.ascending = true := by decide +kernel

theorem ignorable_count : ignorable.count = 4174 := by decide +kernel

/-- No character below the soft hyphen is ignorable. -/
theorem isIgnorable_eq_false {c : Char} (h : c.toNat < 0xAD) : isIgnorable c = false := by
  unfold isIgnorable ignorable
  rw [Ranges.contains_eq_false_of_lt h (by decide)]

end CapabilityBroker.Unicode
