/-
CapabilityBroker/Word.lean

Machine words and their texts.

Numbers that cross the broker's surface are 64-bit or 32-bit words.  Sums
and products are taken over the natural numbers and brought back with
`word64?` or `word32?`, which answer nothing when the result does not fit:
no operation of this library wraps around without saying so.
-/

namespace CapabilityBroker

/-- A natural number as a 64-bit word, if it fits. -/
def word64? (n : Nat) : Option UInt64 :=
  if h : n < UInt64.size then some (UInt64.ofNatLT n h) else none

/-- A natural number as a 32-bit word, if it fits. -/
def word32? (n : Nat) : Option UInt32 :=
  if h : n < UInt32.size then some (UInt32.ofNatLT n h) else none

/-- An integer as a signed 32-bit word, if it fits. -/
def int32? (i : Int) : Option Int32 :=
  if -2147483648 ≤ i ∧ i < 2147483648 then some (Int32.ofInt i) else none

theorem word64?_eq_some_iff {n : Nat} {w : UInt64} :
    word64? n = some w ↔ w.toNat = n := by
  unfold word64?
  split
  · next h =>
    simp only [Option.some.injEq]
    constructor
    · rintro rfl
      simp
    · rintro rfl
      simp
  · next h =>
    simp only [reduceCtorEq, false_iff]
    rintro rfl
    exact h w.toNat_lt

theorem word64?_eq_none_iff {n : Nat} : word64? n = none ↔ UInt64.size ≤ n := by
  unfold word64?
  split
  · next h => simpa using h
  · next h => simpa using h

@[simp] theorem word64?_toNat (w : UInt64) : word64? w.toNat = some w :=
  word64?_eq_some_iff.2 rfl

theorem word32?_eq_some_iff {n : Nat} {w : UInt32} :
    word32? n = some w ↔ w.toNat = n := by
  unfold word32?
  split
  · next h =>
    simp only [Option.some.injEq]
    constructor
    · rintro rfl
      simp
    · rintro rfl
      simp
  · next h =>
    simp only [reduceCtorEq, false_iff]
    rintro rfl
    exact h w.toNat_lt

theorem word32?_eq_none_iff {n : Nat} : word32? n = none ↔ UInt32.size ≤ n := by
  unfold word32?
  split
  · next h => simpa using h
  · next h => simpa using h

/-! ### Texts of numbers -/

/-- A number in decimal digits. -/
def decimal (n : Nat) : String := String.ofList (Nat.toDigits 10 n)

/-- A number in lowercase hexadecimal digits. -/
def hexadecimal (n : Nat) : String := String.ofList (Nat.toDigits 16 n)

/-- An integer in decimal digits, with a sign when it is negative. -/
def signedDecimal (i : Int) : String :=
  if i < 0 then "-" ++ decimal i.natAbs else decimal i.natAbs

end CapabilityBroker
