/-
CapabilityBroker/Proofs/Json/Numeral.lean

Numerals: what they consist of, and that written integers are read back.

The cutting of a text into tokens and the reading of a value need different
facts.  Cutting needs that a numeral starts with a digit or a minus sign and
goes on with characters of numbers (`numeral_cons`, `numeral_chars`), so that
it is cut in one piece.  Reading needs that the decimal digits of a number
are a numeral, which is where a leading zero would be refused, and that their
value is the number again (`int?_ofInt`, `nat?_ofNat`).
-/
import Mathlib.Data.List.Basic
import Mathlib.Data.List.TakeWhile
import Mathlib.Tactic.IntervalCases
import CapabilityBroker.Json.Value

namespace CapabilityBroker.Json

/-! ### The characters of a numeral -/

/-- What is left of `cs` when characters of numbers at its front are taken
off is `rest`. -/
def Sheds (cs rest : List Char) : Prop :=
  ∃ seen, cs = seen ++ rest ∧ ∀ c ∈ seen, isNumberChar c = true

namespace Sheds

theorem refl (cs : List Char) : Sheds cs cs := ⟨[], rfl, by simp⟩

theorem trans {as bs cs : List Char} (h : Sheds as bs) (h' : Sheds bs cs) : Sheds as cs := by
  obtain ⟨xs, rfl, hxs⟩ := h
  obtain ⟨ys, rfl, hys⟩ := h'
  exact ⟨xs ++ ys, by simp, fun c hc => (List.mem_append.mp hc).elim (hxs c) (hys c)⟩

theorem cons {c : Char} {cs rest : List Char} (hc : isNumberChar c = true) (h : Sheds cs rest) :
    Sheds (c :: cs) rest := by
  obtain ⟨xs, rfl, hxs⟩ := h
  exact ⟨c :: xs, rfl, fun d hd => (List.mem_cons.mp hd).elim (· ▸ hc) (hxs d)⟩

end Sheds

theorem isNumberChar_of_isDigit {c : Char} (h : c.isDigit = true) : isNumberChar c = true := by
  simp [isNumberChar, h]

theorem sheds_dropWhile (cs : List Char) : Sheds cs (cs.dropWhile Char.isDigit) :=
  ⟨cs.takeWhile Char.isDigit, List.takeWhile_append_dropWhile.symm, fun _ hc =>
    isNumberChar_of_isDigit (List.mem_takeWhile_imp hc)⟩

theorem sheds_afterSign (cs : List Char) : Sheds cs (afterSign cs) := by
  unfold afterSign
  split
  · exact (Sheds.refl _).cons (by decide)
  · exact Sheds.refl _

theorem sheds_afterDigits {cs rest : List Char} (h : afterDigits? cs = some rest) :
    Sheds cs rest := by
  cases cs with
  | nil => simp [afterDigits?] at h
  | cons c cs =>
    simp only [afterDigits?] at h
    split at h
    · next hc =>
      obtain rfl := Option.some.inj h
      exact (sheds_dropWhile cs).cons (isNumberChar_of_isDigit hc)
    · contradiction

theorem sheds_afterInteger {cs rest : List Char} (h : afterInteger? cs = some rest) :
    Sheds cs rest := by
  cases cs with
  | nil => simp [afterInteger?] at h
  | cons c cs =>
    simp only [afterInteger?] at h
    split at h
    · next hc =>
      obtain rfl := Option.some.inj h
      exact (Sheds.refl _).cons (hc ▸ by decide)
    · exact sheds_afterDigits h

theorem sheds_afterFraction {cs rest : List Char} (h : afterFraction? cs = some rest) :
    Sheds cs rest := by
  cases cs with
  | nil => exact Option.some.inj h ▸ Sheds.refl _
  | cons c cs =>
    simp only [afterFraction?] at h
    split at h
    · next hc => exact (sheds_afterDigits h).cons (hc ▸ by decide)
    · exact Option.some.inj h ▸ Sheds.refl _

theorem sheds_afterExponent {cs rest : List Char} (h : afterExponent? cs = some rest) :
    Sheds cs rest := by
  cases cs with
  | nil => exact Option.some.inj h ▸ Sheds.refl _
  | cons c cs =>
    simp only [afterExponent?] at h
    split at h
    · next hc =>
      have hc' : isNumberChar c = true := hc.elim (· ▸ by decide) (· ▸ by decide)
      cases cs with
      | nil => contradiction
      | cons s cs =>
        simp only at h
        split at h
        · next hs =>
          have hs' : isNumberChar s = true := hs.elim (· ▸ by decide) (· ▸ by decide)
          exact ((sheds_afterDigits h).cons hs').cons hc'
        · exact (sheds_afterDigits h).cons hc'
    · exact Option.some.inj h ▸ Sheds.refl _

/-- A numeral consists of characters of numbers. -/
theorem numeral_chars {cs : List Char} (h : isNumeral cs = true) :
    ∀ c ∈ cs, isNumberChar c = true := by
  simp only [isNumeral, beq_iff_eq, Option.bind_eq_some_iff] at h
  obtain ⟨fraction, ⟨integer, hi, hf⟩, he⟩ := h
  obtain ⟨seen, heq, hseen⟩ := (((sheds_afterSign cs).trans (sheds_afterInteger hi)).trans
    (sheds_afterFraction hf)).trans (sheds_afterExponent he)
  rwa [heq, List.append_nil]

/-- A numeral starts with a minus sign or a digit. -/
theorem numeral_cons {cs : List Char} (h : isNumeral cs = true) :
    ∃ c rest, cs = c :: rest ∧ isNumberStart c = true := by
  cases cs with
  | nil => exact absurd h (by decide)
  | cons c rest =>
    refine ⟨c, rest, rfl, ?_⟩
    by_contra hc
    simp only [isNumberStart, Bool.or_eq_true, beq_iff_eq, not_or] at hc
    have hzero : c ≠ '0' := by
      rintro rfl
      exact hc.1 (by decide)
    have hsign : afterSign (c :: rest) = c :: rest := by
      unfold afterSign
      split
      · next heq => exact absurd (List.cons.inj heq).1 hc.2
      · rfl
    simp [isNumeral, hsign, afterInteger?, hzero, hc.1] at h

/-! ### Written integers -/

theorem isDigit_of_mem_toDigits {n : Nat} {c : Char} (h : c ∈ Nat.toDigits 10 n) :
    c.isDigit = true :=
  Nat.isDigit_of_mem_toDigits (by decide) (by decide) h

/-- A positive number is not written with a leading zero. -/
theorem head?_toDigits_ne {n : Nat} (hn : 0 < n) : (Nat.toDigits 10 n).head? ≠ some '0' := by
  induction n using Nat.strong_induction_on with
  | h n ih =>
    by_cases hlt : n < 10
    · rw [Nat.toDigits_of_lt_base hlt]
      interval_cases n <;> decide
    · rw [Nat.toDigits_of_base_le (by decide) (by omega),
        List.head?_append_of_ne_nil _ Nat.toDigits_ne_nil]
      exact ih (n / 10) (by omega) (by omega)

/-- The digits of a number are all of an integer part. -/
theorem afterInteger?_toDigits (n : Nat) : afterInteger? (Nat.toDigits 10 n) = some [] := by
  rcases Nat.eq_zero_or_pos n with rfl | hn
  · rw [Nat.toDigits_zero]
    decide
  · have hhead := head?_toDigits_ne hn
    have hdigits := fun c => isDigit_of_mem_toDigits (n := n) (c := c)
    cases hcs : Nat.toDigits 10 n with
    | nil => exact absurd hcs Nat.toDigits_ne_nil
    | cons c rest =>
      rw [hcs] at hhead hdigits
      have hc : c ≠ '0' := fun heq => hhead (by simp [heq])
      have hrest : rest.dropWhile Char.isDigit = [] :=
        List.dropWhile_eq_nil_iff.mpr fun d hd => hdigits d (List.mem_cons_of_mem c hd)
      simp [afterInteger?, hc, hdigits c List.mem_cons_self, hrest]

theorem toDigits_ne_minus {n : Nat} {rest : List Char} : Nat.toDigits 10 n ≠ '-' :: rest := by
  intro heq
  exact absurd (isDigit_of_mem_toDigits (heq ▸ List.mem_cons_self)) (by decide)

@[simp] theorem afterSign_toDigits (n : Nat) :
    afterSign (Nat.toDigits 10 n) = Nat.toDigits 10 n := by
  unfold afterSign
  split
  · next heq => exact absurd heq toDigits_ne_minus
  · rfl

@[simp] theorem isNumeral_toDigits (n : Nat) : isNumeral (Nat.toDigits 10 n) = true := by
  simp [isNumeral, afterInteger?_toDigits, afterFraction?, afterExponent?]

@[simp] theorem isNumeral_minus_toDigits (n : Nat) :
    isNumeral ('-' :: Nat.toDigits 10 n) = true := by
  simp [isNumeral, afterSign, afterInteger?_toDigits, afterFraction?, afterExponent?]

@[simp] theorem digitsValue?_toDigits (n : Nat) : digitsValue? (Nat.toDigits 10 n) = some n := by
  have hall : (Nat.toDigits 10 n).all Char.isDigit = true :=
    List.all_eq_true.mpr fun _ => isDigit_of_mem_toDigits
  simp [digitsValue?, hall, Nat.toDigits_ne_nil, Nat.ofDigitChars_ten_toDigits]

theorem integer?_toDigits (n : Nat) : integer? (Nat.toDigits 10 n) = some (n : Int) := by
  unfold integer?
  rw [if_pos (isNumeral_toDigits n)]
  split
  · next heq => exact absurd heq toDigits_ne_minus
  · simp

theorem integer?_minus_toDigits {n : Nat} (hn : 0 < n) :
    integer? ('-' :: Nat.toDigits 10 n) = some (-(n : Int)) := by
  obtain ⟨m, rfl⟩ := Nat.exists_eq_add_of_lt hn
  simp [integer?]

/-! ### Reading undoes writing -/

@[simp] theorem nat?_ofNat (n : Nat) : (ofNat n).nat? = some n := by
  simp [nat?, int?, ofNat, integer?_toDigits]

@[simp] theorem int?_ofInt (i : Int) : (ofInt i).int? = some i := by
  unfold ofInt
  split
  · next hneg =>
    rw [int?, integer?_minus_toDigits (by omega)]
    congr 1
    omega
  · rw [ofNat, int?, integer?_toDigits]
    congr 1
    omega

end CapabilityBroker.Json
