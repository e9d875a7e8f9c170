/-
CapabilityBroker/Quoted.lean

Names in quotes, for messages.

Between its quotes a name stays on its line and can be read character by
character.  The quote, the backslash, the two ends of line, the tab and the
null character are written as a backslash and a letter; other characters that
do not print, that may be ignored, or that would be printed upon the one before
them, are given by their number.  All others stand for themselves.  `quoted_of_printable` says that
ordinary names are not changed.
-/
import CapabilityBroker.Unicode.Extender
import CapabilityBroker.Unicode.Ignorable
import CapabilityBroker.Unicode.Unprinted

namespace CapabilityBroker

namespace Quoted

/-- The letter after the backslash for the characters that have one. -/
def letter? (c : Char) : Option Char :=
  if c = '"' then some '"'
  else if c = '\\' then some '\\'
  else if c = '\n' then some 'n'
  else if c = '\r' then some 'r'
  else if c = '\t' then some 't'
  else if c.toNat = 0 then some '0'
  else none

/-- Whether a character is given by its number. -/
def isNumbered (c : Char) : Bool :=
  Unicode.isAttached c || Unicode.isIgnorable c || Unicode.isUnprinted c

/-- A character by its number, in hexadecimal digits. -/
def numbered (c : Char) : List Char := '\\' :: 'u' :: '{' :: (Nat.toDigits 16 c.toNat ++ ['}'])

/-- What is written for a character between the quotes. -/
def spell (c : Char) : List Char :=
  match letter? c with
  | some l => ['\\', l]
  | none => if isNumbered c then numbered c else [c]

/-- What is written for a list of characters between the quotes. -/
def spellAll (cs : List Char) : List Char := cs.flatMap spell

/-- Whether a character is an ordinary one: from the blank to the tilde, and
neither the quote nor the backslash. -/
def isPrintable (c : Char) : Bool :=
  0x20 ≤ c.toNat && c.toNat < 0x7F && c != '"' && c != '\\'

/-! ### What stands between the quotes -/

theorem letter?_of_printable {c : Char} (h : isPrintable c = true) : letter? c = none := by
  simp only [isPrintable, Bool.and_eq_true, decide_eq_true_eq, bne_iff_ne, ne_eq] at h
  obtain ⟨⟨⟨hlo, -⟩, hquote⟩, hback⟩ := h
  unfold letter?
  rw [if_neg hquote, if_neg hback, if_neg, if_neg, if_neg, if_neg (by omega)]
  all_goals
    rintro rfl
    exact absurd hlo (by decide)

theorem spell_of_printable {c : Char} (h : isPrintable c = true) : spell c = [c] := by
  have hnone := letter?_of_printable h
  simp only [isPrintable, Bool.and_eq_true, decide_eq_true_eq] at h
  obtain ⟨⟨⟨hlo, hhi⟩, -⟩, -⟩ := h
  have hattached : Unicode.isAttached c = false := Unicode.isAttached_eq_false (by omega)
  have hignorable : Unicode.isIgnorable c = false := Unicode.isIgnorable_eq_false (by omega)
  have hunprinted : Unicode.isUnprinted c = false := Unicode.isUnprinted_eq_false hlo hhi
  simp [spell, hnone, isNumbered, hattached, hignorable, hunprinted]

theorem spellAll_of_printable {cs : List Char} (h : ∀ c ∈ cs, isPrintable c = true) :
    spellAll cs = cs := by
  induction cs with
  | nil => rfl
  | cons c cs ih =>
    rw [List.forall_mem_cons] at h
    show spell c ++ spellAll cs = c :: cs
    rw [spell_of_printable h.1, ih h.2]
    rfl

end Quoted

/-- A name in quotes. -/
def quoted (name : String) : String :=
  String.ofList ('"' :: (Quoted.spellAll name.toList ++ ['"']))

/-- A name of ordinary characters stands in its quotes as it is. -/
theorem quoted_of_printable {name : String}
    (h : ∀ c ∈ name.toList, Quoted.isPrintable c = true) :
    quoted name = "\"" ++ name ++ "\"" := by
  rw [quoted, Quoted.spellAll_of_printable h]
  apply String.toList_inj.1
  simp

end CapabilityBroker
