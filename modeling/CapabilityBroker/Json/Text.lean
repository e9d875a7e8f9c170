/-
CapabilityBroker/Json/Text.lean

The strings of the JSON text format, as written.

A written string is a list of pieces: characters that stand for themselves
and escapes, each of which stands for one 16-bit code unit.  The difference
is kept because it shows: an object key that must be a number may not be
escaped, and an escape that is half of a surrogate pair spells no character
at all.  `string?` reads the pieces, `ofString` writes them, and
`chars?_ofChars` says that reading undoes writing.
-/

namespace CapabilityBroker.Json

/-- One piece of a written string. -/
inductive Piece where
  /-- A character that stands for itself. -/
  | plain (c : Char)
  /-- An escaped code unit. -/
  | escape (unit : UInt16)
deriving DecidableEq

/-- A string as it is written between its quotes. -/
abbrev Text := List Piece

/-! ### Code units -/

/-- Whether a code unit opens a surrogate pair. -/
def isHighSurrogate (unit : UInt16) : Bool := 0xD800 ≤ unit && unit < 0xDC00

/-- Whether a code unit closes a surrogate pair. -/
def isLowSurrogate (unit : UInt16) : Bool := 0xDC00 ≤ unit && unit < 0xE000

/-- The character that a surrogate pair spells. -/
def pairChar (high low : UInt16) : Char :=
  Char.ofNat (0x10000 + (high.toNat - 0xD800) * 0x400 + (low.toNat - 0xDC00))

namespace Text

/-- The characters a written string spells, if every surrogate has its
partner. -/
def chars? : Text → Option (List Char)
  | [] => some []
  | .plain c :: rest => (chars? rest).map (c :: ·)
  | .escape unit :: rest =>
    if isHighSurrogate unit then
      match rest with
      | .escape low :: rest' =>
        if isLowSurrogate low then (chars? rest').map (pairChar unit low :: ·) else none
      | _ => none
    else if isLowSurrogate unit then none
    else (chars? rest).map (Char.ofNat unit.toNat :: ·)

/-- The string that is spelt. -/
def string? (t : Text) : Option String := (chars? t).map String.ofList

/-- The characters of a string that is written without escapes. -/
def unescaped? : Text → Option (List Char)
  | [] => some []
  | .plain c :: rest => (unescaped? rest).map (c :: ·)
  | .escape _ :: _ => none

/-! ### Writing -/

/-- Whether a character may not stand for itself: the quote, the backslash
and the control characters below the blank. -/
def mustEscape (c : Char) : Bool := c == '"' || c == '\\' || c.toNat < 0x20

/-- The written form of a character. -/
def pieceOf (c : Char) : Piece :=
  if mustEscape c then .escape (UInt16.ofNat c.toNat) else .plain c

/-- The written form of a list of characters. -/
def ofChars (cs : List Char) : Text := cs.map pieceOf

/-- The written form of a string. -/
def ofString (s : String) : Text := ofChars s.toList

end Text

/-! ### Spelling the pieces out -/

/-- Four hexadecimal digits of a code unit. -/
def hexDigits (unit : UInt16) : List Char :=
  [Nat.digitChar (unit.toNat / 4096), Nat.digitChar (unit.toNat / 256 % 16),
   Nat.digitChar (unit.toNat / 16 % 16), Nat.digitChar (unit.toNat % 16)]

/-- The letter after the backslash for the code units that have one. -/
def shortEscape? (unit : UInt16) : Option Char :=
  if unit = 0x22 then some '"'
  else if unit = 0x5C then some '\\'
  else if unit = 0x08 then some 'b'
  else if unit = 0x0C then some 'f'
  else if unit = 0x0A then some 'n'
  else if unit = 0x0D then some 'r'
  else if unit = 0x09 then some 't'
  else none

/-- The code unit that a letter after the backslash stands for. -/
def unitOfEscape? (c : Char) : Option UInt16 :=
  if c = '"' then some 0x22
  else if c = '\\' then some 0x5C
  else if c = '/' then some 0x2F
  else if c = 'b' then some 0x08
  else if c = 'f' then some 0x0C
  else if c = 'n' then some 0x0A
  else if c = 'r' then some 0x0D
  else if c = 't' then some 0x09
  else none

/-- The characters of a piece between the quotes. -/
def Piece.spell : Piece → List Char
  | .plain c => [c]
  | .escape unit =>
    match shortEscape? unit with
    | some c => ['\\', c]
    | none => '\\' :: 'u' :: hexDigits unit

/-- A written string with its quotes. -/
def Text.spell (t : Text) : List Char := '"' :: (t.flatMap Piece.spell ++ ['"'])

/-! ### Reading undoes writing -/

theorem Text.chars?_pieceOf (c : Char) (rest : Text) :
    chars? (pieceOf c :: rest) = (chars? rest).map (c :: ·) := by
  unfold pieceOf
  split
  · next h =>
    have hc : c.toNat < 0xD800 := by
      simp only [mustEscape, Bool.or_eq_true, beq_iff_eq, decide_eq_true_eq] at h
      rcases h with (rfl | rfl) | h
      · decide
      · decide
      · omega
    have hunit : (UInt16.ofNat c.toNat).toNat = c.toNat := by
      rw [UInt16.toNat_ofNat']
      omega
    have hhigh : isHighSurrogate (UInt16.ofNat c.toNat) = false := by
      simp only [isHighSurrogate, UInt16.le_iff_toNat_le, hunit, Bool.and_eq_false_iff,
        decide_eq_false_iff_not]
      left
      have : (0xD800 : UInt16).toNat = 0xD800 := by decide
      omega
    have hlow : isLowSurrogate (UInt16.ofNat c.toNat) = false := by
      simp only [isLowSurrogate, UInt16.le_iff_toNat_le, hunit, Bool.and_eq_false_iff,
        decide_eq_false_iff_not]
      left
      have : (0xDC00 : UInt16).toNat = 0xDC00 := by decide
      omega
    rw [chars?.eq_def]
    simp [hhigh, hlow, hunit]
  · rfl

/-- Reading a written string gives back its characters. -/
theorem Text.chars?_ofChars (cs : List Char) : chars? (ofChars cs) = some cs := by
  induction cs with
  | nil => rfl
  | cons c cs ih =>
    show chars? (pieceOf c :: ofChars cs) = _
    rw [chars?_pieceOf, ih]
    rfl

/-- Reading a written string gives back the string. -/
@[simp] theorem Text.string?_ofString (s : String) : string? (ofString s) = some s := by
  simp [string?, ofString, chars?_ofChars]

end CapabilityBroker.Json
