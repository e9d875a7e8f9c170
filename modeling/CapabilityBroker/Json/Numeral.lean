/-
CapabilityBroker/Json/Numeral.lean

The numbers of the JSON text format, as written.

A numeral is kept as its characters, so that one of any size or precision
can be passed over.  `isNumeral` is the grammar: an optional minus sign, an
integer part without superfluous zeros, an optional fraction and an optional
exponent.  Only plain integers have a value here: `integer?` reads neither a
fraction, nor an exponent, nor a negative zero.
-/
import CapabilityBroker.Word

namespace CapabilityBroker.Json

/-! ### The grammar -/

/-- What follows an optional minus sign. -/
def afterSign : List Char → List Char
  | '-' :: rest => rest
  | cs => cs

/-- What follows an integer part: a lone zero, or digits that start with
another digit. -/
def afterInteger? : List Char → Option (List Char)
  | [] => none
  | c :: rest =>
    if c = '0' then some rest
    else if c.isDigit then some (rest.dropWhile Char.isDigit)
    else none

/-- What follows one or more digits. -/
def afterDigits? : List Char → Option (List Char)
  | [] => none
  | c :: rest => if c.isDigit then some (rest.dropWhile Char.isDigit) else none

/-- What follows an optional fraction. -/
def afterFraction? : List Char → Option (List Char)
  | [] => some []
  | c :: rest => if c = '.' then afterDigits? rest else some (c :: rest)

/-- What follows an optional exponent. -/
def afterExponent? : List Char → Option (List Char)
  | [] => some []
  | c :: rest =>
    if c = 'e' ∨ c = 'E' then
      match rest with
      | [] => none
      | s :: rest' => if s = '+' ∨ s = '-' then afterDigits? rest' else afterDigits? (s :: rest')
    else some (c :: rest)

/-- Whether the characters are a number of the format. -/
def isNumeral (cs : List Char) : Bool :=
  ((afterInteger? (afterSign cs)).bind afterFraction?).bind afterExponent? == some []

/-! ### Integer values -/

/-- The value of a list of decimal digits, all of them. -/
def digitsValue? (cs : List Char) : Option Nat :=
  if cs.all Char.isDigit && !cs.isEmpty then some (Nat.ofDigitChars 10 cs 0) else none

/-- The value of a numeral that is a plain integer. -/
def integer? (cs : List Char) : Option Int :=
  if isNumeral cs then
    match cs with
    | '-' :: digits =>
      match digitsValue? digits with
      | some (n + 1) => some (-(n + 1 : Nat))
      | _ => none
    | digits => (digitsValue? digits).map Int.ofNat
  else none

end CapabilityBroker.Json
