/-
CapabilityBroker/Json/Token.lean

The tokens of the JSON text format, and how a text is cut into them.

The cutting is one pass over the characters.  Its state is the tokens read
so far, last one first, and what is being read: nothing, a word, a number,
or a string at some point of an escape.  A word or a number ends at the
first character that cannot belong to it, which is then read as the start of
the next token.  Every character is looked at once, and no bound on nesting
is needed.
-/
import CapabilityBroker.Json.Text
import CapabilityBroker.Json.Numeral

namespace CapabilityBroker.Json

/-- The tokens. -/
inductive Token where
  | openList
  | closeList
  | openObject
  | closeObject
  | colon
  | comma
  | null
  | bool (b : Bool)
  | number (numeral : List Char)
  | text (t : Text)
deriving DecidableEq

/-- What is being read between two tokens or inside one.  Lists are in
reverse. -/
inductive Reading where
  | blank
  | word (seen : List Char)
  | number (seen : List Char)
  | text (seen : Text)
  /-- After a backslash. -/
  | escape (seen : Text)
  /-- After a backslash and `u`, with `left` hexadecimal digits to come. -/
  | code (seen : Text) (left : Nat) (value : Nat)
deriving DecidableEq

/-- The tokens cut so far, last one first, and what is being read. -/
structure Cut where
  tokens : List Token
  reading : Reading
deriving DecidableEq

/-! ### Character classes -/

/-- The four blanks of the format. -/
def isBlank (c : Char) : Bool := c == ' ' || c == '\t' || c == '\n' || c == '\r'

/-- The letters of the three words `null`, `true` and `false`. -/
def isWordChar (c : Char) : Bool := 'a' ≤ c && c ≤ 'z'

/-- The characters that occur in numbers. -/
def isNumberChar (c : Char) : Bool :=
  c.isDigit || c == '-' || c == '+' || c == '.' || c == 'e' || c == 'E'

/-- The characters that numbers start with. -/
def isNumberStart (c : Char) : Bool := c.isDigit || c == '-'

/-- The value of a hexadecimal digit. -/
def hexValue? (c : Char) : Option Nat :=
  if '0' ≤ c ∧ c ≤ '9' then some (c.toNat - '0'.toNat)
  else if 'a' ≤ c ∧ c ≤ 'f' then some (c.toNat - 'a'.toNat + 10)
  else if 'A' ≤ c ∧ c ≤ 'F' then some (c.toNat - 'A'.toNat + 10)
  else none

/-- The token of a punctuation mark. -/
def punctuation? (c : Char) : Option Token :=
  match c with
  | '[' => some .openList
  | ']' => some .closeList
  | '{' => some .openObject
  | '}' => some .closeObject
  | ':' => some .colon
  | ',' => some .comma
  | _ => none

/-- The token of a word. -/
def word? (cs : List Char) : Option Token :=
  if cs = ['n', 'u', 'l', 'l'] then some .null
  else if cs = ['t', 'r', 'u', 'e'] then some (.bool true)
  else if cs = ['f', 'a', 'l', 's', 'e'] then some (.bool false)
  else none

namespace Cut

/-- Nothing read yet. -/
def empty : Cut := ⟨[], .blank⟩

/-- Read a character where a token may start. -/
def start (tokens : List Token) (c : Char) : Option Cut :=
  if isBlank c then some ⟨tokens, .blank⟩
  else if c = '"' then some ⟨tokens, .text []⟩
  else if isNumberStart c then some ⟨tokens, .number [c]⟩
  else if isWordChar c then some ⟨tokens, .word [c]⟩
  else (punctuation? c).map fun token => ⟨token :: tokens, .blank⟩

/-- The tokens with the word or number that was being read; a string must
have been closed. -/
def close (s : Cut) : Option (List Token) :=
  match s.reading with
  | .blank => some s.tokens
  | .word seen => (word? seen.reverse).map (· :: s.tokens)
  | .number seen =>
    if isNumeral seen.reverse then some (.number seen.reverse :: s.tokens) else none
  | _ => none

/-- Read one more character. -/
def push (s : Cut) (c : Char) : Option Cut :=
  match s.reading with
  | .blank => start s.tokens c
  | .word seen =>
    if isWordChar c then some ⟨s.tokens, .word (c :: seen)⟩
    else s.close.bind fun tokens => start tokens c
  | .number seen =>
    if isNumberChar c then some ⟨s.tokens, .number (c :: seen)⟩
    else s.close.bind fun tokens => start tokens c
  | .text seen =>
    if c = '"' then some ⟨.text seen.reverse :: s.tokens, .blank⟩
    else if c = '\\' then some ⟨s.tokens, .escape seen⟩
    else if c.toNat < 0x20 then none
    else some ⟨s.tokens, .text (.plain c :: seen)⟩
  | .escape seen =>
    if c = 'u' then some ⟨s.tokens, .code seen 4 0⟩
    else (unitOfEscape? c).map fun unit => ⟨s.tokens, .text (.escape unit :: seen)⟩
  | .code seen left value =>
    (hexValue? c).map fun digit =>
      if left ≤ 1 then ⟨s.tokens, .text (.escape (UInt16.ofNat (16 * value + digit)) :: seen)⟩
      else ⟨s.tokens, .code seen (left - 1) (16 * value + digit)⟩

end Cut

/-- The tokens of a text, in order. -/
def tokens? (cs : List Char) : Option (List Token) :=
  ((cs.foldlM Cut.push Cut.empty).bind Cut.close).map List.reverse

end CapabilityBroker.Json
