/-
CapabilityBroker/Json/Value.lean

The values of the JSON text format.

A value keeps everything that a typed reader may want to judge: numerals
and strings as written, object entries in order with repetitions.  Building
a value from tokens is again one pass, over a stack of containers that are
still open.
-/
import CapabilityBroker.Json.Token

namespace CapabilityBroker

/-- A value of the text format, as written. -/
inductive Json where
  | null
  | bool (b : Bool)
  | number (numeral : List Char)
  | text (t : Json.Text)
  | list (items : List Json)
  | object (entries : List (Json.Text × Json))

namespace Json

/-! ### Building values from tokens -/

/-- A container that is still open.  What it holds so far is in reverse. -/
inductive Frame where
  | list (items : List Json)
  /-- An object whose value under `key` is being read. -/
  | object (entries : List (Text × Json)) (key : Text)

/-- What may come next. -/
inductive Phase where
  | value
  /-- The first item of a list, or its end. -/
  | itemOrClose
  /-- The first key of an object, or its end. -/
  | keyOrClose
  /-- A further key of an object that holds `entries`. -/
  | key (entries : List (Text × Json))
  /-- The colon after `key`. -/
  | colon (entries : List (Text × Json)) (key : Text)
  /-- A value is complete; a comma or the end of its container follows. -/
  | after (v : Json)

/-- The open containers, innermost first, and what may come next. -/
structure Build where
  stack : List Frame
  phase : Phase

namespace Build

/-- Nothing read yet. -/
def empty : Build := ⟨[], .value⟩

/-- Read the first token of a value. -/
def startValue (stack : List Frame) : Token → Option Build
  | .null => some ⟨stack, .after .null⟩
  | .bool b => some ⟨stack, .after (.bool b)⟩
  | .number numeral => some ⟨stack, .after (.number numeral)⟩
  | .text t => some ⟨stack, .after (.text t)⟩
  | .openList => some ⟨stack, .itemOrClose⟩
  | .openObject => some ⟨stack, .keyOrClose⟩
  | _ => none

/-- Read the token after a complete value. -/
def afterValue (v : Json) : List Frame → Token → Option Build
  | .list items :: stack, .comma => some ⟨.list (v :: items) :: stack, .value⟩
  | .list items :: stack, .closeList => some ⟨stack, .after (.list (v :: items).reverse)⟩
  | .object entries key :: stack, .comma => some ⟨stack, .key ((key, v) :: entries)⟩
  | .object entries key :: stack, .closeObject =>
    some ⟨stack, .after (.object ((key, v) :: entries).reverse)⟩
  | _, _ => none

/-- Read one more token. -/
def push (s : Build) (token : Token) : Option Build :=
  match s.phase with
  | .value => startValue s.stack token
  | .itemOrClose =>
    match token with
    | .closeList => some ⟨s.stack, .after (.list [])⟩
    | token => startValue (.list [] :: s.stack) token
  | .keyOrClose =>
    match token with
    | .closeObject => some ⟨s.stack, .after (.object [])⟩
    | .text key => some ⟨s.stack, .colon [] key⟩
    | _ => none
  | .key entries =>
    match token with
    | .text key => some ⟨s.stack, .colon entries key⟩
    | _ => none
  | .colon entries key =>
    match token with
    | .colon => some ⟨.object entries key :: s.stack, .value⟩
    | _ => none
  | .after v => afterValue v s.stack token

/-- The value, once no container is open. -/
def close (s : Build) : Option Json :=
  match s.stack, s.phase with
  | [], .after v => some v
  | _, _ => none

end Build

/-- The value that a list of tokens spells. -/
def ofTokens? (ts : List Token) : Option Json :=
  (ts.foldlM Build.push Build.empty).bind Build.close

/-- The value that a text spells. -/
def parse? (s : String) : Option Json := (tokens? s.toList).bind ofTokens?

/-! ### Common values -/

/-- A string value. -/
def ofString (s : String) : Json := .text (Text.ofString s)

/-- A natural number. -/
def ofNat (n : Nat) : Json := .number (Nat.toDigits 10 n)

/-- An integer. -/
def ofInt (i : Int) : Json :=
  if i < 0 then .number ('-' :: Nat.toDigits 10 i.natAbs) else ofNat i.natAbs

/-- An object with the given keys. -/
def record (entries : List (String × Json)) : Json :=
  .object (entries.map fun e => (Text.ofString e.1, e.2))

/-- An object with the one given key. -/
def tagged (tag : String) (v : Json) : Json := record [(tag, v)]

/-- The integer a value holds, if it is a plain one. -/
def int? : Json → Option Int
  | .number numeral => integer? numeral
  | _ => none

/-- The natural number a value holds, if it is a plain one. -/
def nat? (j : Json) : Option Nat :=
  match j.int? with
  | some (.ofNat n) => some n
  | _ => none

/-- The string a value holds. -/
def string? : Json → Option String
  | .text t => t.string?
  | _ => none

end Json

end CapabilityBroker
