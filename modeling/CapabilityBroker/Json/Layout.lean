/-
CapabilityBroker/Json/Layout.lean

Writing values: all on one line, or one item a line.

The compact layout puts no blanks anywhere.  The indented layout gives each
item of a list and each entry of an object its own line, two blanks further
in than its container, and writes empty containers as `[]` and `{}`.
-/
import CapabilityBroker.Json.Value

namespace CapabilityBroker.Json

/-! ### Compact -/

mutual

/-- A value on one line, without blanks. -/
def compactChars : Json → List Char
  | .null => "null".toList
  | .bool true => "true".toList
  | .bool false => "false".toList
  | .number numeral => numeral
  | .text t => t.spell
  | .list items => '[' :: compactItems items
  | .object entries => '{' :: compactEntries entries

/-- Items from the first to the closing bracket. -/
def compactItems : List Json → List Char
  | [] => [']']
  | [v] => compactChars v ++ [']']
  | v :: rest => compactChars v ++ ',' :: compactItems rest

/-- Entries from the first to the closing brace. -/
def compactEntries : List (Text × Json) → List Char
  | [] => ['}']
  | [(key, v)] => key.spell ++ ':' :: (compactChars v ++ ['}'])
  | (key, v) :: rest => key.spell ++ ':' :: (compactChars v ++ ',' :: compactEntries rest)

end

/-- A value on one line. -/
def compact (j : Json) : String := String.ofList j.compactChars

/-! ### Indented -/

/-- A new line, indented by `depth` steps. -/
def newLine (depth : Nat) : List Char := '\n' :: List.replicate (2 * depth) ' '

mutual

/-- A value whose lines after the first are indented by at least `depth`
steps. -/
def indentedChars (depth : Nat) : Json → List Char
  | .null => "null".toList
  | .bool true => "true".toList
  | .bool false => "false".toList
  | .number numeral => numeral
  | .text t => t.spell
  | .list items =>
    match items with
    | [] => ['[', ']']
    | v :: rest =>
      '[' :: (newLine (depth + 1) ++ (indentedChars (depth + 1) v ++ indentedItems depth rest))
  | .object entries =>
    match entries with
    | [] => ['{', '}']
    | (key, v) :: rest =>
      '{' :: (newLine (depth + 1) ++ (key.spell ++ ':' :: ' ' ::
        (indentedChars (depth + 1) v ++ indentedEntries depth rest)))

/-- The items after the first, each with the comma before it, and the closing
bracket. -/
def indentedItems (depth : Nat) : List Json → List Char
  | [] => newLine depth ++ [']']
  | v :: rest =>
    ',' :: (newLine (depth + 1) ++ (indentedChars (depth + 1) v ++ indentedItems depth rest))

/-- The entries after the first, each with the comma before it, and the
closing brace. -/
def indentedEntries (depth : Nat) : List (Text × Json) → List Char
  | [] => newLine depth ++ ['}']
  | (key, v) :: rest =>
    ',' :: (newLine (depth + 1) ++ (key.spell ++ ':' :: ' ' ::
      (indentedChars (depth + 1) v ++ indentedEntries depth rest)))

end

/-- A value with one item a line. -/
def indented (j : Json) : String := String.ofList (j.indentedChars 0)

end CapabilityBroker.Json
