/-
CapabilityBroker/Proofs/Json/Building.lean

The tokens of a value are built into the value.

`Builds ts v` says that the tokens `ts`, read where a value is due, leave
behind the complete value `v` and the open containers as they were.  A value
builds from its own tokens by recursion over the value; the containers need
what their tails do to a container that already holds something
(`build_moreItems`, `build_moreEntries`).

With the cut of what is written, this gives the two round trips of the text
format: a value that can be written is read back from both layouts.
-/
import CapabilityBroker.Proofs.Json.Cutting

namespace CapabilityBroker.Json

/-! ### Reading on -/

namespace Build

/-- Read more tokens. -/
def read (s : Build) (ts : List Token) : Option Build := ts.foldlM push s

@[simp] theorem read_nil (s : Build) : s.read [] = some s := rfl

theorem read_cons (s : Build) (t : Token) (ts : List Token) :
    s.read (t :: ts) = (s.push t).bind (read · ts) := rfl

theorem read_append (s : Build) (ts us : List Token) :
    s.read (ts ++ us) = (s.read ts).bind (read · us) := by
  simp [read, List.foldlM_append, Option.bind_eq_bind]

end Build

/-- Read where a value is due, `ts` builds the value `v`. -/
def Builds (ts : List Token) (v : Json) : Prop :=
  ∀ stack, Build.read ⟨stack, .value⟩ ts = some ⟨stack, .after v⟩

theorem Builds.ofTokens?_eq {ts : List Token} {v : Json} (h : Builds ts v) :
    ofTokens? ts = some v := by
  show ((Build.read ⟨[], .value⟩ ts).bind Build.close) = some v
  rw [h []]
  rfl

/-- The first token of a value does not close a list, so the first item of a
list is read as any other. -/
theorem read_first_item (stack : List Frame) (v : Json) (ts : List Token) :
    Build.read ⟨stack, .itemOrClose⟩ (tokens v ++ ts) =
      Build.read ⟨.list [] :: stack, .value⟩ (tokens v ++ ts) := by
  have hpush : ∃ t us, tokens v = t :: us ∧ t ≠ .closeList := by
    cases v with
    | list items => cases items <;> exact ⟨_, _, by rw [tokens], by decide⟩
    | object entries => cases entries <;> exact ⟨_, _, by rw [tokens], by decide⟩
    | _ => exact ⟨_, _, by rw [tokens], by simp⟩
  obtain ⟨t, us, heq, ht⟩ := hpush
  rw [heq, List.cons_append, Build.read_cons, Build.read_cons]
  cases t <;> first | contradiction | rfl

/-! ### Values from their tokens -/

mutual

theorem builds_tokens : (v : Json) → Builds (tokens v) v
  | .null => fun _ => by simp [tokens, Build.read_cons, Build.push, Build.startValue]
  | .bool _ => fun _ => by simp [tokens, Build.read_cons, Build.push, Build.startValue]
  | .number _ => fun _ => by simp [tokens, Build.read_cons, Build.push, Build.startValue]
  | .text _ => fun _ => by simp [tokens, Build.read_cons, Build.push, Build.startValue]
  | .list [] => fun _ => by simp [tokens, Build.read_cons, Build.push, Build.startValue]
  | .list (v :: rest) => fun stack => by
    rw [tokens, Build.read_cons]
    show Build.read ⟨stack, .itemOrClose⟩ (tokens v ++ moreItems rest) = _
    rw [read_first_item, Build.read_append, builds_tokens v, Option.bind_some,
      build_moreItems rest]
    rfl
  | .object [] => fun _ => by simp [tokens, Build.read_cons, Build.push, Build.startValue]
  | .object ((key, v) :: rest) => fun stack => by
    rw [tokens, Build.read_cons]
    show Build.read ⟨.object [] key :: stack, .value⟩ (tokens v ++ moreEntries rest) = _
    rw [Build.read_append, builds_tokens v, Option.bind_some, build_moreEntries rest]
    rfl

theorem build_moreItems (rest items : List Json) (v : Json) (stack : List Frame) :
    Build.read ⟨.list items :: stack, .after v⟩ (moreItems rest) =
      some ⟨stack, .after (.list ((v :: items).reverse ++ rest))⟩ := by
  cases rest with
  | nil => simp [moreItems, Build.read_cons, Build.push, Build.afterValue]
  | cons w rest =>
    rw [moreItems, Build.read_cons]
    show Build.read ⟨.list (v :: items) :: stack, .value⟩ (tokens w ++ moreItems rest) = _
    rw [Build.read_append, builds_tokens w, Option.bind_some, build_moreItems rest]
    simp

theorem build_moreEntries (rest entries : List (Text × Json)) (key : Text) (v : Json)
    (stack : List Frame) :
    Build.read ⟨.object entries key :: stack, .after v⟩ (moreEntries rest) =
      some ⟨stack, .after (.object (((key, v) :: entries).reverse ++ rest))⟩ := by
  match rest with
  | [] => simp [moreEntries, Build.read_cons, Build.push, Build.afterValue]
  | (key', w) :: rest =>
    rw [moreEntries, Build.read_cons]
    show Build.read ⟨.object ((key, v) :: entries) key' :: stack, .value⟩
      (tokens w ++ moreEntries rest) = _
    rw [Build.read_append, builds_tokens w, Option.bind_some, build_moreEntries rest]
    simp

end

/-! ### Round trips -/

/-- A value that can be written is read back from one line. -/
theorem Writable.parse?_compact {j : Json} (h : Writable j) : parse? j.compact = some j := by
  rw [parse?, compact, String.toList_ofList, h.spells_compact.tokens?_eq, Option.bind_some,
    (builds_tokens j).ofTokens?_eq]

/-- A value that can be written is read back from the indented layout. -/
theorem Writable.parse?_indented {j : Json} (h : Writable j) : parse? j.indented = some j := by
  rw [parse?, indented, String.toList_ofList, (h.spells_indented 0).tokens?_eq, Option.bind_some,
    (builds_tokens j).ofTokens?_eq]

end CapabilityBroker.Json
