/-
CapabilityBroker/Json/Wire.lean

The JSON forms of types.

A type on the wire has an encoder and a decoder.  Decoders are strict about
what they take and silent about what they do not know: a record ignores keys
that are not its own, but not one of its own keys given twice.  Records are
read from objects or, field by field in order, from lists.  Variants are
written as a bare name, or as an object whose only key is the name.
-/
import Std.Data.ExtTreeMap
import CapabilityBroker.Json.Value

namespace CapabilityBroker

/-- Types with a JSON form. -/
class Wire (α : Type) where
  encode : α → Json
  decode : Json → Option α

export Wire (encode decode)

open Json

/-! ### Numbers, truth values and strings -/

instance : Wire UInt64 where
  encode w := Json.ofNat w.toNat
  decode j := j.nat?.bind word64?

instance : Wire UInt32 where
  encode w := Json.ofNat w.toNat
  decode j := j.nat?.bind word32?

instance : Wire Int32 where
  encode i := Json.ofInt i.toInt
  decode j := j.int?.bind int32?

instance : Wire Bool where
  encode b := .bool b
  decode
    | .bool b => some b
    | _ => none

instance : Wire String where
  encode s := Json.ofString s
  decode j := j.string?

/-! ### Containers -/

variable {α β : Type}

instance [Wire α] : Wire (Option α) where
  encode
    | none => .null
    | some a => encode a
  decode
    | .null => some none
    | j => (decode j).map some

instance [Wire α] : Wire (List α) where
  encode items := .list (items.map encode)
  decode
    | .list items => items.mapM decode
    | _ => none

instance [Wire α] [Wire β] : Wire (α × β) where
  encode p := .list [encode p.1, encode p.2]
  decode
    | .list [a, b] => do
      let a ← decode a
      let b ← decode b
      pure (a, b)
    | _ => none

/-- Tables keyed by 64-bit numbers, in ascending order of the keys. -/
abbrev NumberTable (α : Type) := Std.ExtTreeMap UInt64 α

/-- The number a written key stands for: plain decimal digits, without
escapes. -/
def numberKey? (key : Text) : Option UInt64 := do
  let digits ← key.unescaped?
  (Json.number digits).nat?.bind word64?

/-- Add an entry as written to a table; a later entry replaces an earlier one
with the same key. -/
def addEntry [Wire α] (table : NumberTable α) (entry : Text × Json) : Option (NumberTable α) := do
  let key ← numberKey? entry.1
  let v ← decode entry.2
  pure (table.insert key v)

instance [Wire α] : Wire (NumberTable α) where
  encode table :=
    .object (table.toList.map fun e => (Text.ofString (decimal e.1.toNat), encode e.2))
  decode
    | .object entries => entries.foldlM addEntry ∅
    | _ => none

/-! ### Records -/

/-- The fields of a record that a value gives. -/
structure Fields where
  /-- Whether they were given by name, not by position. -/
  keyed : Bool
  given : List (String × Json)

namespace Fields

/-- The fields a value gives to a record with the field names `names`. -/
def ofJson? (names : List String) : Json → Option Fields
  | .object entries => do
    let named ← entries.mapM fun e => e.1.string?.map fun key => (key, e.2)
    let own := named.filter fun e => names.contains e.1
    if (own.map Prod.fst).Nodup then pure ⟨true, own⟩ else none
  | .list items => if items.length ≤ names.length then some ⟨false, names.zip items⟩ else none
  | _ => none

/-- The value given to a field. -/
def find? (fields : Fields) (name : String) : Option Json := fields.given.lookup name

/-- A field that must be given. -/
def required [Wire α] (fields : Fields) (name : String) : Option α :=
  (fields.find? name).bind decode

/-- A field that may be left out where fields are named. -/
def optional [Wire α] (fields : Fields) (name : String) : Option (Option α) :=
  match fields.find? name with
  | some j => decode j
  | none => if fields.keyed then some none else none

/-- A field with a value of its own when it is left out. -/
def orDefault [Wire α] (fields : Fields) (name : String) (default : α) : Option α :=
  match fields.find? name with
  | some j => decode j
  | none => some default

end Fields

/-! ### Variants -/

/-- A variant as written: its name, and what it carries if anything is
written. -/
structure Variant where
  name : String
  payload : Option Json

namespace Variant

/-- The variant a value names. -/
def ofJson? : Json → Option Variant
  | .text t => t.string?.map fun name => ⟨name, none⟩
  | .object [(t, payload)] => t.string?.map fun name => ⟨name, some payload⟩
  | _ => none

/-- A variant that carries nothing. -/
def bare (v : Variant) (a : α) : Option α :=
  match v.payload with
  | none => some a
  | some .null => some a
  | some _ => none

/-- A variant that carries one value. -/
def carried [Wire β] (v : Variant) (f : β → α) : Option α :=
  v.payload.bind fun j => (decode j).map f

/-- A variant that carries a record with the field names `names`. -/
def fields (v : Variant) (names : List String) : Option Fields :=
  v.payload.bind (Fields.ofJson? names)

end Variant

end CapabilityBroker
