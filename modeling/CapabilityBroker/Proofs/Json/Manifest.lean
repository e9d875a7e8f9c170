/-
CapabilityBroker/Proofs/Json/Manifest.lean

A manifest is read back from its text.

The parts of a manifest are records over faithful forms, and the manifest is
one itself: nine fields, each written, so that no default is ever taken.
Whatever the parts hold is on no account: any strings, any words, tables of
any size.
-/
import CapabilityBroker.Manifest.Basic
import CapabilityBroker.Proofs.Json.Forms

namespace CapabilityBroker

open Json

/-! ### The parts -/

instance : Faithful ReplayEntry where
  writable e := writable_record (by simp)
  decode_encode e := by
    show (Fields.ofJson? _ (Json.record _)).bind _ = _
    simp [Fields.ofJson?_record, Fields.required]

instance : Faithful SharedRegion where
  writable r := writable_record (by simp)
  decode_encode r := by
    show (Fields.ofJson? _ (Json.record _)).bind _ = _
    simp [Fields.ofJson?_record, Fields.required]

instance : Faithful VirtualResources where
  writable r := writable_record (by simp)
  decode_encode r := by
    show (Fields.ofJson? _ (Json.record _)).bind _ = _
    simp [Fields.ofJson?_record, Fields.orDefault]

instance : Faithful Frontiers where
  writable f := writable_record (by simp)
  decode_encode f := by
    show (Fields.ofJson? _ (Json.record _)).bind _ = _
    simp [Fields.ofJson?_record, Fields.orDefault]

/-! ### The whole -/

instance : Faithful Manifest where
  writable m := writable_record (by simp)
  decode_encode m := by
    show (Fields.ofJson? _ (Json.record _)).bind _ = _
    simp [Fields.ofJson?_record, Fields.orDefault, Manifest.fieldNames]

/-- **A manifest survives its text**: what is read from the text of a
manifest is the manifest. -/
theorem Manifest.parse_render (m : Manifest) : Manifest.parse? m.render = some m := decode_indented m

end CapabilityBroker
