/-
CapabilityBroker/Proofs/Json/Surface.lean

Requests, replies and all that goes with them are read back from one line of
text.

A variant is told by its name, so a request is read back as soon as the names
of the requests are pairwise different; that shows in the decoder reaching
the branch of the right name, one case for each constructor.  The fields of
the record below it are then read as those of any record.
-/
import CapabilityBroker.Proofs.Json.Forms
import CapabilityBroker.Service.Reply
import CapabilityBroker.Settings

namespace CapabilityBroker

open Json

/-! ### What requests are made of -/

instance : Faithful Kernel.RcvFlags :=
  .of_field Kernel.RcvFlags.bits Kernel.RcvFlags.mk (fun _ => rfl) (fun _ => rfl) fun _ => rfl

instance : Faithful Invocation where
  writable i := writable_record (by simp)
  decode_encode i := by
    show (Fields.ofJson? _ (Json.record _)).bind _ = _
    simp [Fields.ofJson?_record, Fields.required]

instance : Faithful Phase where
  writable phase := writable_ofString phase.text
  decode_encode phase := by
    show (Variant.ofJson? (Json.ofString phase.text)).bind _ = _
    cases phase <;> simp [Phase.text, Variant.bare]

instance : Faithful MainMode where
  writable mode := writable_ofString mode.text
  decode_encode mode := by
    show (Variant.ofJson? (Json.ofString mode.text)).bind _ = _
    cases mode <;> simp [MainMode.text, Variant.bare]

instance : Faithful Outcome where
  writable
    | .main mode => writable_tagged (Faithful.writable mode)
    | .exited => writable_ofString _
  decode_encode
    | .main mode => by
      show (Variant.ofJson? (Json.tagged _ _)).bind _ = _
      simp [Variant.carried]
    | .exited => by
      show (Variant.ofJson? (Json.ofString _)).bind _ = _
      simp [Variant.bare]

instance : Faithful Settings where
  writable s := writable_record (by simp)
  decode_encode s := by
    show (Fields.ofJson? _ (Json.record _)).bind _ = _
    simp [Fields.ofJson?_record, Fields.orDefault, Settings.fieldNames]

/-! ### Requests -/

theorem Request.writable_toJson (r : Request) : Writable r.toJson := by
  cases r with
  | createVmComponent => exact writable_ofString _
  | _ => exact writable_tagged (writable_record (by simp))

theorem Request.ofJson?_toJson (r : Request) : Request.ofJson? r.toJson = some r := by
  -- The name leads to its branch; the branch reads the record.
  cases r <;>
    simp only [Request.ofJson?, Request.toJson, Variant.ofJson?_tagged, Variant.ofJson?_ofString,
      Option.bind_eq_bind, Option.bind_some]
  all_goals
    simp [Variant.fields, Variant.bare, Fields.ofJson?_record, Fields.required, Fields.optional]

instance : Faithful Request where
  writable := Request.writable_toJson
  decode_encode := Request.ofJson?_toJson

/-! ### Replies -/

instance : Faithful ReceiveEndpoint where
  writable e := writable_record (by simp)
  decode_encode e := by
    show (Fields.ofJson? _ (Json.record _)).bind _ = _
    simp [Fields.ofJson?_record, Fields.required]

instance : Faithful Reply where
  writable r := by
    cases r with
    | exited | refused => exact writable_ofString _
    | thread | span | mapped => exact writable_tagged (writable_record (by simp))
    | _ => exact writable_tagged (Faithful.writable _)
  decode_encode r := by
    cases r with
    | exited | refused =>
      show (Variant.ofJson? (Json.ofString _)).bind _ = _
      simp [Variant.bare]
    | thread | span | mapped =>
      show (Variant.ofJson? (Json.tagged _ _)).bind _ = _
      simp [Variant.fields, Fields.ofJson?_record, Fields.required]
    | _ =>
      show (Variant.ofJson? (Json.tagged _ _)).bind _ = _
      simp [Variant.carried]

/-! ### The surface -/

/-- **The surface survives its text**: every request, reply, invocation,
phase, mode, outcome and every settings record is what is read from the one
line it is written as, so different ones are written differently. -/
theorem surface_read_back :
    (∀ r : Request, (Json.parse? (encode r).compact).bind decode = some r) ∧
    (∀ r : Reply, (Json.parse? (encode r).compact).bind decode = some r) ∧
    (∀ i : Invocation, (Json.parse? (encode i).compact).bind decode = some i) ∧
    (∀ phase : Phase, (Json.parse? (encode phase).compact).bind decode = some phase) ∧
    (∀ mode : MainMode, (Json.parse? (encode mode).compact).bind decode = some mode) ∧
    (∀ outcome : Outcome, (Json.parse? (encode outcome).compact).bind decode = some outcome) ∧
    (∀ s : Settings, (Json.parse? (encode s).compact).bind decode = some s) ∧
    (Function.Injective fun r : Request => (encode r).compact) ∧
    (Function.Injective fun r : Reply => (encode r).compact) :=
  ⟨decode_compact, decode_compact, decode_compact, decode_compact, decode_compact,
    decode_compact, decode_compact, compact_injective, compact_injective⟩

end CapabilityBroker
