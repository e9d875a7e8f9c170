/-
CapabilityBroker/Service/Request.lean

What components ask the broker for.

A request says nothing of who makes it; that is the invocation's part.  No
request names a component to act for, apart from the targets of new threads
and of mappings into virtual machines, which are checked.
-/
import CapabilityBroker.Barrier.Phase
import CapabilityBroker.Kernel.Object

namespace CapabilityBroker

/-- Who invokes the broker, and on which core. -/
structure Invocation where
  caller : ComponentId
  core : CoreId
deriving DecidableEq

instance : Wire Invocation where
  encode i := Json.record [("caller", encode i.caller), ("core", encode i.core)]
  decode j := do
    let fields ← Fields.ofJson? ["caller", "core"] j
    let caller ← fields.required "caller"
    let core ← fields.required "core"
    pure ⟨caller, core⟩

/-- What a component can ask for. -/
inductive Request where
  | createThread (client : ComponentId) (entry : EntryIndex)
  /-- A thread in the caller itself. -/
  | createThreadThunk (entry : EntryIndex)
  | createInitThread (client : ComponentId)
  | createVcpu (vm : ComponentId) (entry : EntryIndex)
  | createReceiveEndpoint (entry : EntryIndex) (flags : Kernel.RcvFlags)
  | createVmComponent
  | translate (vaddr : Vaddr)
  | allocateHeapPages (count : UInt64) (align : Option UInt64)
  | mapPhysicalRegion (paddr : Paddr) (size : UInt64)
  | allocateSharedPages (count : UInt64) (align : Option UInt64)
  | mapSharedSpan (span : UInt32) (align : Option UInt64)
  | mapSharedSpanInVm (vm : ComponentId) (span : UInt32) (align : Option UInt64)
  | allocateContiguousPages (count : UInt64)
  | allocateContiguousShared (count : UInt64) (align : Option UInt64)
  | signalInitDone (parallel : Bool) (mode : MainMode)
  | signalInitExit (retval : Int32)
deriving DecidableEq

namespace Request

/-! ### JSON form -/

/-- The request in JSON form. -/
def toJson : Request → Json
  | createThread client entry =>
    Json.tagged "CreateThread"
      (Json.record [("client", encode client), ("entry", encode entry)])
  | createThreadThunk entry =>
    Json.tagged "CreateThreadThunk" (Json.record [("entry", encode entry)])
  | createInitThread client =>
    Json.tagged "CreateInitThread" (Json.record [("client", encode client)])
  | createVcpu vm entry =>
    Json.tagged "CreateVcpu" (Json.record [("vm", encode vm), ("entry", encode entry)])
  | createReceiveEndpoint entry flags =>
    Json.tagged "CreateReceiveEndpoint"
      (Json.record [("entry", encode entry), ("flags", encode flags)])
  | createVmComponent => Json.ofString "CreateVmComponent"
  | translate vaddr =>
    Json.tagged "TranslateVirtualToPhysical" (Json.record [("vaddr", encode vaddr)])
  | allocateHeapPages count align =>
    Json.tagged "AllocateHeapPages"
      (Json.record [("count", encode count), ("align", encode align)])
  | mapPhysicalRegion paddr size =>
    Json.tagged "MapPhysicalRegion"
      (Json.record [("paddr", encode paddr), ("size", encode size)])
  | allocateSharedPages count align =>
    Json.tagged "AllocateSharedPages"
      (Json.record [("count", encode count), ("align", encode align)])
  | mapSharedSpan span align =>
    Json.tagged "MapSharedSpan" (Json.record [("span", encode span), ("align", encode align)])
  | mapSharedSpanInVm vm span align =>
    Json.tagged "MapSharedSpanInVm"
      (Json.record [("vm", encode vm), ("span", encode span), ("align", encode align)])
  | allocateContiguousPages count =>
    Json.tagged "AllocateContiguousPages" (Json.record [("count", encode count)])
  | allocateContiguousShared count align =>
    Json.tagged "AllocateContiguousShared"
      (Json.record [("count", encode count), ("align", encode align)])
  | signalInitDone parallel mode =>
    Json.tagged "SignalInitDone"
      (Json.record [("parallel_requested", encode parallel), ("main", encode mode)])
  | signalInitExit retval =>
    Json.tagged "SignalInitExit" (Json.record [("retval", encode retval)])

/-- The request that a value gives. -/
def ofJson? (j : Json) : Option Request := do
  let v ← Variant.ofJson? j
  match v.name with
  | "CreateThread" =>
    let fields ← v.fields ["client", "entry"]
    let client ← fields.required "client"
    let entry ← fields.required "entry"
    pure (createThread client entry)
  | "CreateThreadThunk" =>
    let fields ← v.fields ["entry"]
    let entry ← fields.required "entry"
    pure (createThreadThunk entry)
  | "CreateInitThread" =>
    let fields ← v.fields ["client"]
    let client ← fields.required "client"
    pure (createInitThread client)
  | "CreateVcpu" =>
    let fields ← v.fields ["vm", "entry"]
    let vm ← fields.required "vm"
    let entry ← fields.required "entry"
    pure (createVcpu vm entry)
  | "CreateReceiveEndpoint" =>
    let fields ← v.fields ["entry", "flags"]
    let entry ← fields.required "entry"
    let flags ← fields.required "flags"
    pure (createReceiveEndpoint entry flags)
  | "CreateVmComponent" => v.bare createVmComponent
  | "TranslateVirtualToPhysical" =>
    let fields ← v.fields ["vaddr"]
    let vaddr ← fields.required "vaddr"
    pure (translate vaddr)
  | "AllocateHeapPages" =>
    let fields ← v.fields ["count", "align"]
    let count ← fields.required "count"
    let align ← fields.optional "align"
    pure (allocateHeapPages count align)
  | "MapPhysicalRegion" =>
    let fields ← v.fields ["paddr", "size"]
    let paddr ← fields.required "paddr"
    let size ← fields.required "size"
    pure (mapPhysicalRegion paddr size)
  | "AllocateSharedPages" =>
    let fields ← v.fields ["count", "align"]
    let count ← fields.required "count"
    let align ← fields.optional "align"
    pure (allocateSharedPages count align)
  | "MapSharedSpan" =>
    let fields ← v.fields ["span", "align"]
    let span ← fields.required "span"
    let align ← fields.optional "align"
    pure (mapSharedSpan span align)
  | "MapSharedSpanInVm" =>
    let fields ← v.fields ["vm", "span", "align"]
    let vm ← fields.required "vm"
    let span ← fields.required "span"
    let align ← fields.optional "align"
    pure (mapSharedSpanInVm vm span align)
  | "AllocateContiguousPages" =>
    let fields ← v.fields ["count"]
    let count ← fields.required "count"
    pure (allocateContiguousPages count)
  | "AllocateContiguousShared" =>
    let fields ← v.fields ["count", "align"]
    let count ← fields.required "count"
    let align ← fields.optional "align"
    pure (allocateContiguousShared count align)
  | "SignalInitDone" =>
    let fields ← v.fields ["parallel_requested", "main"]
    let parallel ← fields.required "parallel_requested"
    let mode ← fields.required "main"
    pure (signalInitDone parallel mode)
  | "SignalInitExit" =>
    let fields ← v.fields ["retval"]
    let retval ← fields.required "retval"
    pure (signalInitExit retval)
  | _ => none

end Request

instance : Wire Request where
  encode := Request.toJson
  decode := Request.ofJson?

/-! ### Text form -/

namespace Request

/-- A value under the name of its type. -/
def wrapped (type : String) (n : Nat) : String := type ++ "(" ++ decimal n ++ ")"

/-- A number that may be left out. -/
def optionText : Option UInt64 → String
  | some n => wrapped "Some" n.toNat
  | none => "None"

/-- A name with named values in braces. -/
def braced (name : String) (fields : List (String × String)) : String :=
  name ++ " \x7b " ++ String.intercalate ", " (fields.map fun f => f.1 ++ ": " ++ f.2) ++ " \x7d"

/-- The request in the journal. -/
def text : Request → String
  | createThread client entry =>
    braced "CreateThread"
      [("client", wrapped "ComponentId" client.number.toNat),
       ("entry", wrapped "EntryIndex" entry.number.toNat)]
  | createThreadThunk entry =>
    braced "CreateThreadThunk" [("entry", wrapped "EntryIndex" entry.number.toNat)]
  | createInitThread client =>
    braced "CreateInitThread" [("client", wrapped "ComponentId" client.number.toNat)]
  | createVcpu vm entry =>
    braced "CreateVcpu"
      [("vm", wrapped "ComponentId" vm.number.toNat),
       ("entry", wrapped "EntryIndex" entry.number.toNat)]
  | createReceiveEndpoint entry flags =>
    braced "CreateReceiveEndpoint"
      [("entry", wrapped "EntryIndex" entry.number.toNat),
       ("flags", wrapped "RcvFlags" flags.bits.toNat)]
  | createVmComponent => "CreateVmComponent"
  | translate vaddr =>
    braced "TranslateVirtualToPhysical" [("vaddr", wrapped "Vaddr" vaddr.toNat)]
  | allocateHeapPages count align =>
    braced "AllocateHeapPages" [("count", decimal count.toNat), ("align", optionText align)]
  | mapPhysicalRegion paddr size =>
    braced "MapPhysicalRegion"
      [("paddr", wrapped "Paddr" paddr.toNat), ("size", decimal size.toNat)]
  | allocateSharedPages count align =>
    braced "AllocateSharedPages" [("count", decimal count.toNat), ("align", optionText align)]
  | mapSharedSpan span align =>
    braced "MapSharedSpan" [("span", decimal span.toNat), ("align", optionText align)]
  | mapSharedSpanInVm vm span align =>
    braced "MapSharedSpanInVm"
      [("vm", wrapped "ComponentId" vm.number.toNat), ("span", decimal span.toNat),
       ("align", optionText align)]
  | allocateContiguousPages count =>
    braced "AllocateContiguousPages" [("count", decimal count.toNat)]
  | allocateContiguousShared count align =>
    braced "AllocateContiguousShared"
      [("count", decimal count.toNat), ("align", optionText align)]
  | signalInitDone parallel mode =>
    braced "SignalInitDone"
      [("parallel_requested", if parallel then "true" else "false"), ("main", mode.text)]
  | signalInitExit retval =>
    braced "SignalInitExit" [("retval", signedDecimal retval.toInt)]

end Request

end CapabilityBroker
