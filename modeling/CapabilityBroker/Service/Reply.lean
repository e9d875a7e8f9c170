/-
CapabilityBroker/Service/Reply.lean

What the broker replies.

A request that is refused is replied to with an empty form of the reply it
would have had: the null capability, the id 0, the address 0.  A signal that
is refused has a reply of its own.
-/
import CapabilityBroker.Service.Request

namespace CapabilityBroker

/-- A receive endpoint with a send endpoint to it, as the scheduler that
asked for it sees them. -/
structure ReceiveEndpoint where
  rcv : Cap .rcv
  asnd : Cap .asnd
  thread : Cap .thread
  tid : ThreadId
deriving DecidableEq

instance : Wire ReceiveEndpoint where
  encode e := Json.record
    [("rcv", encode e.rcv), ("asnd", encode e.asnd), ("thread", encode e.thread),
     ("tid", encode e.tid)]
  decode j := do
    let fields ← Fields.ofJson? ["rcv", "asnd", "thread", "tid"] j
    let rcv ← fields.required "rcv"
    let asnd ← fields.required "asnd"
    let thread ← fields.required "thread"
    let tid ← fields.required "tid"
    pure ⟨rcv, asnd, thread, tid⟩

/-- A reply. -/
inductive Reply where
  | thread (cap : Cap .thread) (tid : ThreadId)
  | receiveEndpoint (endpoint : ReceiveEndpoint)
  | component (id : ComponentId)
  | address (vaddr : Vaddr)
  | physical (paddr : Paddr)
  | span (span : UInt32) (vaddr : Vaddr)
  | mapped (pages : UInt64) (vaddr : Vaddr)
  | initDone (outcome : Outcome)
  | exited
  /-- A signal that could not be applied. -/
  | refused
deriving DecidableEq

namespace Reply

/-- The empty reply to a request. -/
def nullFor : Request → Reply
  | .createThread .. => thread .null ⟨0⟩
  | .createThreadThunk _ => thread .null ⟨0⟩
  | .createInitThread _ => thread .null ⟨0⟩
  | .createVcpu .. => thread .null ⟨0⟩
  | .createReceiveEndpoint .. => receiveEndpoint ⟨.null, .null, .null, ⟨0⟩⟩
  | .createVmComponent => component .none
  | .translate _ => physical ⟨0⟩
  | .allocateHeapPages .. => address .null
  | .mapPhysicalRegion .. => address .null
  | .allocateContiguousPages _ => address .null
  | .allocateSharedPages .. => span 0 .null
  | .allocateContiguousShared .. => span 0 .null
  | .mapSharedSpan .. => mapped 0 .null
  | .mapSharedSpanInVm .. => mapped 0 .null
  | .signalInitDone .. => refused
  | .signalInitExit _ => refused

/-- Whether the reply is an empty one. -/
def isNull : Reply → Bool
  | thread cap _ => cap.isNull
  | receiveEndpoint endpoint => endpoint.rcv.isNull
  | component id => !id.isSome
  | address vaddr => vaddr.isNull
  | physical paddr => paddr.isNull
  | .span id _ => id == 0
  | mapped pages _ => pages == 0
  | initDone _ => false
  | exited => false
  | refused => true

@[simp] theorem isNull_nullFor (request : Request) : (nullFor request).isNull = true := by
  cases request <;> rfl

end Reply

/-! ### JSON form -/

instance : Wire Reply where
  encode
    | .thread cap tid =>
      Json.tagged "Thread" (Json.record [("cap", encode cap), ("tid", encode tid)])
    | .receiveEndpoint endpoint => Json.tagged "ReceiveEndpoint" (encode endpoint)
    | .component id => Json.tagged "Component" (encode id)
    | .address vaddr => Json.tagged "Address" (encode vaddr)
    | .physical paddr => Json.tagged "Physical" (encode paddr)
    | .span span vaddr =>
      Json.tagged "Span" (Json.record [("span", encode span), ("vaddr", encode vaddr)])
    | .mapped pages vaddr =>
      Json.tagged "Mapped" (Json.record [("pages", encode pages), ("vaddr", encode vaddr)])
    | .initDone outcome => Json.tagged "InitDone" (encode outcome)
    | .exited => Json.ofString "Exited"
    | .refused => Json.ofString "Refused"
  decode j := do
    let v ← Variant.ofJson? j
    match v.name with
    | "Thread" =>
      let fields ← v.fields ["cap", "tid"]
      let cap ← fields.required "cap"
      let tid ← fields.required "tid"
      pure (.thread cap tid)
    | "ReceiveEndpoint" => v.carried .receiveEndpoint
    | "Component" => v.carried .component
    | "Address" => v.carried .address
    | "Physical" => v.carried .physical
    | "Span" =>
      let fields ← v.fields ["span", "vaddr"]
      let span ← fields.required "span"
      let vaddr ← fields.required "vaddr"
      pure (.span span vaddr)
    | "Mapped" =>
      let fields ← v.fields ["pages", "vaddr"]
      let pages ← fields.required "pages"
      let vaddr ← fields.required "vaddr"
      pure (.mapped pages vaddr)
    | "InitDone" => v.carried .initDone
    | "Exited" => v.bare .exited
    | "Refused" => v.bare .refused
    | _ => none

end CapabilityBroker
