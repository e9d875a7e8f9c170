/-
CapabilityBroker/Service/Dispatch.lean

Answering requests.

A failure becomes the empty reply to its request; a defect stops the
service.  `serve` answers requests in order until they run out, one of them
has to wait at a barrier, or a defect shows.
-/
import CapabilityBroker.Service.Operation

namespace CapabilityBroker.Service

/-! ### One request -/

/-- The reply with a span. -/
def spanReply (answer : Nat × Vaddr) : Operation Reply := do
  pure (.span (← Step.exact (word32? answer.1)) answer.2)

/-- The reply with a number of mapped pages. -/
def mappedReply (answer : Nat × Vaddr) : Operation Reply := do
  pure (.mapped (← Step.exact (word64? answer.1)) answer.2)

/-- The reply with a thread. -/
def threadReply (answer : Cap .thread × ThreadId) : Reply := .thread answer.1 answer.2

/-- An operation that finishes at once. -/
def finishing (operation : Operation Reply) : Operation (Progress Reply) :=
  Progress.finished <$> operation

/-- The operation behind a request.  Only the signal that an initialization
is done can park the caller. -/
def perform (image : Image) (i : Invocation) : Request → Operation (Progress Reply)
  | .createThread client _ => finishing (threadReply <$> createClientThread image i client)
  | .createThreadThunk _ => finishing (threadReply <$> createThreadThunk i)
  | .createInitThread client => finishing (threadReply <$> createClientThread image i client)
  | .createVcpu vm _ => finishing (threadReply <$> createVcpu i vm)
  | .createReceiveEndpoint _ _ => finishing (Reply.receiveEndpoint <$> createEndpointPair i)
  | .createVmComponent => finishing (Reply.component <$> createVmComponent i)
  | .translate vaddr => finishing (Reply.physical <$> translateAddress i vaddr)
  | .allocateHeapPages count align =>
    finishing (Reply.address <$> allocateHeapPages i count.toNat align)
  | .mapPhysicalRegion paddr size =>
    finishing (Reply.address <$> mapPhysicalRegion i paddr size)
  | .allocateSharedPages count align =>
    finishing (allocateSharedPages i count.toNat align >>= spanReply)
  | .mapSharedSpan span align => finishing (mapSharedSpan i span.toNat align >>= mappedReply)
  | .mapSharedSpanInVm vm span align =>
    finishing (mapSharedSpanInVm i vm span.toNat align >>= mappedReply)
  | .allocateContiguousPages count =>
    finishing (Reply.address <$> allocateContiguousPages i count.toNat)
  | .allocateContiguousShared count align =>
    finishing (allocateContiguousSpan i count.toNat align >>= spanReply)
  | .signalInitDone parallel mode => Progress.map Reply.initDone <$> initDone i parallel mode
  | .signalInitExit retval => finishing ((fun () => Reply.exited) <$> initExit i retval)

/-- Answer a request: a failure becomes the empty reply, a defect stays. -/
def dispatch (image : Image) (i : Invocation) (request : Request) :
    Step Broker Defect (Progress Reply) := do
  match ← (perform image i request).attempt with
  | .ok progress => pure progress
  | .error failure =>
    match failure.defect? with
    | some defect => Step.refuse defect
    | none =>
      log .debug ("capmgr: " ++ request.text ++ " from " ++ i.caller.text ++ " refused: "
        ++ failure.message)
      pure (.finished (.nullFor request))

/-! ### Many requests -/

/-- A request with its invocation. -/
abbrev Call := Invocation × Request

/-- How a run of requests came to an end. -/
inductive Run where
  /-- All were answered. -/
  | completed (replies : List Reply)
  /-- The thread waits at the barrier of a component.  The replies include
  the one that it waits for. -/
  | waiting (component : ComponentId) (replies : List Reply) (rest : List Call)
  | halted (halt : Halt)

/-- Answer requests after some were answered already. -/
def serveFrom (image : Image) (replies : List Reply) : List Call → Step Broker Empty Run
  | [] => pure (.completed replies)
  | (i, request) :: rest => do
    match ← (dispatch image i request).attempt with
    | .ok (.finished reply) => serveFrom image (replies ++ [reply]) rest
    | .ok (.parked component reply) => pure (.waiting component (replies ++ [reply]) rest)
    | .error defect =>
      log .error ("capmgr: halting on " ++ request.text ++ " from " ++ i.caller.text ++ ": "
        ++ defect.message)
      pure (.halted ⟨replies.length, defect⟩)

/-- Answer requests in order. -/
def serve (image : Image) (calls : List Call) : Step Broker Empty Run :=
  serveFrom image [] calls

end CapabilityBroker.Service
