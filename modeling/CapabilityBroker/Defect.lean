/-
CapabilityBroker/Defect.lean

Why an operation fails.

There are two classes.  A *failure* is a condition that a client can see and
live with; at the surface it becomes an empty reply.  A *defect* means that
the system image was composed inconsistently; there is no safe way on, and
the broker stops serving.  While the broker starts, every failure is a
defect.
-/
import CapabilityBroker.Kernel.Refusal
import CapabilityBroker.Manifest.Basic
import CapabilityBroker.Pool

namespace CapabilityBroker

/-! ### Defects -/

/-- A broken invariant of the system. -/
inductive Defect where
  | manifest (flaw : Flaw)
  /-- The manifest ends the broker's table below the first free slot. -/
  | captblEndTooLow (captblEnd captblFree : UInt64)
  | missingName (component : ComponentId)
  /-- The manifest mentions a component that has no record. -/
  | componentMissing (component : ComponentId)
  /-- The broker is asked to run something in itself. -/
  | selfExecution (component : ComponentId)
  /-- A mapping does not show the frame that it must show. -/
  | contiguityViolation (component : ComponentId) (vaddr : Vaddr) (expected : Paddr)
      (found : Option Paddr)
  | spanNotContiguous (span page : Nat)
  | kernel (refusal : Kernel.Refusal)
  | pool (refusal : Pool.Refusal)
deriving DecidableEq

namespace Defect

/-- A frame that was found, or that none was found. -/
def foundText : Option Paddr → String
  | some frame => "Some(Paddr(" ++ decimal frame.toNat ++ "))"
  | none => "None"

/-- The defect in words. -/
def message : Defect → String
  | manifest flaw => "Manifest error: " ++ flaw.message
  | captblEndTooLow captblEnd captblFree =>
    "captbl_end " ++ decimal captblEnd.toNat ++ " below the first free slot "
      ++ decimal captblFree.toNat
  | missingName component => "No name for " ++ component.text ++ " in the manifest"
  | componentMissing component =>
    component.text ++ " is referenced by the manifest but has no record"
  | selfExecution component =>
    "capmgr cannot create execution in itself (" ++ component.text ++ ")"
  | contiguityViolation component vaddr expected found =>
    "Physical memory not contiguous at " ++ vaddr.text ++ " in " ++ component.text
      ++ ": expected " ++ expected.text ++ ", found " ++ foundText found
  | spanNotContiguous span page =>
    "Span " ++ decimal span ++ " is not physically contiguous at page " ++ decimal page
  | kernel refusal => "Kernel primitive failed: " ++ refusal.message
  | pool refusal => "Pool failure during initialization: " ++ refusal.message

/-- The code of the defect, with the code of its cause after a dot. -/
def code : Defect → String
  | manifest flaw => "Manifest." ++ flaw.code
  | captblEndTooLow .. => "CaptblEndTooLow"
  | missingName _ => "MissingName"
  | componentMissing _ => "ComponentMissing"
  | selfExecution _ => "SelfExecution"
  | contiguityViolation .. => "ContiguityViolation"
  | spanNotContiguous .. => "SpanNotContiguous"
  | kernel refusal => "Kernel." ++ refusal.code
  | pool refusal => "Pool." ++ refusal.code

end Defect

/-! ### Failures -/

/-- Why the broker does not do what it was asked to. -/
inductive Failure where
  | pool (refusal : Pool.Refusal)
  | outOfMemory
  /-- A page is mapped as often as it can be. -/
  | mappingsExhausted (page : Nat)
  | contigExhausted (requested remaining : Nat)
  | unknownComponent (component : ComponentId)
  | unknownSpan (span : Nat)
  /-- A span that had to have one id was given another. -/
  | spanIdMismatch (requested assigned : Nat)
  | permissionDenied (caller target : ComponentId)
  | notScheduler (component : ComponentId) (core : CoreId)
  /-- A thread was created, but its scheduler does not hold it. -/
  | threadAliasFailed (tid : ThreadId)
  | notMapped (component : ComponentId) (vaddr : Vaddr)
  | initNotStarted (component : ComponentId)
  | invalidArgument (reason : String)
  | kernel (refusal : Kernel.Refusal)
  | fatal (defect : Defect)
deriving DecidableEq

namespace Failure

/-- The failure in words. -/
def message : Failure → String
  | pool refusal => refusal.message
  | outOfMemory => "Out of physical memory"
  | mappingsExhausted page => "All mapping slots in use for page " ++ decimal page
  | contigExhausted requested remaining =>
    "Contiguous region exhausted: requested " ++ decimal requested ++ ", " ++ decimal remaining
      ++ " left"
  | unknownComponent component => "Unknown component: " ++ component.text
  | unknownSpan span => "Unknown span: " ++ decimal span
  | spanIdMismatch requested assigned =>
    "Span " ++ decimal requested ++ " was assigned id " ++ decimal assigned
  | permissionDenied caller target => caller.text ++ " may not act on " ++ target.text
  | notScheduler component core => component.text ++ " is not a scheduler on " ++ core.text
  | threadAliasFailed tid => "Thread " ++ tid.text ++ " created but could not be aliased"
  | notMapped component vaddr =>
    "Address " ++ vaddr.text ++ " not mapped in " ++ component.text
  | initNotStarted component => component.text ++ " has no initialization in progress"
  | invalidArgument reason => "Invalid argument: " ++ reason
  | kernel refusal => "Kernel refused request: " ++ refusal.message
  | fatal defect => "Fatal: " ++ defect.message

/-- The code of the failure, with the code of its cause after a dot. -/
def code : Failure → String
  | pool refusal => "Pool." ++ refusal.code
  | outOfMemory => "OutOfMemory"
  | mappingsExhausted _ => "MappingsExhausted"
  | contigExhausted .. => "ContigExhausted"
  | unknownComponent _ => "UnknownComponent"
  | unknownSpan _ => "UnknownSpan"
  | spanIdMismatch .. => "SpanIdMismatch"
  | permissionDenied .. => "PermissionDenied"
  | notScheduler .. => "NotScheduler"
  | threadAliasFailed _ => "ThreadAliasFailed"
  | notMapped .. => "NotMapped"
  | initNotStarted _ => "InitNotStarted"
  | invalidArgument _ => "InvalidArgument"
  | kernel refusal => "Kernel." ++ refusal.code
  | fatal defect => "Fatal." ++ defect.code

/-- The defect, if the failure is one. -/
def defect? : Failure → Option Defect
  | fatal defect => some defect
  | _ => none

/-- Whether the failure stops the broker. -/
def isFatal (f : Failure) : Bool := f.defect?.isSome

end Failure

/-- The defect that a failure is while the broker starts. -/
def Defect.ofFailure : Failure → Defect
  | .fatal defect => defect
  | .pool refusal => .pool refusal
  | .kernel refusal => .kernel refusal
  | .outOfMemory => .kernel .outOfMemory
  | .unknownComponent component => .componentMissing component
  | failure => .kernel (.rejected failure.message)

/-! ### The end of service -/

/-- The broker stopped on a defect. -/
structure Halt where
  /-- The number of requests answered before. -/
  served : Nat
  defect : Defect
deriving DecidableEq

/-- The halt in words. -/
def Halt.message (h : Halt) : String :=
  "capmgr halted after " ++ decimal h.served ++ " requests: " ++ h.defect.message

end CapabilityBroker
