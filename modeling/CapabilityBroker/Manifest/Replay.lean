/-
CapabilityBroker/Manifest/Replay.lean

The capabilities the broker holds for components that already run.

For each such component the composer leaves three capabilities in a row: the
component, its capability table and its page table, in any order.  `groups`
reads a list of entries as a sequence of such triples.  Within a triple the
entries are judged in order, each for its capability id, its target and its
type; only then is the triple judged for being complete.
-/
import CapabilityBroker.Manifest.Basic

namespace CapabilityBroker

/-- The capabilities held for one component. -/
structure ComponentCaps where
  component : ComponentId
  comp : UInt64
  captbl : UInt64
  pgtbl : UInt64
deriving DecidableEq

/-- The kinds of capability that are replayed. -/
inductive ReplayKind where
  | comp
  | captbl
  | pgtbl
deriving DecidableEq

namespace ReplayKind

/-- The kind that an entry names. -/
def ofText (capid : UInt64) (kind : String) : Except Flaw ReplayKind :=
  if kind = "comp" then .ok comp
  else if kind = "captbl" then .ok captbl
  else if kind = "pgtbl" then .ok pgtbl
  else .error (.unknownCapType capid kind)

end ReplayKind

instance : Wire ReplayKind where
  encode
    | .comp => Json.ofString "Comp"
    | .captbl => Json.ofString "Captbl"
    | .pgtbl => Json.ofString "Pgtbl"
  decode j := do
    let v ← Variant.ofJson? j
    match v.name with
    | "Comp" => v.bare .comp
    | "Captbl" => v.bare .captbl
    | "Pgtbl" => v.bare .pgtbl
    | _ => none

namespace ComponentCaps

/-- No capability seen yet for `component`. -/
def start (component : ComponentId) : ComponentCaps := ⟨component, 0, 0, 0⟩

/-- Put a capability under its kind. -/
def set (caps : ComponentCaps) (capid : UInt64) : ReplayKind → ComponentCaps
  | .comp => { caps with comp := capid }
  | .captbl => { caps with captbl := capid }
  | .pgtbl => { caps with pgtbl := capid }

/-- Add one entry to the capabilities of its component. -/
def add (caps : ComponentCaps) (e : ReplayEntry) : Except Flaw ComponentCaps :=
  if e.capid = 0 then .error .invalidCapId
  else if e.target ≠ caps.component.number then
    .error (.inconsistentCaptbl e.capid caps.component ⟨e.target⟩)
  else (ReplayKind.ofText e.capid e.kind).map (caps.set e.capid)

/-- Whether every capability is there and belongs to some component. -/
def complete (caps : ComponentCaps) : Bool :=
  caps.component.isSome && caps.comp != 0 && caps.captbl != 0 && caps.pgtbl != 0

/-- The capabilities of one triple of entries. -/
def ofTriple (a b c : ReplayEntry) : Except Flaw ComponentCaps := do
  let caps ← [a, b, c].foldlM add (start ⟨a.target⟩)
  if caps.complete then pure caps else throw (.incompleteCaptbl caps.component)

/-- The capabilities of each component, triple by triple. -/
def groups : List ReplayEntry → Except Flaw (List ComponentCaps)
  | [] => .ok []
  | [a] => .error (.incompleteCaptbl ⟨a.target⟩)
  | [a, _] => .error (.incompleteCaptbl ⟨a.target⟩)
  | a :: b :: c :: rest => do
    let caps ← ofTriple a b c
    let others ← groups rest
    pure (caps :: others)

end ComponentCaps

/-- The capabilities held for each running component. -/
def Manifest.componentCaps (m : Manifest) : Except Flaw (List ComponentCaps) :=
  ComponentCaps.groups m.captbl

end CapabilityBroker
