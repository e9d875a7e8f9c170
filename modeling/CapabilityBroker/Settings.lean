/-
CapabilityBroker/Settings.lean

What is fixed when the system image is built: how many objects of each kind
the broker can keep, and how much memory it sets aside.
-/
import CapabilityBroker.Json.Names

namespace CapabilityBroker

/-- The sizes of the broker's pools and regions. -/
structure Settings where
  /-- The component that the broker itself runs as. -/
  selfId : ComponentId
  /-- Components have the ids `1` to `maxComponents`. -/
  maxComponents : UInt64
  maxThreads : UInt64
  maxRcvs : UInt64
  maxAsnds : UInt64
  maxPages : UInt64
  maxSpans : UInt64
  /-- The size of the contiguous region, in pages. -/
  contigPages : UInt64
  /-- The number of cores that take part in parallel initialization. -/
  numCores : UInt64
  /-- The least slot at which a manifest may end the broker's table. -/
  captblFree : UInt64
deriving DecidableEq

namespace Settings

/-- The settings of an ordinary image: 64 components, 1024 threads and
endpoints, 512 MiB of pages and a contiguous region of 70000 of them. -/
def standard : Settings :=
  ⟨⟨2⟩, 64, 1024, 1024, 1024, 131072, 131072, 70000, 1, 16⟩

/-- Settings so small that everything can run out. -/
def small : Settings :=
  { standard with
    maxComponents := 32
    maxThreads := 64
    maxRcvs := 32
    maxAsnds := 32
    maxPages := 256
    maxSpans := 64
    contigPages := 64 }

/-- Set the number of participating cores. -/
def withCores (s : Settings) (cores : UInt64) : Settings := { s with numCores := cores }

/-- Set the component of the broker. -/
def withSelfId (s : Settings) (id : ComponentId) : Settings := { s with selfId := id }

/-- The names of the fields, in order. -/
def fieldNames : List String :=
  ["self_id", "max_components", "max_threads", "max_rcvs", "max_asnds", "max_pages",
   "max_spans", "contig_pages", "num_cores", "captbl_free"]

/-- The settings that a value gives, on top of others. -/
def override? (base : Settings) (j : Json) : Option Settings := do
  let fields ← Fields.ofJson? fieldNames j
  let selfId ← fields.orDefault "self_id" base.selfId
  let maxComponents ← fields.orDefault "max_components" base.maxComponents
  let maxThreads ← fields.orDefault "max_threads" base.maxThreads
  let maxRcvs ← fields.orDefault "max_rcvs" base.maxRcvs
  let maxAsnds ← fields.orDefault "max_asnds" base.maxAsnds
  let maxPages ← fields.orDefault "max_pages" base.maxPages
  let maxSpans ← fields.orDefault "max_spans" base.maxSpans
  let contigPages ← fields.orDefault "contig_pages" base.contigPages
  let numCores ← fields.orDefault "num_cores" base.numCores
  let captblFree ← fields.orDefault "captbl_free" base.captblFree
  pure ⟨selfId, maxComponents, maxThreads, maxRcvs, maxAsnds, maxPages, maxSpans, contigPages,
    numCores, captblFree⟩

end Settings

instance : Wire Settings where
  encode s := Json.record
    [("self_id", encode s.selfId), ("max_components", encode s.maxComponents),
     ("max_threads", encode s.maxThreads), ("max_rcvs", encode s.maxRcvs),
     ("max_asnds", encode s.maxAsnds), ("max_pages", encode s.maxPages),
     ("max_spans", encode s.maxSpans), ("contig_pages", encode s.contigPages),
     ("num_cores", encode s.numCores), ("captbl_free", encode s.captblFree)]
  decode := Settings.standard.override?

end CapabilityBroker
