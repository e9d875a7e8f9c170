/-
CapabilityBroker/Service/Image.lean

The image that the broker was started from.

Nothing in it changes while the broker serves.
-/
import CapabilityBroker.Manifest.Schedulers
import CapabilityBroker.Settings

namespace CapabilityBroker

/-- What is fixed once the broker has started. -/
structure Image where
  settings : Settings
  manifest : Manifest
  /-- The executions to create, in order. -/
  plan : List (ComponentId × Execution)
  schedulers : Schedulers

/-- An image that no manifest describes. -/
def Image.bare (settings : Settings) : Image := ⟨settings, .empty, [], .ofManifest .empty⟩

end CapabilityBroker
