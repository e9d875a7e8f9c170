/-
CapabilityBroker/Proofs/Answers.lean

What the broker answers.

On the standard machine without planned faults, a client can neither bring a
defect to light nor stop the service, with one exception: it can ask for a
mapping that does not fit behind the frontier of an address space.  The
primitive behind the mapping is told beforehand of everything else that might
go wrong, but not of that, and its arithmetic leaves the word.  Since the
frontier only moves up and an alignment may be as large as the word allows, a
client comes there with two small requests.
-/
import CapabilityBroker.Proofs.Sound.Boot

namespace CapabilityBroker.Service

/-- Every request is answered, unless it overruns; then its thread aborts. -/
theorem dispatch_answers_unless_overrun {s : Setting} {image : Image} {b : Broker}
    (hlayout : s.layout = .standard) (hfaults : s.faults = []) (h : Reached s image b)
    (i : Invocation) (request : Request) :
    if overruns b i request then ∃ b', dispatch image i request b = .error .abort b'
    else ∃ progress b', dispatch image i request b = .ok progress b' := by
  have hleads := dispatch_leads image (h.sound hlayout hfaults) i request
  cases hend : dispatch image i request b with
  | ok progress b' =>
    rw [if_neg (hleads.of_ok hend).1]
    exact ⟨progress, b', rfl⟩
  | error why b' =>
    obtain ⟨rfl, hover, _⟩ := hleads.of_error hend
    rw [if_pos hover]
    exact ⟨b', rfl⟩

/-- A client of an ordinary system. -/
def anyClient : Invocation := ⟨⟨5⟩, ⟨0⟩⟩

/-- One page, at half the address space. -/
def pageAtHalf : Request := .allocateHeapPages 1 (some 0x8000000000000000)

theorem first_page_at_half_is_answered :
    ∃ image b, Reached .ordinary image b ∧ overruns b anyClient pageAtHalf = false ∧
      ∃ progress b', dispatch image anyClient pageAtHalf b = .ok progress b' := by
  have hrun : (Setting.ordinary.run []).any
      (fun p => !overruns p.2 anyClient pageAtHalf) = true := by decide +kernel
  obtain ⟨image, b, hreached, hfits⟩ := exists_reached hrun
  rw [Bool.not_eq_true'] at hfits
  have hanswer := dispatch_answers_unless_overrun rfl rfl hreached anyClient pageAtHalf
  rw [hfits, if_neg Bool.false_ne_true] at hanswer
  exact ⟨image, b, hreached, hfits, hanswer⟩

/-- Whether the thread of a request aborts. -/
def aborts (image : Image) (i : Invocation) (request : Request) (b : Broker) : Bool :=
  match dispatch image i request b with
  | .error .abort _ => true
  | _ => false

theorem of_aborts {image : Image} {i : Invocation} {request : Request} {b : Broker}
    (h : aborts image i request b = true) :
    ∃ b', dispatch image i request b = .error .abort b' := by
  unfold aborts at h
  split at h
  · next b' hend => exact ⟨b', hend⟩
  · cases h

/-- After the first such page, the frontier is behind half the address space,
and there is no place at that alignment any more. -/
theorem second_page_at_half_aborts :
    ∃ image b b', Reached .ordinary image b ∧
      dispatch image anyClient pageAtHalf b = .error .abort b' := by
  have hrun : (Setting.ordinary.run [.request anyClient pageAtHalf]).any
      (fun p => aborts p.1 anyClient pageAtHalf p.2) = true := by decide +kernel
  obtain ⟨image, b, hreached, haborts⟩ := exists_reached hrun
  obtain ⟨b', hend⟩ := of_aborts haborts
  exact ⟨image, b, b', hreached, hend⟩

end CapabilityBroker.Service
