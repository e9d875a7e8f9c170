/-
CapabilityBroker/Proofs/Confinement.lean

A request acts on behalf of its caller.

Whatever a request comes to, it changes at most three of the components that
are there: the caller, the component that it maps into, and the broker's own.
Only the second of these gains mappings, only the first and the third gain
capabilities, and no record that was there is changed, except that a page may
have been mapped once more.
-/
import CapabilityBroker.Proofs.Advance.Service

namespace CapabilityBroker.Service

/-- Between the two states, a request of `caller` was dispatched that maps into
`target`. -/
structure Confined (caller target : ComponentId) (b b' : Broker) : Prop where
  /-- Components that the request does not concern are as they were. -/
  bystanders : ∀ d space, b.kernel.space? d = some space → d ≠ caller → d ≠ target →
    d ≠ b.kernel.selfId → b'.kernel.space? d = some space
  /-- The page table and the heap frontier change in the target only. -/
  mappings : ∀ d space, b.kernel.space? d = some space → d ≠ target →
    ∃ space', b'.kernel.space? d = some space' ∧ space'.pages = space.pages ∧
      space'.heapFrontier = space.heapFrontier
  /-- The capability table changes in the caller and in the broker only. -/
  capabilities : ∀ d space, b.kernel.space? d = some space → d ≠ caller → d ≠ b.kernel.selfId →
    ∃ space', b'.kernel.space? d = some space' ∧ space'.liveCaps = space.liveCaps ∧
      space'.captblFrontier = space.captblFrontier
  /-- A component that is new comes with nothing. -/
  newcomers : ∀ d space', b.kernel.space? d = none → b'.kernel.space? d = some space' →
    (d ≠ target → space'.pages = ∅) ∧
      (d ≠ caller → d ≠ b.kernel.selfId → space'.liveCaps = ∅)
  components : ∀ h c, b.components.get? h = some c → b'.components.get? h = some c
  threads : ∀ h t, b.threads.get? h = some t → b'.threads.get? h = some t
  rcvs : ∀ h r, b.rcvs.get? h = some r → b'.rcvs.get? h = some r
  asnds : ∀ h a, b.asnds.get? h = some a → b'.asnds.get? h = some a
  spans : ∀ h s, b.spans.get? h = some s → b'.spans.get? h = some s
  /-- A page may be mapped once more, into the target. -/
  pages : ∀ h page, b.pages.get? h = some page → ∃ more,
    b'.pages.get? h = some { page with mappings := page.mappings ++ more } ∧
      ∀ m ∈ more, m.component = target

/-- With no permission at all, a component stays as it is. -/
theorem eq_of_advance {caps maps starting : Prop} {s s' : Kernel.Space} (hc : ¬ caps)
    (hm : ¬ maps) (hs : ¬ starting) (h : Kernel.Space.Advance caps maps starting s s') :
    s' = s := by
  obtain ⟨hname, hulk⟩ := h.shared hs
  obtain ⟨hlive, hcaptbl⟩ := h.slots hc
  obtain ⟨hpages, hheap⟩ := h.mapped hm
  have hlimit := h.limit
  have hvm := h.isVm
  cases s
  cases s'
  simp_all

/-- An object in a pool whose objects do not change is found again. -/
theorem get?_of_moves {α : Type} {P : α → Prop} {p p' : Pool α} (h : p.Moves Eq P p')
    (handle : Handle α) (o : α) (ho : p.get? handle = some o) : p'.get? handle = some o := by
  obtain ⟨_, rfl, ho'⟩ := h.get? ho
  exact ho'

/-- Every request, from any caller in any state, is confined. -/
theorem dispatch_confined (image : Image) (b : Broker) (i : Invocation) (request : Request) :
    Confined i.caller (destination b i.caller request) b ((dispatch image i request).final b) := by
  have h := (dispatch_staysFrom (b := b) image i request).final
  constructor
  -- A bystander of the kernel: neither capabilities nor mappings go there.
  · intro d space hs hcaller htarget hself
    obtain ⟨space', hs', hadv⟩ := h.kernel.spaces d space hs
    have hsame := eq_of_advance (not_or.2 ⟨hcaller, hself⟩) htarget id hadv
    rw [hs', hsame]
  · intro d space hs htarget
    obtain ⟨space', hs', hadv⟩ := h.kernel.spaces d space hs
    exact ⟨space', hs', hadv.mapped htarget⟩
  · intro d space hs hcaller hself
    obtain ⟨space', hs', hadv⟩ := h.kernel.spaces d space hs
    exact ⟨space', hs', hadv.slots (not_or.2 ⟨hcaller, hself⟩)⟩
  -- A component that was not there before begins empty.
  · intro d space' hnone hs'
    obtain ⟨hpages, hlive⟩ := h.kernel.fresh d space' hnone hs'
    exact ⟨hpages, fun hcaller hself => hlive (not_or.2 ⟨hcaller, hself⟩)⟩
  -- A request is no start, so that records of components do not change.
  · intro handle c hc
    obtain ⟨c', ⟨_, hsame⟩, hc'⟩ := h.components.get? hc
    rw [hc', hsame id]
  · exact get?_of_moves h.threads
  · exact get?_of_moves h.rcvs
  · exact get?_of_moves h.asnds
  · exact get?_of_moves h.spans
  · intro handle page hpage
    obtain ⟨_, ⟨more, rfl, hmore⟩, hpage'⟩ := h.pages.get? hpage
    exact ⟨more, hpage', hmore⟩

end CapabilityBroker.Service
