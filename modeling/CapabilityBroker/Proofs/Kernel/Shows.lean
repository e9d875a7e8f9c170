/-
CapabilityBroker/Proofs/Kernel/Shows.lean

Mappings that stay.

The kernel shows a frame at a place if the page table says so and the page
lies below the heap frontier of its component.  The second half is what makes
the first one last: mappings begin at the frontier, so no primitive touches a
page below it.  A mapping of consecutive frames that passes its check is shown
page by page.
-/
import CapabilityBroker.Memory.Page
import CapabilityBroker.Proofs.Kernel.Advance
import CapabilityBroker.Proofs.Parts

namespace CapabilityBroker

namespace Kernel

variable {w : Warrant} {k k' : Kernel} {m : Mapping} {frame : Paddr}

/-- The page table has the frame at the address. -/
def Space.Finds (space : Space) (vaddr : Vaddr) (frame : Paddr) : Prop :=
  ∃ base, space.pages[vaddr.pageNumber]? = some base ∧
    Paddr.ofNat? (base.toNat + vaddr.offset) = some frame

/-- The kernel has the frame at the place, below the heap frontier. -/
def Shows (k : Kernel) (m : Mapping) (frame : Paddr) : Prop :=
  ∃ space, k.space? m.component = some space ∧
    (m.vaddr.pageNumber + 1) * pageSize ≤ space.heapFrontier.toNat ∧ space.Finds m.vaddr frame

theorem Shows.advance (h : k.Shows m frame) (ha : Advance w k k') : k'.Shows m frame := by
  obtain ⟨space, hs, hbelow, base, hpage, hframe⟩ := h
  obtain ⟨space', hs', hadv⟩ := ha.spaces _ _ hs
  refine ⟨space', hs', Nat.le_trans hbelow hadv.frontier, base, ?_, hframe⟩
  rw [hadv.below _ hbelow, hpage]

/-- What is shown is what a translation finds. -/
theorem Shows.translate {ε : Type} (h : k.Shows m frame) :
    (translate m.component m.vaddr : Step Kernel ε (Option Paddr)) k = .ok (some frame) k := by
  obtain ⟨space, hs, _, base, hpage, hframe⟩ := h
  unfold Kernel.translate
  rw [Step.bind_eq_ok_iff]
  refine ⟨k, k, rfl, ?_⟩
  rw [hs]
  dsimp only
  rw [hpage]
  dsimp only
  rw [hframe]
  rfl

/-! ### Runs -/

/-- Consecutive frames are shown at consecutive pages. -/
def ShowsRun (k : Kernel) (component : ComponentId) (vaddr : Vaddr) (first : Paddr)
    (count : Nat) : Prop :=
  ∀ j < count, ∀ place frame, vaddr.addPages j = some place → first.addPages j = some frame →
    k.Shows ⟨component, place⟩ frame

variable {component : ComponentId} {vaddr : Vaddr} {first : Paddr} {count i : Nat}

theorem ShowsRun.advance (h : k.ShowsRun component vaddr first count) (ha : Advance w k k') :
    k'.ShowsRun component vaddr first count :=
  fun j hj place frame hp hf => (h j hj place frame hp hf).advance ha

theorem translate_leads {ε : Type} :
    (Kernel.translate component vaddr : Step Kernel ε (Option Paddr)).Leads k
      (fun found k' => k' = k ∧ ∀ frame, found = some frame →
        ∃ space, k.space? component = some space ∧ space.Finds vaddr frame)
      (fun _ k' => k' = k) := by
  apply Step.Leads.get_bind
  cases hs : k.space? component with
  | none => exact Step.leads_pure.2 ⟨rfl, fun frame h => by cases h⟩
  | some space =>
    dsimp only
    cases hp : space.pages[vaddr.pageNumber]? with
    | none => exact Step.leads_pure.2 ⟨rfl, fun frame h => by cases h⟩
    | some base =>
      refine Step.leads_map.2 (Step.leads_exact.2 ⟨fun a ha => ⟨rfl, ?_⟩, fun _ => rfl⟩)
      rintro frame ⟨⟩
      exact ⟨space, rfl, base, hp, ha⟩

/-- A page of a mapping has its addresses, and the frame is found at the
place. -/
def FindsPage (k : Kernel) (component : ComponentId) (vaddr : Vaddr) (first : Paddr)
    (j : Nat) : Prop :=
  ∃ place frame, vaddr.addPages j = some place ∧ first.addPages j = some frame ∧
    ∃ space, k.space? component = some space ∧ space.Finds place frame

/-- A check that passes has found every page. -/
theorem verifyFrom_leads :
    (verifyFrom component vaddr first count i).Leads k
      (fun _ k' => k' = k ∧ ∀ j, i ≤ j → j < i + count → k.FindsPage component vaddr first j)
      (fun _ k' => k' = k) := by
  induction count generalizing i with
  | zero =>
    refine Step.leads_pure.2 ⟨rfl, fun j h₁ h₂ => ?_⟩
    omega
  | succ count ih =>
    refine Step.Leads.exact_bind (fun page hpage => ?_) fun _ => rfl
    refine Step.Leads.exact_bind (fun expected hexpected => ?_) fun _ => rfl
    refine Step.leads_bind.2 (translate_leads.mono ?_ fun _ _ => id)
    rintro found _ ⟨rfl, hfound⟩
    refine Step.Leads.ite (fun heq => ?_) fun _ => Step.leads_refuse.2 rfl
    refine ih.mono ?_ fun _ _ => id
    rintro _ _ ⟨rfl, hrest⟩
    refine ⟨rfl, fun j h₁ h₂ => ?_⟩
    -- The first page was found here, the others by the rest of the check.
    rcases Nat.lt_or_eq_of_le h₁ with h₁ | rfl
    · exact hrest j (by omega) (by omega)
    · exact ⟨page, expected, hpage, hexpected, hfound _ heq⟩

/-- A mapping that passed its check and ends at the frontier is shown. -/
theorem ShowsRun.of_verified {space : Space} (hs : k.space? component = some space)
    (hend : vaddr.toNat + count * pageSize ≤ space.heapFrontier.toNat)
    (hfound : ∀ j < count, k.FindsPage component vaddr first j) :
    k.ShowsRun component vaddr first count := by
  intro j hj place frame hp hf
  obtain ⟨_, _, hp', hf', space', hs', hfinds⟩ := hfound j hj
  cases Option.some.inj (hp.symm.trans hp')
  cases Option.some.inj (hf.symm.trans hf')
  cases Option.some.inj (hs.symm.trans hs')
  refine ⟨space, hs, ?_, hfinds⟩
  rw [Vaddr.addPages_eq_some_iff] at hp
  -- The page of the place ends where the mapping does, or before.
  have hpage : place.pageNumber * pageSize ≤ place.toNat := Nat.div_mul_le_self _ _
  have hstep : (j + 1) * pageSize ≤ count * pageSize := Nat.mul_le_mul_right _ hj
  show (place.pageNumber + 1) * pageSize ≤ space.heapFrontier.toNat
  rw [Nat.add_mul, Nat.one_mul] at hstep ⊢
  omega

end Kernel

/-- A translation changes nothing. -/
theorem translate_stays {R : Broker → Broker → Prop} [IsPreorder Broker R]
    (component : ComponentId) (vaddr : Vaddr) : Step.Stays R (translate component vaddr) := by
  refine fun b => Step.leads_bind.2 (Part.run_leads (Kernel.translate_leads.mono ?_ ?_))
  · rintro found _ ⟨rfl, _⟩
    exact Step.Stays.require b
  · rintro why _ rfl
    exact refl_of R b

end CapabilityBroker
