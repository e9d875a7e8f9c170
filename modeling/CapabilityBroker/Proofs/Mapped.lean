/-
CapabilityBroker/Proofs/Mapped.lean

Mappings on record are real.

The broker writes down where a page is mapped, the kernel keeps the page
tables, and neither reads the other's.  They agree in every state of every
run, also after a request that stopped half way: whenever the record of a page
names a place, the kernel translates that place to the frame of the page.
-/
import CapabilityBroker.Proofs.Advance.Boot
import CapabilityBroker.Proofs.Run

namespace CapabilityBroker.Service

variable {s : Setting} {image : Image} {b : Broker}

/-- Whatever a started broker does, it does under some warrant. -/
theorem Action.advance (action : Action) (b : Broker) :
    ∃ w, b.Advance w (action.after image b) := by
  cases action with
  | request i r => exact ⟨_, (dispatch_staysFrom image i r).final⟩
  | parallelInit core isInitCore => exact ⟨_, (parallelInit_stays image core isInitCore b).final⟩
  | parallelMain core => exact ⟨.ofBoot, (parallelMain_stays image core b).final⟩

/-- The invariant: every mapping on record is shown below a heap frontier. -/
theorem Reached.truthful (h : Reached s image b) : b.Truthful := by
  induction h with
  | boot _ booted => exact (boot_started booted).2.1
  | act action _ ih =>
    obtain ⟨w, hadv⟩ := action.advance _
    exact hadv.truthful ih

theorem Reached.fromOne (h : Reached s image b) : b.FromOne := by
  induction h with
  | boot _ booted => exact (boot_started booted).2.2.1
  | act action _ ih =>
    obtain ⟨w, hadv⟩ := action.advance _
    exact hadv.fromOne ih

/-- In every state of every run, a place on the record of a page is translated
to the frame of the page. -/
theorem mapping_on_record_is_real (h : Reached s image b) {index : Nat} {page : Page}
    (hpage : b.pages.at? index = some page) {m : Mapping} (hm : m ∈ page.mappings) :
    (Kernel.translate m.component m.vaddr : Step Kernel Kernel.Refusal (Option Paddr)) b.kernel
      = .ok (some page.frame) b.kernel := by
  obtain ⟨g, hg⟩ := Pool.at?_eq_some_iff.1 hpage
  exact (h.truthful index g page hg m hm).translate

/-- The second of two pages that a client was given stands where its record
says. -/
theorem second_page_is_real :
    ∃ image b page, Reached .ordinary image b ∧ b.pages.at? 2 = some page ∧
      page.mappings = [⟨⟨5⟩, ⟨0x40001000⟩⟩] ∧
      (Kernel.translate ⟨5⟩ ⟨0x40001000⟩ : Step Kernel Kernel.Refusal (Option Paddr)) b.kernel
        = .ok (some page.frame) b.kernel := by
  have hrun : (Setting.ordinary.run [.request ⟨⟨5⟩, ⟨0⟩⟩ (.allocateHeapPages 2 none)]).any
      (fun r => (r.2.pages.at? 2).any fun page => page.mappings = [⟨⟨5⟩, ⟨0x40001000⟩⟩])
      = true := by
    decide +kernel
  obtain ⟨image, b, h, hshows⟩ := exists_reached hrun
  obtain ⟨page, hpage, hplace⟩ := (Option.any_eq_true _ _).1 hshows
  have hmappings := of_decide_eq_true hplace
  refine ⟨image, b, page, h, hpage, hmappings, ?_⟩
  exact mapping_on_record_is_real h hpage (by rw [hmappings]; exact List.mem_singleton_self _)

end CapabilityBroker.Service
