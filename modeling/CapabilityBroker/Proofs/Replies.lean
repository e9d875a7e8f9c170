/-
CapabilityBroker/Proofs/Replies.lean

Empty replies.

A client tells a refusal from an answer by the reply alone: the null capability,
the id 0, the address 0.  Nothing that an answered operation gives looks so.
Capabilities are in slots above the base of their table, ids begin at 1, pages are
mapped above the null page, and what is mapped is at least a page.  The one
exception is physical memory, which a machine may have at the address 0: whoever
has it mapped, and asks for the physical address behind, reads the answer as a
refusal.
-/
import CapabilityBroker.Proofs.Grants.Service
import CapabilityBroker.Proofs.Kernel.Null
import CapabilityBroker.Proofs.Placement

namespace CapabilityBroker

variable {b b' : Broker}

/-! ### What is granted is not null -/

/-- Every space has its slots and its heap above the null ones. -/
structure Broker.AboveNull (b : Broker) : Prop where
  fromOne : b.FromOne
  slots : ∀ id slot, b.kernel.holds id slot = true → slot ≠ 0
  pages : b.kernel.SparesNull

/-- What was granted is told from a refusal. -/
theorem Reply.Granted.not_null {request : Request} {caller : ComponentId} {reply : Reply}
    (h : reply.Granted request caller b) (ha : b.Agrees) (hb : b.AboveNull)
    (hzero : reply ≠ .physical ⟨0⟩) : reply.isNull = false := by
  cases reply with
  | thread cap tid =>
    obtain ⟨handle, t, hget, -, -, hheld⟩ := h
    exact beq_eq_false_iff_ne.2 (hb.slots _ _ ((ha.threads handle t hget).held cap hheld))
  | receiveEndpoint e =>
    have hrcv : b.kernel.holds caller e.rcv.slot = true := ReceiveEndpoint.Granted.rcv h
    exact beq_eq_false_iff_ne.2 (hb.slots _ _ hrcv)
  | component vm =>
    obtain ⟨record, hat, -⟩ := h
    have hne : vm.number.toNat ≠ 0 := hb.fromOne.1.ne_zero_of_at? hat
    have hsome : vm.isSome = true := bne_iff_ne.2 fun hid => hne (congrArg UInt64.toNat hid)
    exact (congrArg not hsome).trans rfl
  | address vaddr =>
    have hne : vaddr ≠ .null := Kernel.ShowsPages.ne_null h hb.pages
    exact beq_eq_false_iff_ne.2 fun hword => hne (congrArg Vaddr.mk hword)
  | span id vaddr =>
    obtain ⟨span, hat, -⟩ := h.2
    have hne : id.toNat ≠ 0 := hb.fromOne.2.ne_zero_of_at? hat
    exact beq_eq_false_iff_ne.2 fun hid => hne (congrArg UInt32.toNat hid)
  | mapped pages vaddr =>
    have hne : pages.toNat ≠ 0 := Kernel.ShowsPages.nonempty h
    exact beq_eq_false_iff_ne.2 fun hpages => hne (congrArg UInt64.toNat hpages)
  | physical paddr =>
    exact beq_eq_false_iff_ne.2 fun hword => hzero (congrArg (Reply.physical ⟨·⟩) hword)
  | initDone outcome => rfl
  | exited => rfl
  | refused => exact h.elim

/-! ### Translations -/

/-- The page table of the component has the physical address at the virtual
one. -/
def Kernel.Reaches (k : Kernel) (id : ComponentId) (vaddr : Vaddr) (paddr : Paddr) : Prop :=
  ∃ space, k.space? id = some space ∧ space.Finds vaddr paddr

/-- A translation answers what the page table has. -/
theorem translate_answers {into : ComponentId} {vaddr : Vaddr} :
    (translate into vaddr).Leads b (fun paddr _ => b.kernel.Reaches into vaddr paddr)
      (fun _ _ => True) := by
  refine Step.leads_bind.2 (Part.run_leads (Kernel.translate_leads.mono ?_ fun _ _ _ => trivial))
  rintro found _ ⟨-, hfound⟩
  exact Step.leads_require.2 ⟨hfound, fun _ => trivial⟩

/-- And it answers if the page table has something. -/
theorem translate_of_reaches {into : ComponentId} {vaddr : Vaddr} {paddr : Paddr}
    (h : b.kernel.Reaches into vaddr paddr) :
    (translate into vaddr).Leads b (fun answer _ => answer = paddr) (fun _ _ => False) := by
  obtain ⟨space, hs, hfinds⟩ := h
  refine Step.leads_bind.2 (Part.run_leads ((Kernel.translate_finds hs hfinds).mono ?_ ?_))
  · rintro found _ ⟨rfl, -⟩
    exact Step.leads_require.2 ⟨fun answer hanswer => (Option.some.inj hanswer).symm, nofun⟩
  · exact fun _ _ => False.elim

namespace Service

variable {s : Setting} {image : Image} {i : Invocation} {request : Request}
  {progress : Progress Reply}

/-- The caller asks for the physical address behind one of its pages, and that is
the address 0. -/
def AsksForZero (i : Invocation) (request : Request) (b : Broker) : Prop :=
  ∃ vaddr, request = .translate vaddr ∧ b.hasComponent i.caller = true ∧
    b.kernel.Reaches i.caller vaddr ⟨0⟩

/-- The operation behind the request failed, and the service can go on. -/
def Refuses (image : Image) (i : Invocation) (request : Request) (b : Broker) : Prop :=
  ∃ failure b', perform image i request b = .error (.refused failure) b' ∧ failure.defect? = none

theorem perform_translate {vaddr : Vaddr} :
    (perform image i (.translate vaddr)).Leads b
      (fun progress _ => ∃ paddr, progress.answer = .physical paddr ∧
        b.hasComponent i.caller = true ∧ b.kernel.Reaches i.caller vaddr paddr)
      (fun _ _ => True) := by
  refine Step.leads_map.2 (Step.leads_map.2 (Step.leads_bind.2 ((acting_leads i).mono ?_ ?_)))
  · rintro _ _ ⟨rfl, rfl, hknown⟩
    exact translate_answers.mono (fun paddr _ hreaches => ⟨paddr, rfl, hknown, hreaches⟩)
      fun _ _ _ => trivial
  · exact fun _ _ _ => trivial

/-- A translation to the address 0 is answered. -/
theorem AsksForZero.answered (h : AsksForZero i request b) :
    (perform image i request).Leads b (fun progress _ => progress.answer = .physical ⟨0⟩)
      (fun _ _ => False) := by
  obtain ⟨vaddr, rfl, hknown, hreaches⟩ := h
  refine Step.leads_map.2 (Step.leads_map.2 (Step.leads_bind.2 ((acting_leads i).mono ?_ ?_)))
  · rintro _ _ ⟨rfl, rfl, -⟩
    refine (translate_of_reaches hreaches).mono ?_ fun _ _ => id
    rintro _ _ rfl
    rfl
  · rintro _ _ ⟨-, -, hunknown⟩
    exact hunknown hknown

/-- Only a translation answers a physical address. -/
theorem asksForZero_of_answer (hagrees : b.Agrees)
    (hend : perform image i request b = .ok progress b')
    (hzero : progress.answer = .physical ⟨0⟩) : AsksForZero i request b := by
  have hgranted := (perform_granted hagrees image i request).of_ok hend
  rw [hzero] at hgranted
  obtain ⟨vaddr, rfl⟩ := hgranted
  obtain ⟨paddr, hanswer, hknown, hreaches⟩ := perform_translate.of_ok hend
  obtain rfl : (⟨0⟩ : Paddr) = paddr := Reply.physical.inj (hzero.symm.trans hanswer)
  exact ⟨vaddr, rfl, hknown, hreaches⟩

/-! ### Dispatch -/

/-- What a dispatch replies is the answer of the operation; or the operation was
refused, and the reply is the empty one. -/
theorem dispatch_cases (hend : dispatch image i request b = .ok progress b') :
    perform image i request b = .ok progress b' ∨
      Refuses image i request b ∧ progress = .finished (.nullFor request) := by
  suffices h : (dispatch image i request).Leads b
      (fun progress b' => perform image i request b = .ok progress b' ∨
        Refuses image i request b ∧ progress = .finished (.nullFor request))
      (fun _ _ => True) from h.of_ok hend
  refine Step.leads_bind.2 (Step.leads_attempt.2 ((Step.leads_self _ b).mono ?_ ?_))
  · exact fun progress b' hanswered => Step.leads_pure.2 (.inl hanswered)
  · refine fun why b' hstop => ⟨?_, fun _ => trivial⟩
    rintro failure rfl
    dsimp only
    split
    · exact Step.leads_refuse.2 trivial
    · next hdefect =>
      have hrefuses : Refuses image i request b := ⟨failure, b', hstop, hdefect⟩
      exact Step.Leads.modify_bind (Step.leads_pure.2 (.inr ⟨hrefuses, rfl⟩))

/-- A refusal is replied to. -/
theorem Refuses.dispatch (h : Refuses image i request b) :
    ∃ b', dispatch image i request b = .ok (.finished (.nullFor request)) b' := by
  obtain ⟨failure, b₁, hstop, hdefect⟩ := h
  have hreplies : (Service.dispatch image i request).Leads b
      (fun progress _ => progress = .finished (.nullFor request)) (fun _ _ => False) := by
    refine Step.leads_bind.2 (Step.leads_attempt.2 ((Step.leads_self _ b).mono ?_ ?_))
    · intro progress b' hanswered
      cases hanswered.symm.trans hstop
    · intro why b' hstop'
      cases hstop'.symm.trans hstop
      refine ⟨?_, nofun⟩
      rintro _ ⟨⟩
      dsimp only
      rw [hdefect]
      exact Step.Leads.modify_bind (Step.leads_pure.2 rfl)
  rcases hreplies.ends with ⟨_, hend, rfl⟩ | ⟨_, _, hfalse⟩
  · exact ⟨_, hend⟩
  · exact hfalse.elim

/-! ### Along a run -/

theorem Reached.aboveNull (h : Reached s image b) (hheap : s.layout.heapBase ≠ .null)
    (hcaptbl : s.layout.captblBase ≠ 0) : b.AboveNull where
  fromOne := h.fromOne
  slots id slot := h.rooted.ne_zero (h.layout ▸ hcaptbl)
  pages := by
    obtain ⟨kernel, created, first, issued, hhistory⟩ := h.history
    have hlayout : kernel.layout = s.layout := hhistory.layout ▸ h.layout
    exact hhistory.sparesNull (hlayout ▸ hheap) (Kernel.sparesNull_of_create? created hheap)

/-- A reply is empty if and only if the operation was refused, or found the
physical address 0; and a refusal is always replied to with the empty reply. -/
theorem empty_reply_iff_refused (h : Reached s image b) (hheap : s.layout.heapBase ≠ .null)
    (hcaptbl : s.layout.captblBase ≠ 0) (hend : dispatch image i request b = .ok progress b') :
    (progress.answer.isNull = true ↔ Refuses image i request b ∨ AsksForZero i request b) ∧
      (Refuses image i request b → progress = .finished (.nullFor request)) := by
  rcases dispatch_cases hend with hanswered | ⟨hrefuses, rfl⟩
  · have hnot : ¬ Refuses image i request b := by
      rintro ⟨failure, b'', hstop, -⟩
      cases hanswered.symm.trans hstop
    refine ⟨⟨fun hnull => .inr ?_, ?_⟩, fun hrefuses => absurd hrefuses hnot⟩
    -- An answer that is empty is not one that was granted.
    · refine asksForZero_of_answer h.agrees hanswered (Decidable.byContradiction fun hzero => ?_)
      have hgranted := (perform_granted h.agrees image i request).of_ok hanswered
      have hreached := h.of_answered hanswered
      have hfull := hgranted.not_null hreached.agrees (hreached.aboveNull hheap hcaptbl) hzero
      cases hnull.symm.trans hfull
    · rintro (hrefuses | hasks)
      · exact absurd hrefuses hnot
      · rw [hasks.answered.of_ok hanswered]
        rfl
  · exact ⟨⟨fun _ => .inl hrefuses, fun _ => Reply.isNull_nullFor request⟩, fun _ => rfl⟩

/-- A page that was given is told from a span that is not there. -/
theorem page_is_told_from_no_span :
    ∃ image b b₁ b₂, Reached .ordinary image b ∧
      Setting.ordinary.layout.heapBase ≠ .null ∧ Setting.ordinary.layout.captblBase ≠ 0 ∧
      dispatch image ⟨⟨5⟩, ⟨0⟩⟩ (.allocateHeapPages 1 none) b
        = .ok (.finished (.address ⟨0x40000000⟩)) b₁ ∧
      ¬ Refuses image ⟨⟨5⟩, ⟨0⟩⟩ (.allocateHeapPages 1 none) b ∧
      dispatch image ⟨⟨7⟩, ⟨0⟩⟩ (.mapSharedSpan 1 none) b = .ok (.finished (.mapped 0 .null)) b₂ ∧
      Refuses image ⟨⟨7⟩, ⟨0⟩⟩ (.mapSharedSpan 1 none) b := by
  have hrun : (Setting.ordinary.run []).any (fun p =>
      (replyOf p.1 ⟨⟨5⟩, ⟨0⟩⟩ (.allocateHeapPages 1 none) p.2).any
        (fun r => r.1 = .address ⟨0x40000000⟩) &&
      (refusalOf p.1 ⟨⟨7⟩, ⟨0⟩⟩ (.mapSharedSpan 1 none) p.2).any
        (fun r => r.1.defect? = none)) = true := by decide +kernel
  obtain ⟨image, b, hreached, hshows⟩ := exists_reached hrun
  obtain ⟨hpage, hspan⟩ := Bool.and_eq_true_iff.1 hshows
  obtain ⟨⟨reply, b₁⟩, hpage, hreply⟩ := (Option.any_eq_true _ _).1 hpage
  obtain rfl := of_decide_eq_true hreply
  obtain ⟨⟨failure, b₂⟩, hspan, hfailure⟩ := (Option.any_eq_true _ _).1 hspan
  have hrefuses : Refuses image ⟨⟨7⟩, ⟨0⟩⟩ (.mapSharedSpan 1 none) b :=
    ⟨failure, b₂, of_refusalOf hspan, of_decide_eq_true hfailure⟩
  obtain ⟨b₃, hend⟩ := hrefuses.dispatch
  have hanswered := dispatch_of_answered (of_replyOf hpage)
  have hheap : Setting.ordinary.layout.heapBase ≠ .null := by decide
  have hcaptbl : Setting.ordinary.layout.captblBase ≠ 0 := by decide
  refine ⟨image, b, b₁, b₃, hreached, hheap, hcaptbl, hanswered, fun hpage => ?_, hend, hrefuses⟩
  -- Were the page refused, its reply would be the empty one.
  cases (empty_reply_iff_refused hreached hheap hcaptbl hanswered).2 hpage

/-- The page at the physical address 0 is mapped, and the translation of its
address is answered; but the client reads the answer as a refusal. -/
theorem page_at_zero_reads_as_refused :
    ∃ image b b', Reached .ordinary image b ∧
      Setting.ordinary.layout.heapBase ≠ .null ∧ Setting.ordinary.layout.captblBase ≠ 0 ∧
      perform image ⟨⟨5⟩, ⟨0⟩⟩ (.translate ⟨0x40000000⟩) b = .ok (.finished (.physical ⟨0⟩)) b' ∧
      dispatch image ⟨⟨5⟩, ⟨0⟩⟩ (.translate ⟨0x40000000⟩) b = .ok (.finished (.physical ⟨0⟩)) b' ∧
      (Reply.physical ⟨0⟩).isNull = true ∧
      ¬ Refuses image ⟨⟨5⟩, ⟨0⟩⟩ (.translate ⟨0x40000000⟩) b := by
  have hrun : (Setting.ordinary.run [.request ⟨⟨5⟩, ⟨0⟩⟩ (.mapPhysicalRegion ⟨0⟩ 4096)]).any
      (fun p => (replyOf p.1 ⟨⟨5⟩, ⟨0⟩⟩ (.translate ⟨0x40000000⟩) p.2).any
        fun r => r.1 = .physical ⟨0⟩) = true := by decide +kernel
  obtain ⟨image, b, hreached, hshows⟩ := exists_reached hrun
  obtain ⟨⟨reply, b'⟩, hreply, hzero⟩ := (Option.any_eq_true _ _).1 hshows
  obtain rfl := of_decide_eq_true hzero
  have hend := of_replyOf hreply
  refine ⟨image, b, b', hreached, by decide, by decide, hend, dispatch_of_answered hend, rfl, ?_⟩
  rintro ⟨failure, b'', hstop, -⟩
  cases hend.symm.trans hstop

end Service

end CapabilityBroker
