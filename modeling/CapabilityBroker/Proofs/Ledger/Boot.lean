/-
CapabilityBroker/Proofs/Ledger/Boot.lean

The books at the end of the start.

They are opened when the pools are made, with nothing on record.  The components
and spans that are there from the start are entered like any others, and the
frames of the contiguous region are drawn before a page has one of them.
-/
import CapabilityBroker.Proofs.Ledger.Service
import CapabilityBroker.Proofs.Memory.Service
import CapabilityBroker.Proofs.Move.Boot

namespace CapabilityBroker

open Step (Answers Stays)

variable {b b' : Broker} {ε α : Type}

theorem Broker.Even.covered (h : b.Even) : b.Covered :=
  ⟨Nat.le_of_eq h.carved, Nat.le_of_eq h.drawn⟩

/-! ### The contiguous region -/

/-- The frames of the region are drawn, and stay in it. -/
theorem Broker.Even.setAside {kernel : Kernel} {journal : Trail JournalLine} {base : Paddr}
    {count : Nat} (h : b.Even) (hnone : b.contig = none)
    (hk : kernel.nextFrame = b.kernel.nextFrame + count) :
    Even { b with kernel, journal, contig := some ⟨base, count, 0⟩ } := by
  obtain ⟨hcarved, hdrawn⟩ := h
  unfold contigUsed at hcarved hdrawn
  unfold contigCapacity at hdrawn
  rw [hnone] at hcarved hdrawn
  refine ⟨hcarved, ?_⟩
  show count + b.pages.active = kernel.nextFrame + 0
  have hdrawn' : 0 + b.pages.active = b.kernel.nextFrame + 0 := hdrawn
  omega

theorem initContig_books (selfId : ComponentId) (count : Nat) (hbooked : b.Booked) (heven : b.Even)
    (hnone : b.contig = none) :
    (initContig selfId count).Leads b (fun _ b' => b'.Booked ∧ b'.Even) (fun _ _ => True) := by
  refine Step.leads_bind.2 ((contigBase_spares selfId count).mono ?_ fun _ _ _ => trivial)
  rintro base b₁ ⟨hrest, _, hnext, _⟩
  refine Step.Leads.modify_bind (Step.leads_modify.2 ?_)
  rw [show b₁.contig = none by rw [hrest]; exact hnone, hrest]
  refine ⟨?_, heven.setAside hnone hnext⟩
  exact hbooked.of_same rfl (fun _ _ => id) fun account => by cases account <;> rfl

namespace Service

/-! ### The pools -/

/-- The books are opened: nothing is on record, and no frame was drawn. -/
structure Opened (made : Broker) : Prop where
  booked : made.Booked
  even : made.Even
  contig : made.contig = none

theorem makePools_opens (settings : Settings) (htrail : b.trail = .empty) (hnone : b.contig = none)
    (hframes : b.kernel.nextFrame = 0) :
    (makePools settings : Step Broker ε Unit).Leads b (fun _ => Opened) (fun _ _ => True) := by
  refine (makePools_leads settings).mono ?_ fun _ _ _ => trivial
  rintro _ _ ⟨components, threads, rcvs, asnds, pages, spans, rfl, h₁, h₂, h₃, h₄, h₅, h₆⟩
  obtain ⟨_, rfl⟩ := Pool.create?_eq_some_iff.1 h₁
  obtain ⟨_, rfl⟩ := Pool.create?_eq_some_iff.1 h₂
  obtain ⟨_, rfl⟩ := Pool.create?_eq_some_iff.1 h₃
  obtain ⟨_, rfl⟩ := Pool.create?_eq_some_iff.1 h₄
  obtain ⟨_, rfl⟩ := Pool.create?_eq_some_iff.1 h₅
  obtain ⟨_, rfl⟩ := Pool.create?_eq_some_iff.1 h₆
  refine ⟨⟨fun account => ?_, fun id into vaddr hmem => ?_⟩, ⟨?_, ?_⟩, hnone⟩
  · dsimp only
    rw [htrail, Trail.sum_empty, Trail.sum_empty]
    have hplaces : (Pool.create "page" settings.maxPages.toNat).total Page.placeCount = 0 :=
      Pool.total_create _ _
    cases account with
    | places => exact hplaces
    | _ => rfl
  · dsimp only at hmem
    rw [htrail] at hmem
    cases hmem
  · dsimp only
    rw [htrail]
    unfold Broker.contigUsed
    rw [hnone]
    rfl
  · unfold Broker.contigCapacity Broker.contigUsed
    dsimp only
    rw [hnone, hframes]
    rfl

/-! ### The start -/

/-- An answer that leaves the books balanced. -/
theorem answers_of_keepsBooks {plain : ε → Prop} {s : Step Broker ε α}
    (h : ∀ b, s.KeepsBooks plain b) : Answers Broker.Balances s :=
  fun b => (h b).mono (fun _ _ => id) fun _ _ _ => trivial

theorem register_answers (id : ComponentId) (name : String) (kind : ComponentKind)
    (resources : Option Kernel.Resources) : Answers Broker.Balances
      (registerComponent id name kind resources (Kernel.createComponent id name resources)) := by
  have hcreate : Stays (Kernel.ObjectMove fun _ => True)
      (Kernel.createComponent id name resources) := fun k =>
    (Kernel.createComponent_moves trivial name resources).mono (fun _ _ h => h.1) fun _ _ h => h
  exact answers_of_keepsBooks fun b => registerComponent_keepsBooks id name kind resources hcreate

theorem adopt_answers (manifest : Manifest) (schedulers : Schedulers) (caps : ComponentCaps) :
    Answers Broker.Balances (adopt manifest schedulers caps) := by
  have hlog : ∀ level message, Answers Broker.Balances (log level message : Step _ Defect Unit) :=
    fun level message => (log_balances level message).answers
  refine Answers.bind Stays.require.answers fun name => Answers.bind (fun b => ?_) fun _ => ?_
  · exact Step.leads_explain.2 (register_answers _ _ _ _ b)
  · exact (hlog _ _).bind fun _ => hlog _ _

theorem shareUlk_balances (id : ComponentId) : Stays Broker.Balances (shareUlk id) := by
  have hmap : Stays (Kernel.ObjectMove fun _ => True) (Kernel.mapUlk id) := Kernel.mapUlk_moves id
  exact shareUlk_walks (kernelPart_balances.run (nextFrame_stays hmap).attempt)

theorem setAside_answers (region : SharedRegion) : Answers Broker.Balances (setAside region) :=
  Answers.bind (fun _ => Step.leads_explain.2
    ((allocateSharedAt_balances _ _ _).mono (fun _ _ => id) fun _ _ => id))
    fun _ => (log_balances _ _).answers

theorem balances_admitsStart (manifest : Manifest) : AdmitsStart Broker.Balances manifest where
  log level message := (log_balances level message).answers
  adopt _ _ schedulers caps _ := adopt_answers manifest schedulers caps
  initUlk := by
    have hulk : Stays (Kernel.ObjectMove fun _ => True) Kernel.initUlk := Kernel.initUlk_moves
    exact (kernelPart_balances.run (nextFrame_stays hulk).explain).answers
  shareUlk id := (shareUlk_balances id).answers
  setAside := setAside_answers

/-- At the end of the start the books are kept, and every frame has a page or
waits in the contiguous region. -/
theorem boot_books (settings : Settings) (manifest : Manifest) (htrail : b.trail = .empty)
    (hnone : b.contig = none) (hframes : b.kernel.nextFrame = 0) :
    (boot settings manifest).Leads b (fun _ b' => b'.Booked ∧ b'.Even) (fun _ _ => True) := by
  have hcontig : ∀ made b, made.Balances b →
      (initContig settings.selfId settings.contigPages.toNat).Leads b
        (fun _ b' => Opened made → b'.Booked ∧ b'.Even) (fun _ _ => True) := fun made b hkept => by
    by_cases hopened : Opened made
    · exact (initContig_books _ _ (hkept.booked hopened.booked) (hkept.even hopened.even)
        (hkept.region hopened.contig)).mono (fun _ _ h _ => h) fun _ _ => id
    · exact .of_forall (fun _ _ h => absurd h hopened) fun _ _ => trivial
  have hend : ∀ (made b : Broker) barriers, (Opened made → b.Booked ∧ b.Even) → Opened made →
      Broker.Booked { b with barriers } ∧ Broker.Even { b with barriers } := by
    intro made b barriers hbooks hopened
    obtain ⟨hbooked, heven⟩ := hbooks hopened
    have hquiet : b.Balances { b with barriers } :=
      .of_quiet rfl rfl rfl rfl rfl (refl_of Pool.Shuffles _) (refl_of Pool.Shuffles _)
    exact ⟨hquiet.booked hbooked, hquiet.even heven⟩
  have hboot := boot_walks (b := b)
    (fun journal => makePools_opens settings htrail hnone hframes) (register_answers _ _ _ _)
    (balances_admitsStart manifest) hcontig hend
  refine hboot.mono ?_ fun _ _ _ => trivial
  rintro image b' ⟨_, made, hopened, hbooks⟩
  exact hbooks hopened

end Service

end CapabilityBroker
