/-
CapabilityBroker/Proofs/Advance/Memory.lean

What the operations on pages, spans and the contiguous region may do.

They map into one component, and the warrant must name it.  What keeps the
records true is the order of things: frames are mapped, the mapping is
checked, and only then are its pages put on record.  `mapVerified_leads` hands
the checked run on to whoever publishes it.
-/
import CapabilityBroker.Memory.Contiguous
import CapabilityBroker.Proofs.Advance.Basic

namespace CapabilityBroker

open Step (Stays StaysFrom)

variable {w : Warrant} {b b' : Broker} {into : ComponentId} {first : Paddr} {count : Nat}
  {align : UInt64}

/-! ### Mapping -/

theorem reserveFrames_stays (count : Nat) : Stays (Broker.Advance w) (reserveFrames count) :=
  kernelPart_admits.run (Kernel.reserveFrames_stays count).explain

/-- A mapping that passed its check ends at the frontier, and every page of it is
found. -/
theorem mapVerified_found (hm : w.maps into) :
    (mapVerified first count align into).Leads b
      (fun vaddr b' => b.Advance w b' ∧
        (count ≠ 0 → ∃ s, b'.kernel.space? into = some s ∧
          s.heapFrontier.toNat = vaddr.toNat + count * pageSize) ∧
        ∀ j < count, b'.kernel.FindsPage into vaddr first j)
      (fun _ => b.Advance w) := by
  have halias := Kernel.aliasFrames_leads (k := b.kernel) (w := w.toWarrant) first count align hm
  refine Step.leads_bind.2 (Part.run_leads (Step.leads_explain.2 (halias.mono ?_ ?_)))
  · rintro vaddr k ⟨hk, hend⟩
    have hadv : b.Advance w { b with kernel := k } := kernelPart_admits b k hk
    refine Step.leads_bind.2 (Part.run_leads (Kernel.verifyFrom_leads.mono ?_ ?_))
    · rintro _ _ ⟨rfl, hfound⟩
      exact Step.leads_pure.2 ⟨hadv, hend, fun j hj => hfound j (Nat.zero_le j) (by omega)⟩
    · rintro why _ rfl
      exact hadv
  · rintro why k hk
    exact kernelPart_admits b k hk

/-- A mapping that passed its check shows every page. -/
theorem mapVerified_leads (hm : w.maps into) :
    (mapVerified first count align into).Leads b
      (fun vaddr b' => b.Advance w b' ∧ b'.kernel.ShowsRun into vaddr first count)
      (fun _ => b.Advance w) := by
  refine (mapVerified_found hm).mono ?_ fun _ _ => id
  rintro vaddr b' ⟨hadv, hend, hfound⟩
  refine ⟨hadv, ?_⟩
  -- A mapping of no pages moves no frontier, but there is nothing to show either.
  by_cases hc : count = 0
  · intro j hj
    omega
  · obtain ⟨space, hs, hspace⟩ := hend hc
    exact .of_verified hs (Nat.le_of_eq hspace.symm) hfound

/-- Where a run is mapped, if it is mapped at all, the kernel shows it. -/
def ShownIn (k : Kernel) (mapped : Option (ComponentId × Vaddr)) (first : Paddr)
    (count : Nat) : Prop :=
  ∀ component vaddr, mapped = some (component, vaddr) → k.ShowsRun component vaddr first count

theorem ShownIn.advance {k k' : Kernel} {mapped : Option (ComponentId × Vaddr)}
    (h : ShownIn k mapped first count) (ha : Kernel.Advance w.toWarrant k k') :
    ShownIn k' mapped first count :=
  fun component vaddr hmapped => (h component vaddr hmapped).advance ha

theorem mapRun_leads {component : Option ComponentId}
    (hm : ∀ into, component = some into → w.maps into) :
    (mapRun component first count align).Leads b
      (fun mapped b' => b.Advance w b' ∧ ShownIn b'.kernel mapped first count)
      (fun _ => b.Advance w) := by
  cases component with
  | none => exact Step.leads_pure.2 ⟨.refl b, fun _ _ h => by cases h⟩
  | some into =>
    refine Step.leads_bind.2 (Step.leads_explain.2 ((mapVerified_leads (hm into rfl)).mono ?_ ?_))
    · rintro vaddr b' ⟨hadv, hshown⟩
      refine Step.leads_pure.2 ⟨hadv, ?_⟩
      rintro _ _ ⟨⟩
      exact hshown
    · exact fun _ _ => id

/-! ### Publishing -/

theorem mem_placeOf? {mapped : Option (ComponentId × Vaddr)} {i : Nat} {places : List Mapping}
    {m : Mapping} (h : placeOf? mapped i = some places) (hm : m ∈ places) :
    ∃ vaddr, mapped = some (m.component, vaddr) ∧ vaddr.addPages i = some m.vaddr := by
  unfold placeOf? at h
  split at h
  · cases h
    cases hm
  · next component vaddr =>
    obtain ⟨place, hplace, rfl⟩ := Option.map_eq_some_iff.1 h
    rw [List.mem_singleton] at hm
    subst hm
    exact ⟨vaddr, rfl, hplace⟩

/-- Pages are put on record where they are shown. -/
theorem publishFrom_staysFrom {mapped : Option (ComponentId × Vaddr)}
    {run : List (Reservation Page)} {i : Nat}
    (h : ShownIn b.kernel mapped first (i + run.length)) :
    (publishFrom first mapped run i).StaysFrom (Broker.Advance w) b := by
  induction run generalizing b i with
  | nil => exact Stays.pure b
  | cons slot slots ih =>
    rw [List.length_cons] at h
    refine .exact_bind fun mappings hmappings => .exact_bind fun frame hframe => ?_
    have hpage : ∀ m ∈ mappings, b.kernel.Shows m frame := by
      intro m hm
      obtain ⟨vaddr, hmapped, hplace⟩ := mem_placeOf? hmappings hm
      exact h _ vaddr hmapped i (by omega) _ frame hplace hframe
    -- The page comes with places that are shown, which is all that is asked of a new record.
    have hactivate : (Pool.activate slot ⟨frame, mappings⟩ :
        Step (Pool Page) Pool.Refusal (Handle Page)).StaysFrom
          (Pool.Moves Eq fun page => ∀ m ∈ page.mappings, b.kernel.Shows m page.frame) b.pages :=
      Pool.activate_stays hpage slot b.pages
    refine StaysFrom.bind (StaysFrom.within hactivate.explain fun _ => .of_pages) ?_
    intro _ b' hb'
    apply ih
    rw [show i + 1 + slots.length = i + (slots.length + 1) by omega]
    exact h.advance hb'.kernel

theorem publishRun_staysFrom {mapped : Option (ComponentId × Vaddr)}
    {run : List (Reservation Page)} (h : ShownIn b.kernel mapped first run.length) :
    (publishRun run first mapped).StaysFrom (Broker.Advance w) b := by
  cases run with
  | nil => exact Stays.refuse b
  | cons head rest =>
    refine StaysFrom.bind (publishFrom_staysFrom (by rwa [Nat.zero_add])) fun _ b' _ => ?_
    exact (advance_tacit.note _).bind (fun _ => Stays.pure) b'

/-- A run of reservations is as long as was asked for. -/
theorem allocateRun_leads (hc : count ≠ 0) :
    (pagePool.ask (Pool.allocateRun count)).Leads b
      (fun run b' => b.Advance w b' ∧ run.length = count) (fun _ => b.Advance w) := by
  have hstays := Pool.allocateRun_stays (C := Eq) (P := fun _ => False) count b.pages
  refine Part.ask_leads ((hstays.and (Pool.allocateRun_leads hc)).mono ?_ ?_)
  · rintro _ pages ⟨hmoves, start, _, rfl, _⟩
    refine ⟨pagePool_admits b pages hmoves, ?_⟩
    rw [Pool.runOf, List.length_map, List.length_range']
  · rintro why pages ⟨hmoves, _⟩
    exact pagePool_admits b pages hmoves

theorem allocatePages_stays {component : Option ComponentId}
    (hm : ∀ into, component = some into → w.maps into) (count : Nat) (align : UInt64) :
    Stays (Broker.Advance w) (allocatePages component count align) := by
  refine fun b => .ite (fun _ => .refuse_bind) fun hc => ?_
  refine Step.Leads.bind_from (.refl b) (allocateRun_leads hc) fun run b₁ h₁ hrun => ?_
  subst hrun
  refine (pagePool_admits.holdingAll ?_).after h₁
  refine (reserveFrames_stays _).bind (fun first => ?_) b₁
  intro b₂
  -- What is published is what the mapping showed.
  refine Step.Leads.bind_from (.refl b₂) (mapRun_leads hm) fun mapped b₃ h₃ hshown => ?_
  refine StaysFrom.after (StaysFrom.bind (publishRun_staysFrom hshown) fun _ b' _ => ?_) h₃
  exact Stays.pure b'

/-! ### Device memory -/

theorem mapPhysical_stays (hm : w.maps into) (paddr : Paddr) (size : UInt64) :
    Stays (Broker.Advance w) (mapPhysical into paddr size) :=
  .ite (fun _ => .refuse_bind) (askKernel_stays (Kernel.mapDevice_stays paddr size hm))

/-! ### Spans -/

theorem activateSpan_stays (slot : Reservation Span) (head : Handle Page) (count : Nat) :
    Stays (Broker.Advance w) (activateSpan slot head count) := by
  unfold activateSpan
  split
  · exact .refuse
  · refine .ite (fun _ => .refuse_bind) ?_
    refine (spanPool_admits.ask (Pool.activate_stays trivial slot)).bind fun span => ?_
    exact (advance_tacit.note _).bind fun _ => .pure

theorem allocateShared_stays (hm : w.maps into) (count : Nat) (align : UInt64) :
    Stays (Broker.Advance w) (allocateShared into count align) := by
  refine (spanPool_admits.ask Pool.allocate_stays).bind fun slot b => ?_
  apply spanPool_admits.reserves.holding
  have hpages : ∀ id, some into = some id → w.maps id := by
    rintro _ ⟨⟩
    exact hm
  refine (allocatePages_stays hpages count align).bind (fun pages => ?_) b
  exact (activateSpan_stays _ _ _).bind fun span => .pure

theorem allocateSharedAt_stays (id count : Nat) (align : UInt64) :
    Stays (Broker.Advance w) (allocateSharedAt id count align) := by
  refine (spanPool_admits.ask (Pool.allocateAt_stays id)).bind fun slot b => ?_
  apply spanPool_admits.reserves.holding
  refine (allocatePages_stays (fun _ h => by cases h) count align).bind (fun pages => ?_) b
  exact activateSpan_stays _ _ _

/-- The pages have the frames from the `i`-th of a run on. -/
def FramesFrom (first : Paddr) : List (Handle Page × Page) → Nat → Prop
  | [], _ => True
  | (_, page) :: pages, i => first.addPages i = some page.frame ∧ FramesFrom first pages (i + 1)

theorem framesFrom_iff {pages : List (Handle Page × Page)} {i : Nat} :
    FramesFrom first pages i ↔
      ∀ j e, pages[j]? = some e → first.addPages (i + j) = some e.2.frame := by
  induction pages generalizing i with
  | nil => exact ⟨fun _ => nofun, fun _ => trivial⟩
  | cons e pages ih =>
    have hnext : ∀ j, i + 1 + j = i + (j + 1) := by omega
    constructor
    · rintro ⟨hhead, hrest⟩ j e' he'
      cases j with
      | zero =>
        cases he'
        exact hhead
      | succ j => exact hnext j ▸ ih.1 hrest j e' he'
    · intro h
      exact ⟨h 0 e rfl, ih.2 fun j e' he' => hnext j ▸ h (j + 1) e' he'⟩

/-- The handles reach records with the frames of the pages. -/
def OnRecord (pool : Pool Page) (pages : List (Handle Page × Page)) : Prop :=
  ∀ e ∈ pages, ∃ record, pool.get? e.1 = some record ∧ record.frame = e.2.frame

theorem OnRecord.advance {pages : List (Handle Page × Page)} (h : OnRecord b.pages pages)
    (ha : b.Advance w b') : OnRecord b'.pages pages := by
  intro e he
  obtain ⟨record, hget, hframe⟩ := h e he
  obtain ⟨_, ⟨more, rfl, _⟩, hget'⟩ := ha.pages.get? hget
  exact ⟨_, hget', hframe⟩

/-- The entries of a run of pages are those that the pool has. -/
theorem pagesFrom?_eq_some {pool : Pool Page} {count index : Nat}
    {pages : List (Handle Page × Page)} (h : pagesFrom? pool count index = some pages) :
    pages.length = count ∧ ∀ j e, pages[j]? = some e →
      pool.entry (index + j) = ⟨e.1.generation, .active e.2⟩ ∧ e.1.index = index + j := by
  induction count generalizing index pages with
  | zero =>
    obtain rfl := Option.some.inj h
    exact ⟨rfl, nofun⟩
  | succ count ih =>
    simp only [pagesFrom?, Option.bind_eq_bind, Option.bind_eq_some_iff] at h
    obtain ⟨handle, hhandle, page, hpage, rest, hrest, h⟩ := h
    obtain rfl := Option.some.inj h
    obtain ⟨hlen, hget⟩ := ih hrest
    refine ⟨by rw [List.length_cons, hlen], fun j e he => ?_⟩
    cases j with
    | zero =>
      cases he
      obtain ⟨o, ho, hindex⟩ := Pool.handleAt?_eq_some_iff.1 hhandle
      obtain ⟨g, hg⟩ := Pool.at?_eq_some_iff.1 hpage
      cases ho.symm.trans hg
      exact ⟨ho, hindex⟩
    | succ j =>
      obtain ⟨hentry, hindex⟩ := hget j e he
      rw [Nat.add_assoc, Nat.add_comm 1] at hentry hindex
      exact ⟨hentry, hindex⟩

/-- There are entries if every page of the run is on record. -/
theorem exists_pagesFrom? {p : Pool Page} {start : Nat}
    (h : ∀ j < count, ∃ page, p.at? (start + j) = some page) :
    ∃ entries, pagesFrom? p count start = some entries := by
  induction count generalizing start with
  | zero => exact ⟨[], rfl⟩
  | succ count ih =>
    obtain ⟨page, hpage⟩ := h 0 (Nat.succ_pos count)
    obtain ⟨g, hentry⟩ := Pool.at?_eq_some_iff.1 hpage
    have hhandle : p.handleAt? start = some ⟨start, g⟩ :=
      Pool.handleAt?_eq_some_iff.2 ⟨page, hentry, rfl⟩
    have hrest : ∀ j < count, ∃ page, p.at? (start + 1 + j) = some page := by
      intro j hj
      rw [Nat.add_assoc, Nat.add_comm 1]
      exact h (j + 1) (Nat.succ_lt_succ hj)
    obtain ⟨entries, hentries⟩ := ih hrest
    refine ⟨(⟨start, g⟩, page) :: entries, ?_⟩
    unfold pagesFrom?
    rw [Nat.add_zero] at hpage
    rw [hhandle, hpage, hentries]
    rfl

theorem onRecord_of_pagesFrom? {pool : Pool Page} {count index : Nat}
    {pages : List (Handle Page × Page)} (h : pagesFrom? pool count index = some pages) :
    OnRecord pool pages := by
  intro e he
  obtain ⟨j, hj⟩ := List.mem_iff_getElem?.1 he
  obtain ⟨hentry, hindex⟩ := (pagesFrom?_eq_some h).2 j e hj
  exact ⟨e.2, Pool.get?_eq_some_iff.2 (hindex ▸ hentry), rfl⟩

/-- A check passes if it sees the right frames, and only then. -/
theorem checkFrames_leads {span pageOff : Nat} {pages : List (Handle Page × Page)} {i : Nat} :
    (checkFrames span pageOff first pages i).Leads b
      (fun _ b' => b' = b ∧ FramesFrom first pages i)
      (fun _ b' => b' = b ∧ ¬ FramesFrom first pages i) := by
  induction pages generalizing i with
  | nil => exact Step.leads_pure.2 ⟨rfl, trivial⟩
  | cons e pages ih =>
    refine Step.Leads.exact_bind (fun expected hexpected => ?_) fun hnone => ⟨rfl, fun h => ?_⟩
    · refine Step.Leads.ite (fun hframe => ?_) fun hframe => Step.leads_refuse.2 ⟨rfl, fun h => ?_⟩
      · refine ih.mono ?_ ?_
        · rintro _ _ ⟨rfl, hrest⟩
          exact ⟨rfl, hframe ▸ hexpected, hrest⟩
        · rintro why _ ⟨rfl, hrest⟩
          exact ⟨rfl, fun h => hrest h.2⟩
      · exact hframe (Option.some.inj (h.1.symm.trans hexpected))
    · cases hnone.symm.trans h.1

/-- The places of a run that is shown are noted on the pages with its
frames. -/
theorem placePages_staysFrom (hm : w.maps into) {vaddr : Vaddr}
    {pages : List (Handle Page × Page)} {i : Nat}
    (hshown : b.kernel.ShowsRun into vaddr first (i + pages.length))
    (hframes : FramesFrom first pages i) (hrecord : OnRecord b.pages pages) :
    (placePages into vaddr pages i).StaysFrom (Broker.Advance w) b := by
  induction pages generalizing b i with
  | nil => exact Stays.pure b
  | cons e pages ih =>
    obtain ⟨hframe, hframes⟩ := hframes
    rw [List.length_cons] at hshown
    refine StaysFrom.bind (.exact_bind fun place hplace => Step.leads_modify.2 ?_) ?_
    · refine .of_mapping hm fun record hget => ?_
      obtain ⟨record', hget', hsame⟩ := hrecord e List.mem_cons_self
      cases Option.some.inj (hget.symm.trans hget')
      rw [hsame]
      exact hshown i (by omega) place _ hplace hframe
    · intro _ b' hb'
      refine ih ?_ hframes (OnRecord.advance (fun e he => ?_) hb')
      · rw [show i + 1 + pages.length = i + (pages.length + 1) by omega]
        exact hshown.advance hb'.kernel
      · exact hrecord e (List.mem_cons_of_mem _ he)

theorem mapSpan_stays (hm : w.maps into) (span : Nat) (align : UInt64) :
    Stays (Broker.Advance w) (mapSpan span into align) := by
  refine Stays.bind (.get_bind fun b => Stays.require b) fun record => ?_
  refine Stays.exact.bind fun _ => .get_bind fun b => .require_bind fun pages hpages => ?_
  have hrecord := onRecord_of_pagesFrom? hpages
  split
  · exact Stays.abort b
  · next head rest =>
    split
    · exact Stays.refuse b
    · refine Step.leads_bind.2 (checkFrames_leads.mono ?_ ?_)
      · rintro _ _ ⟨rfl, hframes⟩
        refine Step.leads_bind.2 (Step.leads_explain.2 ((mapVerified_leads hm).mono ?_ ?_))
        · rintro vaddr b' ⟨hadv, hshown⟩
          refine StaysFrom.after (StaysFrom.bind (placePages_staysFrom hm ?_ hframes ?_) ?_) hadv
          · rwa [Nat.zero_add]
          · exact hrecord.advance hadv
          · exact fun _ b'' _ => (advance_tacit.note _).bind (fun _ => Stays.pure) b''
        · exact fun _ _ => id
      · rintro why _ ⟨rfl, _⟩
        exact .refl _

/-! ### The contiguous region -/

theorem contigBase_stays {selfId : ComponentId} (hm : w.maps selfId) (count : Nat) :
    Stays (Broker.Advance w) (contigBase selfId count) := by
  refine .ite .pure ((kernelPart_admits.run (Kernel.reserveFrames_stays count).explain).bind ?_)
  intro base b
  exact Step.Leads.bind_from (.refl b) (mapVerified_leads hm) fun _ _ h _ => Step.leads_pure.2 h

theorem initContig_stays {selfId : ComponentId} (hm : w.maps selfId) (count : Nat) :
    Stays (Broker.Advance w) (initContig selfId count) := by
  refine (contigBase_stays hm count).bind fun base => ?_
  refine Stays.bind (.modify fun b => ?_) fun _ => advance_tacit.log _ _
  split
  · exact .of_notes
  · exact .refl b

theorem advanceContig_stays (count : Nat) : Stays (Broker.Advance w) (advanceContig count) := by
  refine .get_bind fun b => ?_
  split
  · exact Stays.refuse b
  · refine .ite (fun _ => Stays.refuse b) fun _ => ?_
    refine Stays.bind (.modify fun b => .of_notes) (fun _ => ?_) b
    exact Stays.exact.bind fun first => .pure

theorem carveContig_stays (hm : w.maps into) (count : Nat) (align : UInt64) :
    Stays (Broker.Advance w) (carveContig into count align) := by
  refine fun b => .ite (fun _ => .refuse_bind) fun hc => ?_
  refine Step.Leads.bind_from (.refl b) (allocateRun_leads hc) fun run b₁ h₁ hrun => ?_
  subst hrun
  refine (pagePool_admits.holdingAll ?_).after h₁
  refine (advanceContig_stays _).bind (fun carved b₂ => ?_) b₁
  obtain ⟨first, offset⟩ := carved
  refine Step.leads_bind.2 (Step.leads_explain.2 ((mapVerified_leads hm).mono ?_ ?_))
  · rintro vaddr b₃ ⟨h₃, hshown⟩
    have hmapped : ShownIn b₃.kernel (some (into, vaddr)) first run.length := by
      rintro _ _ ⟨⟩
      exact hshown
    refine StaysFrom.after (StaysFrom.bind (publishRun_staysFrom hmapped) fun _ b₄ _ => ?_) h₃
    exact (advance_tacit.note _).bind (fun _ => (advance_tacit.log _ _).bind fun _ => Stays.pure) b₄
  · exact fun _ _ => id

theorem allocateContiguous_stays (hm : w.maps into) (count : Nat) :
    Stays (Broker.Advance w) (allocateContiguous into count) :=
  (carveContig_stays hm count 4096).map

theorem allocateContiguousShared_stays (hm : w.maps into) (count : Nat) (align : UInt64) :
    Stays (Broker.Advance w) (allocateContiguousShared into count align) := by
  refine (spanPool_admits.ask Pool.allocate_stays).bind fun slot b => ?_
  apply spanPool_admits.reserves.holding
  refine (carveContig_stays hm count align).bind (fun carved => ?_) b
  exact (activateSpan_stays _ _ _).bind fun span => .pure

end CapabilityBroker
