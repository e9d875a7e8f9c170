/-
CapabilityBroker/Proofs/Kernel/Course.lean

The course of the capability tables.

Two things happen to a capability table: a slot of it is handed out, and slots of
it are emptied.  A course lists these deeds in the order in which they happened,
over all tables, and between two of them every table rests (`Idles`).  A deed is a
call of the very step that all primitives share, so a course also shows the slots
that a primitive took before it was refused.

The slots that a table handed out are the numbers from its base on, without a gap
(`Space.Tallies`).  So none of them is handed out twice, and a slot that was emptied
stays empty.  A thread is counted only after its slot was handed out, so the broker's
own table bounds the numbers of threads as well (`Counted`).
-/
import CapabilityBroker.Proofs.Kernel.Primitive

namespace CapabilityBroker.Kernel

open Step (Stays StaysFrom)

variable {k₀ k k' k'' : Kernel} {id into : ComponentId} {s s' : Space} {slot : UInt64}
  {layout : Layout} {base size : Nat} {given gone slots : List UInt64}

/-! ### Deeds -/

/-- What happens to capability tables. -/
inductive Deed where
  /-- A slot of a component's table was handed out. -/
  | issues (id : ComponentId) (slot : UInt64)
  /-- Slots of a component's table were emptied. -/
  | empties (id : ComponentId) (slots : List UInt64)

/-- The slots of a component's table that were handed out, in order. -/
def issued (id : ComponentId) (deeds : List Deed) : List UInt64 :=
  deeds.flatMap fun
    | .issues d slot => if d = id then [slot] else []
    | .empties .. => []

/-- The slots of a component's table that were emptied. -/
def revoked (id : ComponentId) (deeds : List Deed) : List UInt64 :=
  deeds.flatMap fun
    | .issues .. => []
    | .empties d slots => if d = id then slots else []

section Deeds

variable {deeds more : List Deed}

@[simp] theorem issued_append : issued id (deeds ++ more) = issued id deeds ++ issued id more :=
  List.flatMap_append

@[simp] theorem revoked_append :
    revoked id (deeds ++ more) = revoked id deeds ++ revoked id more := List.flatMap_append

@[simp] theorem issued_issues : issued id [.issues into slot] = if into = id then [slot] else [] :=
  List.flatMap_singleton _ _

@[simp] theorem issued_empties : issued id [.empties into slots] = [] := rfl

@[simp] theorem revoked_issues : revoked id [.issues into slot] = [] := rfl

@[simp] theorem revoked_empties :
    revoked id [.empties into slots] = if into = id then slots else [] := List.flatMap_singleton _ _

/-- Where only slots of one table are handed out, they are what that table handed
out. -/
theorem issued_map_issues : issued into (slots.map (.issues into)) = slots := by
  induction slots with
  | nil => rfl
  | cons slot slots ih =>
    rw [List.map_cons, ← List.singleton_append, issued_append, issued_issues, if_pos rfl, ih,
      List.singleton_append]

end Deeds

/-! ### One table -/

/-- The capability table is as it was. -/
structure Space.SameTable (s s' : Space) : Prop where
  frontier : s'.captblFrontier = s.captblFrontier
  limit : s'.captblLimit = s.captblLimit
  live : s'.liveCaps = s.liveCaps

/-- The capability table of a component just made. -/
structure Space.NewTable (layout : Layout) (s : Space) : Prop where
  live : s.liveCaps = ∅
  limit : s.captblLimit.toNat = s.captblFrontier.toNat + layout.captblSize.toNat
  rooted : layout.captblBase ≠ 0 → s.captblFrontier ≠ 0

theorem Space.NewTable.of_create? {name : String} {heap : Vaddr} {captbl : UInt64}
    (h : Space.create? layout name heap captbl = some s)
    (hroot : layout.captblBase ≠ 0 → captbl ≠ 0) : s.NewTable layout := by
  obtain ⟨_, hfrontier, hlimit⟩ := Space.frontiers_of_create? h
  exact ⟨(Space.empty_of_create? h).2, hfrontier ▸ hlimit, hfrontier ▸ hroot⟩

/-- A table of `size` slots from `base` on that handed out `given`, of which `gone`
were emptied. -/
structure Space.Tallies (s : Space) (base size : Nat) (given gone : List UInt64) : Prop where
  rooted : base ≠ 0
  numbers : given.map UInt64.toNat = List.range' base given.length
  frontier : s.captblFrontier.toNat = base + given.length
  limit : s.captblLimit.toNat = base + size
  fits : given.length ≤ size
  emptied : ∀ slot ∈ gone, slot ∈ given
  live : ∀ slot, slot ∈ s.liveCaps ↔ slot ∈ given ∧ slot ∉ gone

namespace Space.Tallies

theorem congr (h : s.Tallies base size given gone) (hsame : s.SameTable s') :
    s'.Tallies base size given gone :=
  ⟨h.rooted, h.numbers, hsame.frontier ▸ h.frontier, hsame.limit ▸ h.limit, h.fits, h.emptied,
    hsame.live ▸ h.live⟩

/-- A new table handed out nothing. -/
theorem of_new (h : s.NewTable layout) (hbase : layout.captblBase ≠ 0) :
    s.Tallies s.captblFrontier.toNat layout.captblSize.toNat [] [] where
  rooted h0 := h.rooted hbase (UInt64.toNat.inj h0)
  numbers := rfl
  frontier := rfl
  limit := h.limit
  fits := Nat.zero_le _
  emptied _ hslot := hslot
  live slot := by
    rw [h.live]
    simp

/-- What was handed out lies between the base and the frontier. -/
theorem bounds (h : s.Tallies base size given gone) (hslot : slot ∈ given) :
    base ≤ slot.toNat ∧ slot.toNat < s.captblFrontier.toNat := by
  have hmem : slot.toNat ∈ List.range' base given.length := by
    rw [← h.numbers]
    exact List.mem_map_of_mem hslot
  rw [h.frontier]
  exact List.mem_range'_1.1 hmem

theorem ascending (h : s.Tallies base size given gone) : given.Pairwise (· < ·) := by
  have hnumbers : (given.map UInt64.toNat).Pairwise (· < ·) := by
    rw [h.numbers]
    exact List.pairwise_lt_range'
  rw [List.pairwise_map] at hnumbers
  exact hnumbers.imp fun hlt => UInt64.lt_iff_toNat_lt.2 hlt

theorem ne_zero (h : s.Tallies base size given gone) (hslot : slot ∈ given) : slot ≠ 0 := by
  rintro rfl
  exact h.rooted (Nat.le_zero.1 (h.bounds hslot).1)

theorem lt_limit (h : s.Tallies base size given gone) (hslot : slot ∈ given) :
    slot < s.captblLimit := by
  rw [UInt64.lt_iff_toNat_lt, h.limit]
  have hlt := (h.bounds hslot).2
  rw [h.frontier] at hlt
  exact Nat.lt_of_lt_of_le hlt (Nat.add_le_add_left h.fits base)

/-- The slot at the frontier is the next number. -/
theorem granting (h : s.Tallies base size given gone) (hroom : s.captblFrontier < s.captblLimit) :
    s.granting.Tallies base size (given ++ [s.captblFrontier]) gone where
  rooted := h.rooted
  numbers := by
    rw [List.map_append, h.numbers, List.length_append, List.length_singleton, List.range'_concat,
      Nat.one_mul, ← h.frontier]
    rfl
  frontier := by
    rw [Space.toNat_granting hroom, h.frontier, List.length_append]
    rfl
  limit := h.limit
  fits := by
    rw [UInt64.lt_iff_toNat_lt, h.frontier, h.limit] at hroom
    rw [List.length_append]
    exact Nat.lt_of_add_lt_add_left hroom
  emptied slot hslot := List.mem_append_left _ (h.emptied slot hslot)
  live slot := by
    rw [Space.mem_granting, h.live, List.mem_append, List.mem_singleton]
    constructor
    · rintro (rfl | ⟨hgiven, hgone⟩)
      · -- What was emptied was handed out before, and so lies below the frontier.
        exact ⟨.inr rfl, fun hgone => Nat.lt_irrefl _ (h.bounds (h.emptied _ hgone)).2⟩
      · exact ⟨.inl hgiven, hgone⟩
    · rintro ⟨hgiven | rfl, hgone⟩
      · exact .inr ⟨hgiven, hgone⟩
      · exact .inl rfl

/-- Only live slots can be emptied. -/
theorem without (h : s.Tallies base size given gone) (hslots : ∀ slot ∈ slots, slot ∈ s.liveCaps) :
    (s.without slots).Tallies base size given (gone ++ slots) where
  rooted := h.rooted
  numbers := h.numbers
  frontier := h.frontier
  limit := h.limit
  fits := h.fits
  emptied slot hslot := by
    rcases List.mem_append.1 hslot with hgone | hnew
    · exact h.emptied slot hgone
    · exact ((h.live slot).1 (hslots slot hnew)).1
  live slot := by
    rw [Space.mem_without, h.live, List.mem_append, not_or]
    exact ⟨fun ⟨hnew, hgiven, hgone⟩ => ⟨hgiven, hgone, hnew⟩,
      fun ⟨hgiven, hgone, hnew⟩ => ⟨hnew, hgiven, hgone⟩⟩

end Space.Tallies

/-! ### Between the deeds -/

/-- The broker's own table handed out more slots than there are numbers of
threads. -/
def Counted (k : Kernel) : Prop :=
  ∃ own, k.space? k.selfId = some own ∧ k.nextTid.toNat ≤ own.captblFrontier.toNat

/-- Every capability table is as it was.  Components may have come, with a new
table, and no thread was counted before its slot was handed out. -/
structure Idles (k k' : Kernel) : Prop where
  selfId : k'.selfId = k.selfId
  layout : k'.layout = k.layout
  tables : ∀ d s, k.space? d = some s → ∃ s', k'.space? d = some s' ∧ s.SameTable s'
  fresh : ∀ d s', k.space? d = none → k'.space? d = some s' → s'.NewTable k.layout
  counted : k.Counted → k'.Counted

namespace Idles

theorem refl (k : Kernel) : k.Idles k :=
  ⟨rfl, rfl, fun _ s hs => ⟨s, hs, rfl, rfl, rfl⟩, (fun _ _ hn hs => by cases hn.symm.trans hs), id⟩

theorem trans (h : k.Idles k') (h' : k'.Idles k'') : k.Idles k'' where
  selfId := h'.selfId.trans h.selfId
  layout := h'.layout.trans h.layout
  tables d s hs := by
    obtain ⟨s₁, hs₁, hsame⟩ := h.tables d s hs
    obtain ⟨s₂, hs₂, hsame'⟩ := h'.tables d s₁ hs₁
    exact ⟨s₂, hs₂, hsame'.frontier.trans hsame.frontier, hsame'.limit.trans hsame.limit,
      hsame'.live.trans hsame.live⟩
  fresh d s₂ hn hs₂ := by
    cases hs₁ : k'.space? d with
    | none => exact h.layout ▸ h'.fresh d s₂ hs₁ hs₂
    | some s₁ =>
      have hnew := h.fresh d s₁ hn hs₁
      obtain ⟨t, ht, hsame⟩ := h'.tables d s₁ hs₁
      obtain rfl := Option.some.inj (ht.symm.trans hs₂)
      refine ⟨hsame.live.trans hnew.live, ?_, ?_⟩
      · rw [hsame.limit, hsame.frontier, hnew.limit]
      · rw [hsame.frontier]
        exact hnew.rooted
  counted := h'.counted ∘ h.counted

instance : IsPreorder Kernel Idles where
  refl := refl
  trans _ _ _ := trans

/-- The broker's own table and the number of the next thread decide what is
counted. -/
theorem of_tables (hself : k'.selfId = k.selfId) (hlayout : k'.layout = k.layout)
    (htid : k'.nextTid = k.nextTid)
    (ht : ∀ d s, k.space? d = some s → ∃ s', k'.space? d = some s' ∧ s.SameTable s')
    (hf : ∀ d s', k.space? d = none → k'.space? d = some s' → s'.NewTable k.layout) :
    k.Idles k' := by
  refine ⟨hself, hlayout, ht, hf, fun ⟨own, hown, hle⟩ => ?_⟩
  obtain ⟨own', hown', hsame⟩ := ht _ own hown
  refine ⟨own', hself ▸ hown', ?_⟩
  rw [htid, hsame.frontier]
  exact hle

/-- What else the kernel keeps is no part of this. -/
theorem of_notes {threads : Std.ExtTreeMap ThreadId ComponentId} {nextFrame : Nat}
    {ulkReady : Bool} {faults : Faults} {trail : Trail Event} :
    k.Idles { k with threads, nextFrame, ulkReady, faults, trail } :=
  .of_tables rfl rfl rfl (fun _ s hs => ⟨s, hs, rfl, rfl, rfl⟩)
    fun _ _ hn hs => by cases hn.symm.trans hs

/-- A thread is counted, if a slot was handed out for it. -/
theorem of_count {threads : Std.ExtTreeMap ThreadId ComponentId} {nextTid : UInt64}
    (h : Counted { k with threads, nextTid }) : k.Idles { k with threads, nextTid } :=
  ⟨rfl, rfl, fun _ s hs => ⟨s, hs, rfl, rfl, rfl⟩,
    (fun _ _ hn hs => by cases hn.symm.trans hs), fun _ => h⟩

/-- A component is replaced by one with the same table. -/
theorem of_space (hs : k.space? into = some s) (hsame : s.SameTable s') :
    k.Idles (k.withSpace into s') := by
  refine .of_tables rfl rfl rfl (fun d t ht => ?_) fun d t hn ht => ?_
  · rw [space?_withSpace]
    by_cases hd : into = d
    · subst hd
      obtain rfl := Option.some.inj (hs.symm.trans ht)
      exact ⟨s', if_pos rfl, hsame⟩
    · exact ⟨t, (if_neg hd).trans ht, rfl, rfl, rfl⟩
  · rw [space?_withSpace] at ht
    split at ht
    · next hd => cases (hd ▸ hs).symm.trans hn
    · cases hn.symm.trans ht

/-- A component comes with a new table. -/
theorem of_new (hn : k.space? into = none) (hnew : s.NewTable k.layout) :
    k.Idles (k.withSpace into s) := by
  refine .of_tables rfl rfl rfl (fun d t ht => ⟨t, ?_, rfl, rfl, rfl⟩) fun d t hn' ht => ?_
  · have hd : into ≠ d := by
      rintro rfl
      cases hn.symm.trans ht
    rw [space?_withSpace, if_neg hd]
    exact ht
  · rw [space?_withSpace] at ht
    split at ht
    · exact Option.some.inj ht ▸ hnew
    · cases hn'.symm.trans ht

/-- A primitive on memory touches no capability table. -/
theorem of_memory {w : Warrant} (hm : MemoryMove k k') (ha : Advance w k k') : k.Idles k' := by
  refine .of_tables hm.selfId hm.layout hm.nextTid (fun d s hs => ?_) fun d s' hn hs' => ?_
  · obtain ⟨s', hs', hfrontier, hlive⟩ := hm.spaces d s hs
    obtain ⟨t, ht, hadvance⟩ := ha.spaces d s hs
    obtain rfl := Option.some.inj (hs'.symm.trans ht)
    exact ⟨s', hs', hfrontier, hadvance.limit, hlive⟩
  · cases (hm.absent d hn).symm.trans hs'

end Idles

theorem record_idles {ε : Type} (event : Event) :
    Stays Idles (record event : Step Kernel ε Unit) := .modify fun _ => .of_notes

/-! ### Courses -/

/-- The second kernel came from the first by these deeds. -/
inductive Course (k₀ : Kernel) : List Deed → Kernel → Prop where
  | start : Course k₀ [] k₀
  | rest {deeds : List Deed} {k k' : Kernel} (before : Course k₀ deeds k) (idle : k.Idles k') :
      Course k₀ deeds k'
  | issue {deeds : List Deed} {k k' : Kernel} {id : ComponentId} {slot : UInt64}
      (before : Course k₀ deeds k) (taken : allocateSlot id k = .ok slot k') :
      Course k₀ (deeds ++ [.issues id slot]) k'
  | empty {deeds : List Deed} {k k' : Kernel} {id : ComponentId} {slots : List UInt64}
      (before : Course k₀ deeds k) (emptied : revokeSlots id slots k = .ok () k') :
      Course k₀ (deeds ++ [.empties id slots]) k'

/-- What the capability tables say after these deeds. -/
structure Tallied (layout : Layout) (deeds : List Deed) (k : Kernel) : Prop where
  sameLayout : k.layout = layout
  tables : ∀ id s, k.space? id = some s →
    ∃ base, s.Tallies base layout.captblSize.toNat (issued id deeds) (revoked id deeds)
  absent : ∀ id, k.space? id = none → issued id deeds = [] ∧ revoked id deeds = []
  counted : k.Counted

namespace Tallied

variable {deeds : List Deed}

theorem rest (h : k.Tallied layout deeds) (hbase : layout.captblBase ≠ 0) (hidle : k.Idles k') :
    k'.Tallied layout deeds where
  sameLayout := hidle.layout.trans h.sameLayout
  tables id s' hs' := by
    cases hs : k.space? id with
    | some s =>
      obtain ⟨base, htallies⟩ := h.tables id s hs
      obtain ⟨t, ht, hsame⟩ := hidle.tables id s hs
      obtain rfl := Option.some.inj (ht.symm.trans hs')
      exact ⟨base, htallies.congr hsame⟩
    | none =>
      -- A component that came has the deeds of one that was not there: none.
      have hnew := hidle.fresh id s' hs hs'
      rw [h.sameLayout] at hnew
      rw [(h.absent id hs).1, (h.absent id hs).2]
      exact ⟨_, .of_new hnew hbase⟩
  absent id hn' := by
    apply h.absent
    cases hs : k.space? id with
    | none => rfl
    | some s =>
      obtain ⟨s', hs', _⟩ := hidle.tables id s hs
      cases hn'.symm.trans hs'
  counted := hidle.counted h.counted

/-- One table changes, and the deed is one on that table. -/
theorem withSpace {deed : Deed} (h : k.Tallied layout deeds) (hs : k.space? into = some s)
    (hfrontier : s.captblFrontier.toNat ≤ s'.captblFrontier.toNat)
    (htable : ∀ base, s.Tallies base layout.captblSize.toNat (issued into deeds)
        (revoked into deeds) →
      s'.Tallies base layout.captblSize.toNat (issued into (deeds ++ [deed]))
        (revoked into (deeds ++ [deed])))
    (hothers : ∀ id, into ≠ id → issued id [deed] = [] ∧ revoked id [deed] = []) :
    (k.withSpace into s').Tallied layout (deeds ++ [deed]) := by
  have hsame : ∀ id, into ≠ id → issued id (deeds ++ [deed]) = issued id deeds ∧
      revoked id (deeds ++ [deed]) = revoked id deeds := by
    intro id hid
    obtain ⟨hissued, hrevoked⟩ := hothers id hid
    simp [hissued, hrevoked]
  refine ⟨h.sameLayout, fun id t ht => ?_, fun id hn => ?_, ?_⟩
  · rw [space?_withSpace] at ht
    split at ht
    · next hd =>
      obtain rfl := Option.some.inj ht
      obtain ⟨base, htallies⟩ := h.tables into s hs
      exact ⟨base, hd ▸ htable base htallies⟩
    · next hd =>
      rw [(hsame id hd).1, (hsame id hd).2]
      exact h.tables id t ht
  · rw [space?_withSpace] at hn
    split at hn
    · cases hn
    · next hd =>
      rw [(hsame id hd).1, (hsame id hd).2]
      exact h.absent id hn
  · obtain ⟨own, hown, hle⟩ := h.counted
    show ∃ own, (k.withSpace into s').space? k.selfId = some own ∧ _
    rw [space?_withSpace]
    by_cases hd : into = k.selfId
    · rw [hd] at hs
      obtain rfl := Option.some.inj (hs.symm.trans hown)
      exact ⟨s', if_pos hd, Nat.le_trans hle hfrontier⟩
    · exact ⟨own, (if_neg hd).trans hown, hle⟩

/-- A new kernel handed out nothing. -/
theorem of_create? {selfId : ComponentId} {faults : List Fault}
    (h : Kernel.create? selfId layout faults = some k) (hbase : layout.captblBase ≠ 0) :
    k.Tallied layout [] := by
  obtain ⟨own, hspace, ⟨_, hlive⟩, _, hfrontier, hlimit⟩ := space?_of_create? h
  have hnew : own.NewTable layout := ⟨hlive, hfrontier ▸ hlimit, hfrontier ▸ id⟩
  obtain ⟨_, _, rfl⟩ := Option.map_eq_some_iff.1 h
  refine ⟨rfl, fun id s hs => ?_, fun _ _ => ⟨rfl, rfl⟩, own, ?_, ?_⟩
  · rw [hspace] at hs
    split at hs
    · obtain rfl := Option.some.inj hs
      exact ⟨_, .of_new hnew hbase⟩
    · cases hs
  · exact (hspace selfId).trans (if_pos rfl)
  · -- Threads are counted from one on.
    exact Nat.pos_of_ne_zero fun h0 => hnew.rooted hbase (UInt64.toNat.inj h0)

/-- The slots of a table were handed out in ascending order, so none of them twice. -/
theorem ascending (h : k.Tallied layout deeds) (id : ComponentId) :
    (issued id deeds).Pairwise (· < ·) := by
  cases hs : k.space? id with
  | none =>
    rw [(h.absent id hs).1]
    exact .nil
  | some s =>
    obtain ⟨base, htallies⟩ := h.tables id s hs
    exact htallies.ascending

/-- A slot that was handed out is not the null slot, and lies within its table. -/
theorem within (h : k.Tallied layout deeds) (hslot : slot ∈ issued id deeds) :
    slot ≠ 0 ∧ ∃ s, k.space? id = some s ∧ slot < s.captblLimit := by
  cases hs : k.space? id with
  | none =>
    rw [(h.absent id hs).1] at hslot
    cases hslot
  | some s =>
    obtain ⟨base, htallies⟩ := h.tables id s hs
    exact ⟨htallies.ne_zero hslot, s, rfl, htallies.lt_limit hslot⟩

/-- The live slots are those that were handed out and not emptied. -/
theorem holds_iff (h : k.Tallied layout deeds) :
    k.holds id slot = true ↔ slot ∈ issued id deeds ∧ slot ∉ revoked id deeds := by
  unfold holds
  cases hs : k.space? id with
  | none => simp [(h.absent id hs).1]
  | some s =>
    obtain ⟨base, htallies⟩ := h.tables id s hs
    exact htallies.live slot

/-- A table hands out no more slots than it has. -/
theorem length_le (h : k.Tallied layout deeds) (id : ComponentId) :
    (issued id deeds).length ≤ layout.captblSize.toNat := by
  cases hs : k.space? id with
  | none =>
    rw [(h.absent id hs).1]
    exact Nat.zero_le _
  | some s =>
    obtain ⟨base, htallies⟩ := h.tables id s hs
    exact htallies.fits

/-- What is left of a table was never handed out. -/
theorem room_eq (h : k.Tallied layout deeds) (hthere : k.hasComponent id = true) :
    k.room id = layout.captblSize.toNat - (issued id deeds).length := by
  obtain ⟨s, hs⟩ := hasComponent_iff.1 hthere
  obtain ⟨base, htallies⟩ := h.tables id s hs
  rw [Kernel.room_eq hs, htallies.limit, htallies.frontier]
  exact Nat.add_sub_add_left _ _ _

end Tallied

namespace Course

variable {deeds more : List Deed}

/-- Every deed keeps the tables in step with what was handed out and emptied. -/
theorem tallied (h : Course k more k') (hk : k.Tallied layout deeds)
    (hbase : layout.captblBase ≠ 0) : k'.Tallied layout (deeds ++ more) := by
  induction h with
  | start =>
    rw [List.append_nil]
    exact hk
  | rest _ hidle ih => exact ih.rest hbase hidle
  | issue _ htaken ih =>
    -- The slot is the one at the frontier, which is the next number of its table.
    obtain ⟨s, hs, hroom, rfl, rfl⟩ := (allocateSlot_granting _).of_ok htaken
    rw [← List.append_assoc]
    apply ih.withSpace hs
    · rw [Space.toNat_granting hroom]
      exact Nat.le_succ _
    · intro base htallies
      simpa using htallies.granting hroom
    · intro id hid
      simp [hid]
  | empty _ hemptied ih =>
    -- The slots were live, so they had been handed out.
    obtain ⟨s, hs, hlive, rfl⟩ := revokeSlots_leads.of_ok hemptied
    rw [← List.append_assoc]
    apply ih.withSpace hs
    · exact Nat.le_refl _
    · intro base htallies
      simpa using htallies.without hlive
    · intro id hid
      simp [hid]

theorem trans (h : Course k₀ deeds k) (h' : Course k more k') : Course k₀ (deeds ++ more) k' := by
  induction h' with
  | start =>
    rw [List.append_nil]
    exact h
  | rest _ hidle ih => exact ih.rest hidle
  | issue _ htaken ih =>
    rw [← List.append_assoc]
    exact ih.issue htaken
  | empty _ hemptied ih =>
    rw [← List.append_assoc]
    exact ih.empty hemptied

/-- Resting is a course without deeds. -/
theorem of_idles (h : k.Idles k') : Course k [] k' := .rest .start h

end Course

end CapabilityBroker.Kernel
