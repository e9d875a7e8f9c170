/-
CapabilityBroker/Proofs/Boot/Manifest.lean

Manifests that the broker can start from.

A manifest is consistent with the settings and the machine if everything that it
names is there, nothing is named twice, and what it sets aside fits the pools and
the frames (`Consistent`).  Nothing in that speaks of how the start goes about
it.  The replayed capabilities are the one part that is read by a parser; it
reads a list of entries exactly if the list is a row of triples, and it reads it
in one way only (`ComponentCaps.groups_eq_ok_iff`).
-/
import Mathlib.Algebra.Ring.Nat
import Mathlib.Data.List.Permutation
import CapabilityBroker.Kernel.State
import CapabilityBroker.Manifest.Replay
import CapabilityBroker.Settings

namespace CapabilityBroker

/-! ### Executions -/

theorem bind_eq_ok_iff {ε α β : Type} {x : Except ε α} {f : α → Except ε β} {b : β} :
    (x >>= f) = .ok b ↔ ∃ a, x = .ok a ∧ f a = .ok b := by
  cases x with
  | error why => exact ⟨nofun, fun ⟨_, h, _⟩ => nomatch h⟩
  | ok a => exact ⟨fun h => ⟨a, rfl, h⟩, fun ⟨_, rfl, h⟩ => h⟩

/-- A list is read as a whole if each of its members can be read. -/
theorem exists_mapM_eq_ok {ε α β : Type} {f : α → Except ε β} {l : List α} :
    (∃ bs, l.mapM f = .ok bs) ↔ ∀ a ∈ l, ∃ b, f a = .ok b := by
  induction l with
  | nil => exact ⟨fun _ => nofun, fun _ => ⟨[], rfl⟩⟩
  | cons a l ih =>
    rw [List.mapM_cons, List.forall_mem_cons, ← ih]
    cases f a with
    | error why => exact ⟨fun ⟨_, h⟩ => (nomatch h), fun ⟨⟨_, h⟩, _⟩ => nomatch h⟩
    | ok b =>
      cases l.mapM f with
      | error why => exact ⟨fun ⟨_, h⟩ => (nomatch h), fun ⟨_, _, h⟩ => nomatch h⟩
      | ok bs => exact ⟨fun _ => ⟨⟨b, rfl⟩, bs, rfl⟩, fun _ => ⟨b :: bs, rfl⟩⟩

theorem Execution.exists_ofText_eq_ok {kind : String} :
    (∃ execution, ofText kind = .ok execution) ↔ kind = "sched" ∨ kind = "init" := by
  unfold ofText
  by_cases hs : kind = "sched"
  · simp [hs]
  · by_cases hi : kind = "init"
    · simp [hi]
    · simp [hs, hi]

/-- A manifest has a plan if it knows every kind of execution. -/
theorem Manifest.exists_plan {m : Manifest} :
    (∃ plan, m.plan = .ok plan) ↔ ∀ e ∈ m.execute, e.2 = "sched" ∨ e.2 = "init" := by
  unfold plan
  rw [exists_mapM_eq_ok]
  refine forall₂_congr fun e _ => ?_
  rw [← Execution.exists_ofText_eq_ok]
  cases Execution.ofText e.2 with
  | error why => exact ⟨fun ⟨_, h⟩ => (nomatch h), fun ⟨_, h⟩ => nomatch h⟩
  | ok execution => exact ⟨fun _ => ⟨execution, rfl⟩, fun _ => ⟨(⟨e.1⟩, execution), rfl⟩⟩

/-! ### Replayed capabilities -/

/-- The kind as a manifest writes it. -/
def ReplayKind.text : ReplayKind → String
  | comp => "comp"
  | captbl => "captbl"
  | pgtbl => "pgtbl"

theorem ReplayKind.ofText_eq_ok_iff {capid : UInt64} {text : String} {kind : ReplayKind} :
    ofText capid text = .ok kind ↔ text = kind.text := by
  unfold ofText
  split
  · next h => cases kind <;> simp [h, ReplayKind.text]
  · next hcomp =>
    split
    · next h => cases kind <;> simp [h, ReplayKind.text]
    · next hcaptbl =>
      split
      · next h => cases kind <;> simp [h, ReplayKind.text]
      · next hpgtbl => cases kind <;> simp [hcomp, hcaptbl, hpgtbl, ReplayKind.text]

namespace ComponentCaps

variable {caps caps' : ComponentCaps} {e a b c : ReplayEntry} {l : List ReplayEntry}
  {groups : List ComponentCaps}

/-- The capability of a kind. -/
def slot (caps : ComponentCaps) : ReplayKind → UInt64
  | .comp => caps.comp
  | .captbl => caps.captbl
  | .pgtbl => caps.pgtbl

/-- The entry for the capability of a kind. -/
def entry (caps : ComponentCaps) (kind : ReplayKind) : ReplayEntry :=
  ⟨caps.slot kind, kind.text, caps.component.number⟩

/-- One entry for each capability of the component. -/
def entries (caps : ComponentCaps) : List ReplayEntry :=
  [caps.entry .comp, caps.entry .captbl, caps.entry .pgtbl]

/-- There is a component, and it has all its capabilities. -/
structure Whole (caps : ComponentCaps) : Prop where
  component : caps.component.number ≠ 0
  slots : ∀ kind, caps.slot kind ≠ 0

theorem complete_iff : caps.complete = true ↔ caps.Whole := by
  unfold complete ComponentId.isSome
  simp only [Bool.and_eq_true, bne_iff_ne]
  constructor
  · rintro ⟨⟨⟨hcomponent, hcomp⟩, hcaptbl⟩, hpgtbl⟩
    refine ⟨hcomponent, fun kind => ?_⟩
    cases kind with
    | comp => exact hcomp
    | captbl => exact hcaptbl
    | pgtbl => exact hpgtbl
  · exact fun h => ⟨⟨⟨h.component, h.slots .comp⟩, h.slots .captbl⟩, h.slots .pgtbl⟩

/-- A row of triples: three entries for each component in turn, one for each of its
capabilities, in any order. -/
inductive Triples : List ReplayEntry → List ComponentCaps → Prop where
  | nil : Triples [] []
  | cons {a b c : ReplayEntry} {rest : List ReplayEntry} {caps : ComponentCaps}
      {others : List ComponentCaps} (triple : [a, b, c].Perm caps.entries) (whole : caps.Whole)
      (behind : Triples rest others) : Triples (a :: b :: c :: rest) (caps :: others)

/-- An entry is added if it has a capability, for the component at hand, of a kind
that is known. -/
theorem add_eq_ok_iff : caps.add e = .ok caps' ↔ e.capid ≠ 0 ∧ e.target = caps.component.number ∧
    ∃ kind : ReplayKind, e.kind = kind.text ∧ caps.set e.capid kind = caps' := by
  have hkind : ∀ {kind : ReplayKind}, e.kind = kind.text ↔
      ReplayKind.ofText e.capid e.kind = .ok kind := ReplayKind.ofText_eq_ok_iff.symm
  simp only [hkind]
  unfold add
  by_cases hcap : e.capid = 0
  · simp [hcap]
  · by_cases htarget : e.target = caps.component.number
    · rw [if_neg hcap, if_neg (not_not_intro htarget)]
      cases ReplayKind.ofText e.capid e.kind with
      | error why => exact ⟨nofun, nofun⟩
      | ok kind => simp [hcap, htarget, Except.map]
    · simp [hcap, htarget]

/-- Three things in some order. -/
theorem perm_three {α : Type} {x y z x' y' z' : α} : [x, y, z].Perm [x', y', z'] ↔
    [x, y, z] ∈ [[x', y', z'], [y', x', z'], [z', y', x'], [y', z', x'], [z', x', y'],
      [x', z', y']] := by
  rw [← List.mem_permutations]
  simp [List.permutations, List.permutationsAux_cons, List.permutationsAux_nil,
    List.permutationsAux2]

/-- The entries of a triple are added one by one, and then there must be one of each
kind. -/
theorem ofTriple_reads : ofTriple a b c = .ok caps ↔
    ∃ first second, (start ⟨a.target⟩).add a = .ok first ∧ first.add b = .ok second ∧
      second.add c = .ok caps ∧ caps.complete = true := by
  unfold ofTriple
  simp only [List.foldlM_cons, List.foldlM_nil, bind_eq_ok_iff]
  constructor
  · rintro ⟨third, ⟨first, ha, second, hb, _, hc, h⟩, hdone⟩
    cases h
    split at hdone
    · next hcomplete =>
      cases hdone
      exact ⟨first, second, ha, hb, hc, hcomplete⟩
    · cases hdone
  · rintro ⟨first, second, ha, hb, hc, hcomplete⟩
    exact ⟨caps, ⟨first, ha, second, hb, caps, hc, rfl⟩, if_pos hcomplete⟩

/-- An entry of the component at hand is put under its kind. -/
theorem add_entry {filled : ComponentCaps} {kind : ReplayKind} (h : caps.Whole)
    (hf : filled.component = caps.component) :
    filled.add (caps.entry kind) = .ok (filled.set (caps.slot kind) kind) :=
  add_eq_ok_iff.2 ⟨h.slots kind, congrArg ComponentId.number hf.symm, kind, rfl, rfl⟩

/-- Three entries are the capabilities of a component if they are its capabilities in
some order. -/
theorem ofTriple_eq_ok_iff :
    ofTriple a b c = .ok caps ↔ [a, b, c].Perm caps.entries ∧ caps.Whole := by
  rw [ofTriple_reads, complete_iff]
  constructor
  · rintro ⟨first, second, hfirst, hsecond, hthird, hwhole⟩
    refine ⟨?_, hwhole⟩
    have hslots := hwhole.slots
    obtain ⟨_, _, ka, hka, rfl⟩ := add_eq_ok_iff.1 hfirst
    obtain ⟨_, htb, kb, hkb, rfl⟩ := add_eq_ok_iff.1 hsecond
    obtain ⟨_, htc, kc, hkc, rfl⟩ := add_eq_ok_iff.1 hthird
    obtain ⟨acap, akind, target⟩ := a
    obtain ⟨bcap, bkind, btarget⟩ := b
    obtain ⟨ccap, ckind, ctarget⟩ := c
    dsimp only at hka hkb hkc
    subst hka hkb hkc htb htc
    unfold entries
    rw [perm_three]
    -- A kind that comes twice leaves the slot of another one empty.
    cases ka <;> cases kb <;> cases kc <;> first
      | exact absurd rfl (hslots .comp)
      | exact absurd rfl (hslots .captbl)
      | exact absurd rfl (hslots .pgtbl)
      | simp [entry, slot, set, start]
  · rintro ⟨htriple, hwhole⟩
    unfold entries at htriple
    rw [perm_three] at htriple
    simp only [List.mem_cons, List.cons.injEq, List.not_mem_nil, and_true, or_false] at htriple
    rcases htriple with ⟨rfl, rfl, rfl⟩ | ⟨rfl, rfl, rfl⟩ | ⟨rfl, rfl, rfl⟩ | ⟨rfl, rfl, rfl⟩ |
      ⟨rfl, rfl, rfl⟩ | ⟨rfl, rfl, rfl⟩ <;>
      exact ⟨_, _, add_entry hwhole rfl, add_entry hwhole rfl, add_entry hwhole rfl, hwhole⟩

theorem groups_eq_ok_iff : ComponentCaps.groups l = .ok groups ↔ Triples l groups := by
  constructor
  · intro h
    induction l using ComponentCaps.groups.induct generalizing groups with
    | case1 =>
      cases h
      exact .nil
    | case2 a => cases h
    | case3 a b => cases h
    | case4 a b c rest ih =>
      rw [ComponentCaps.groups] at h
      obtain ⟨caps, hcaps, h⟩ := bind_eq_ok_iff.1 h
      obtain ⟨others, hothers, h⟩ := bind_eq_ok_iff.1 h
      cases h
      obtain ⟨htriple, hwhole⟩ := ofTriple_eq_ok_iff.1 hcaps
      exact .cons htriple hwhole (ih hothers)
  · intro h
    induction h with
    | nil => rfl
    | cons triple whole _ ih =>
      rw [ComponentCaps.groups, ofTriple_eq_ok_iff.2 ⟨triple, whole⟩, ih]
      rfl

end ComponentCaps

/-! ### Consistent manifests -/

/-- One of the slots `1` to `capacity`. -/
abbrev IsSlot (n capacity : Nat) : Prop := 1 ≤ n ∧ n ≤ capacity

/-- The pages of all regions together. -/
def pagesOf (regions : List SharedRegion) : Nat := (regions.map fun r => r.size.toNat).sum

namespace Manifest

/-- The broker and the components whose capabilities are replayed. -/
def members (s : Settings) (groups : List ComponentCaps) : List ComponentId :=
  s.selfId :: groups.map ComponentCaps.component

/-- The manifest is consistent with the settings and the machine, and replays the
capabilities in `groups`. -/
structure Consistent (m : Manifest) (s : Settings) (l : Kernel.Layout)
    (groups : List ComponentCaps) : Prop where
  tableEnd : s.captblFree ≤ m.captblEnd
  executions : ∀ e ∈ m.execute, e.2 = "sched" ∨ e.2 = "init"
  replays : ComponentCaps.Triples m.captbl groups
  slots : ∀ id ∈ members s groups, IsSlot id.number.toNat s.maxComponents.toNat
  apart : (members s groups).Nodup
  named : ∀ caps ∈ groups, (m.name? caps.component).isSome = true
  sharers : ∀ id ∈ m.sharedAddressSpace, id ∈ members s groups
  regions : ∀ r ∈ m.sharedRegions, IsSlot r.id.toNat s.maxSpans.toNat
  regionsApart : (m.sharedRegions.map SharedRegion.id).Nodup
  sizes : ∀ r ∈ m.sharedRegions, 1 ≤ r.size.toNat
  pages : pagesOf m.sharedRegions ≤ s.maxPages.toNat
  frames : pagesOf m.sharedRegions + s.contigPages.toNat ≤ l.physFrames

end Manifest

end CapabilityBroker
