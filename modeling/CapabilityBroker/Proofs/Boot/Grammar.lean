/-
CapabilityBroker/Proofs/Boot/Grammar.lean

The grammar of the replayed capabilities, and what is reported outside it.

A list of entries is in the grammar if it is a row of triples
(`ComponentCaps.Triples`).  For every other list, `ComponentCaps.FirstFlaw` says
which flaw comes first: the first triple that is not a component's three
capabilities decides, within it the first entry that is flawed by itself, and
only if there is none the triple as a whole.  The parser does not keep track of
the kinds that it has seen.  It starts from three null capabilities, lets a later
entry overwrite an earlier one of its kind, and takes a slot that is still null
for a missing kind; this is sound because an entry with a null capability never
gets that far (`complete_iff_kinds`).
-/
import CapabilityBroker.Proofs.Boot.Manifest

namespace CapabilityBroker

/-! ### One entry -/

theorem bind_eq_error_iff {ε α β : Type} {x : Except ε α} {f : α → Except ε β} {why : ε} :
    (x >>= f) = .error why ↔ x = .error why ∨ ∃ a, x = .ok a ∧ f a = .error why := by
  cases x with
  | error why' =>
    constructor
    · intro h
      cases h
      exact .inl rfl
    · rintro (h | ⟨_, h, _⟩)
      · cases h
        rfl
      · cases h
  | ok a =>
    constructor
    · intro h
      exact .inr ⟨a, rfl, h⟩
    · rintro (h | ⟨_, h, hf⟩)
      · cases h
      · cases h
        exact hf

namespace ReplayKind

variable {capid : UInt64} {text : String} {flaw : Flaw}

/-- The kinds that a manifest may write. -/
def texts : List String := ["comp", "captbl", "pgtbl"]

theorem mem_texts : text ∈ texts ↔ ∃ kind : ReplayKind, text = kind.text := by
  unfold texts
  simp only [List.mem_cons, List.not_mem_nil, or_false]
  constructor
  · rintro (h | h | h)
    · exact ⟨.comp, h⟩
    · exact ⟨.captbl, h⟩
    · exact ⟨.pgtbl, h⟩
  · rintro ⟨kind, rfl⟩
    cases kind with
    | comp => exact .inl rfl
    | captbl => exact .inr (.inl rfl)
    | pgtbl => exact .inr (.inr rfl)

theorem ofText_eq_error_iff :
    ofText capid text = .error flaw ↔ text ∉ texts ∧ flaw = .unknownCapType capid text := by
  cases h : ofText capid text with
  | ok kind =>
    have hmem : text ∈ texts := mem_texts.2 ⟨kind, ofText_eq_ok_iff.1 h⟩
    simp [hmem]
  | error why =>
    have hno : text ∉ texts := by
      intro hmem
      obtain ⟨kind, hkind⟩ := mem_texts.1 hmem
      cases h.symm.trans (ofText_eq_ok_iff.2 hkind)
    have hwhy : why = .unknownCapType capid text := by
      unfold ofText at h
      split_ifs at h
      cases h
      rfl
    simp [hno, hwhy, eq_comm]

end ReplayKind

namespace ReplayEntry

/-- Nothing is wrong with an entry for the component by itself. -/
structure Sound (component : ComponentId) (e : ReplayEntry) : Prop where
  capid : e.capid ≠ 0
  target : e.target = component.number
  kind : e.kind ∈ ReplayKind.texts

/-- What is wrong with an entry for the component: its capability is judged
before its target, and its target before its kind. -/
inductive Flawed (component : ComponentId) (e : ReplayEntry) : Flaw → Prop where
  | null (capid : e.capid = 0) : Flawed component e .invalidCapId
  | foreign (capid : e.capid ≠ 0) (target : e.target ≠ component.number) :
      Flawed component e (.inconsistentCaptbl e.capid component ⟨e.target⟩)
  | unknown (capid : e.capid ≠ 0) (target : e.target = component.number)
      (kind : e.kind ∉ ReplayKind.texts) : Flawed component e (.unknownCapType e.capid e.kind)

/-- What is wrong with the first flawed entry of a list. -/
inductive FirstFlawed (component : ComponentId) : List ReplayEntry → Flaw → Prop where
  | here {e : ReplayEntry} {rest : List ReplayEntry} {flaw : Flaw}
      (flawed : e.Flawed component flaw) : FirstFlawed component (e :: rest) flaw
  | behind {e : ReplayEntry} {rest : List ReplayEntry} {flaw : Flaw} (sound : e.Sound component)
      (flawed : FirstFlawed component rest flaw) : FirstFlawed component (e :: rest) flaw

end ReplayEntry

/-! ### Three entries -/

namespace ComponentCaps

open ReplayEntry (Sound Flawed FirstFlawed)

variable {component : ComponentId} {caps caps' : ComponentCaps} {e a b c : ReplayEntry}
  {l rest : List ReplayEntry} {flaw : Flaw}

theorem component_set {capid : UInt64} {kind : ReplayKind} :
    (caps.set capid kind).component = caps.component := by
  cases kind <;> rfl

/-- What is added is sound, and the component at hand stays. -/
theorem sound_of_add (h : caps.add e = .ok caps') :
    e.Sound caps.component ∧ caps'.component = caps.component := by
  obtain ⟨hcapid, htarget, kind, hkind, rfl⟩ := add_eq_ok_iff.1 h
  exact ⟨⟨hcapid, htarget, ReplayKind.mem_texts.2 ⟨kind, hkind⟩⟩, component_set⟩

/-- What is sound is added under its kind. -/
theorem add_of_sound (h : e.Sound component) (caps : ComponentCaps)
    (hcaps : caps.component = component) :
    ∃ kind : ReplayKind, e.kind = kind.text ∧ caps.add e = .ok (caps.set e.capid kind) := by
  obtain ⟨kind, hkind⟩ := ReplayKind.mem_texts.1 h.kind
  rw [← hcaps] at h
  exact ⟨kind, hkind, add_eq_ok_iff.2 ⟨h.capid, h.target, kind, hkind, rfl⟩⟩

theorem add_eq_error_iff : caps.add e = .error flaw ↔ e.Flawed caps.component flaw := by
  have hmap : (ReplayKind.ofText e.capid e.kind).map (caps.set e.capid) = .error flaw ↔
      e.kind ∉ ReplayKind.texts ∧ flaw = .unknownCapType e.capid e.kind := by
    rw [← ReplayKind.ofText_eq_error_iff]
    cases ReplayKind.ofText e.capid e.kind <;> simp [Except.map]
  unfold add
  constructor
  · intro h
    split at h
    · next hcapid =>
      cases h
      exact .null hcapid
    · next hcapid =>
      split at h
      · next htarget =>
        cases h
        exact .foreign hcapid htarget
      · next htarget =>
        obtain ⟨hkind, rfl⟩ := hmap.1 h
        exact .unknown hcapid (not_not.1 htarget) hkind
  · intro h
    cases h with
    | null hcapid => rw [if_pos hcapid]
    | foreign hcapid htarget => rw [if_neg hcapid, if_pos htarget]
    | unknown hcapid htarget hkind =>
      rw [if_neg hcapid, if_neg (not_not_intro htarget)]
      exact hmap.2 ⟨hkind, rfl⟩

/-- A list of entries is read until the first of them that is flawed. -/
theorem foldlM_add_eq_error_iff :
    l.foldlM add caps = .error flaw ↔ FirstFlawed caps.component l flaw := by
  induction l generalizing caps with
  | nil => exact ⟨nofun, nofun⟩
  | cons e l ih =>
    rw [List.foldlM_cons, bind_eq_error_iff, add_eq_error_iff]
    constructor
    · rintro (hflawed | ⟨caps', hadd, h⟩)
      · exact .here hflawed
      · obtain ⟨hsound, hcomponent⟩ := sound_of_add hadd
        exact .behind hsound (hcomponent ▸ ih.1 h)
    · intro h
      cases h with
      | here hflawed => exact .inl hflawed
      | behind hsound hflawed =>
        obtain ⟨kind, _, hadd⟩ := add_of_sound hsound caps rfl
        refine .inr ⟨_, hadd, ih.2 ?_⟩
        rw [component_set]
        exact hflawed

theorem sound_of_foldlM_add (h : l.foldlM add caps = .ok caps') :
    ∀ e ∈ l, e.Sound caps.component := by
  induction l generalizing caps with
  | nil => nofun
  | cons e l ih =>
    rw [List.foldlM_cons] at h
    obtain ⟨caps₁, hadd, hrest⟩ := bind_eq_ok_iff.1 h
    obtain ⟨hsound, hcomponent⟩ := sound_of_add hadd
    exact List.forall_mem_cons.2 ⟨hsound, hcomponent ▸ ih hrest⟩

/-- A slot that is still null after three capabilities that are not tells that a
kind is missing, and with three of them that another one came twice. -/
theorem complete_iff_kinds {x y z : UInt64} {kx ky kz : ReplayKind} (hx : x ≠ 0) (hy : y ≠ 0)
    (hz : z ≠ 0) :
    ((((start component).set x kx).set y ky).set z kz).complete = true ↔
      component.number ≠ 0 ∧ [kx.text, ky.text, kz.text].Perm ReplayKind.texts := by
  unfold complete ComponentId.isSome ReplayKind.texts
  rw [perm_three]
  cases kx <;> cases ky <;> cases kz <;> simp [start, set, ReplayKind.text, hx, hy, hz]

/-- What is wrong with three entries: the first flaw of an entry by itself, and
only then that they do not make up the capabilities of a component. -/
inductive FlawedTriple (a b c : ReplayEntry) : Flaw → Prop where
  | entry {flaw : Flaw} (flawed : FirstFlawed ⟨a.target⟩ [a, b, c] flaw) : FlawedTriple a b c flaw
  | whole (sound : ∀ e ∈ [a, b, c], e.Sound ⟨a.target⟩)
      (incomplete : a.target = 0 ∨ ¬ [a.kind, b.kind, c.kind].Perm ReplayKind.texts) :
      FlawedTriple a b c (.incompleteCaptbl ⟨a.target⟩)

/-- Three sound entries are all read. -/
theorem exists_foldlM_add_three (h : ∀ e ∈ [a, b, c], e.Sound component) :
    ∃ caps, [a, b, c].foldlM add (start component) = .ok caps ∧ caps.component = component ∧
      (caps.complete = true ↔
        component.number ≠ 0 ∧ [a.kind, b.kind, c.kind].Perm ReplayKind.texts) := by
  simp only [List.forall_mem_cons] at h
  obtain ⟨ha, hb, hc, _⟩ := h
  obtain ⟨ka, hka, hadda⟩ := add_of_sound ha (start component) rfl
  obtain ⟨kb, hkb, haddb⟩ := add_of_sound hb ((start component).set a.capid ka) component_set
  obtain ⟨kc, hkc, haddc⟩ := add_of_sound hc (((start component).set a.capid ka).set b.capid kb)
    (component_set.trans component_set)
  refine ⟨(((start component).set a.capid ka).set b.capid kb).set c.capid kc, ?_, ?_, ?_⟩
  · rw [List.foldlM_cons, hadda, bind_eq_ok_iff]
    refine ⟨_, rfl, ?_⟩
    rw [List.foldlM_cons, haddb, bind_eq_ok_iff]
    refine ⟨_, rfl, ?_⟩
    rw [List.foldlM_cons, haddc]
    rfl
  · rw [component_set, component_set, component_set]
    rfl
  · rw [hka, hkb, hkc]
    exact complete_iff_kinds ha.capid hb.capid hc.capid

/-- They are judged as a whole. -/
theorem ofTriple_eq_error_of_sound (h : ∀ e ∈ [a, b, c], e.Sound ⟨a.target⟩) :
    ofTriple a b c = .error flaw ↔
      flaw = .incompleteCaptbl ⟨a.target⟩ ∧
        (a.target = 0 ∨ ¬ [a.kind, b.kind, c.kind].Perm ReplayKind.texts) := by
  obtain ⟨caps, hcaps, hcomponent, hcomplete⟩ := exists_foldlM_add_three h
  have hincomplete : (a.target = 0 ∨ ¬ [a.kind, b.kind, c.kind].Perm ReplayKind.texts) ↔
      ¬ caps.complete = true := by
    rw [hcomplete, not_and_or, not_ne_iff]
  unfold ofTriple
  rw [hcaps, hincomplete, ← hcomponent]
  show (if caps.complete then Except.ok caps
    else Except.error (Flaw.incompleteCaptbl caps.component)) = _ ↔ _
  by_cases hdone : caps.complete = true
  · simp [hdone]
  · simp only [hdone, Bool.false_eq_true, if_false, Except.error.injEq, not_false_eq_true, and_true]
    exact eq_comm

theorem ofTriple_eq_error_iff : ofTriple a b c = .error flaw ↔ FlawedTriple a b c flaw := by
  constructor
  · intro h
    by_cases hsound : ∀ e ∈ [a, b, c], e.Sound ⟨a.target⟩
    · obtain ⟨rfl, hincomplete⟩ := (ofTriple_eq_error_of_sound hsound).1 h
      exact .whole hsound hincomplete
    · rcases bind_eq_error_iff.1 h with hflawed | ⟨caps, hcaps, _⟩
      · exact .entry (foldlM_add_eq_error_iff.1 hflawed)
      · exact absurd (sound_of_foldlM_add hcaps) hsound
  · intro h
    cases h with
    | entry hflawed => exact bind_eq_error_iff.2 (.inl (foldlM_add_eq_error_iff.2 hflawed))
    | whole hsound hincomplete =>
      exact (ofTriple_eq_error_of_sound hsound).2 ⟨rfl, hincomplete⟩

/-! ### The whole list -/

/-- What is wrong with the first part of a list that is not a triple: it is
flawed, or there are fewer than three entries left. -/
inductive FirstFlaw : List ReplayEntry → Flaw → Prop where
  | one (a : ReplayEntry) : FirstFlaw [a] (.incompleteCaptbl ⟨a.target⟩)
  | two (a b : ReplayEntry) : FirstFlaw [a, b] (.incompleteCaptbl ⟨a.target⟩)
  | triple {a b c : ReplayEntry} {rest : List ReplayEntry} {flaw : Flaw}
      (flawed : FlawedTriple a b c flaw) : FirstFlaw (a :: b :: c :: rest) flaw
  | behind {a b c : ReplayEntry} {rest : List ReplayEntry} {caps : ComponentCaps} {flaw : Flaw}
      (triple : [a, b, c].Perm caps.entries) (whole : caps.Whole) (flawed : FirstFlaw rest flaw) :
      FirstFlaw (a :: b :: c :: rest) flaw

theorem groups_eq_error_iff : groups l = .error flaw ↔ FirstFlaw l flaw := by
  constructor
  · intro h
    induction l using groups.induct with
    | case1 => cases h
    | case2 a =>
      cases h
      exact .one a
    | case3 a b =>
      cases h
      exact .two a b
    | case4 a b c rest ih =>
      rw [groups] at h
      rcases bind_eq_error_iff.1 h with hflawed | ⟨caps, hcaps, h⟩
      · exact .triple (ofTriple_eq_error_iff.1 hflawed)
      · obtain ⟨htriple, hwhole⟩ := ofTriple_eq_ok_iff.1 hcaps
        rcases bind_eq_error_iff.1 h with hrest | ⟨_, _, h⟩
        · exact .behind htriple hwhole (ih hrest)
        · cases h
  · intro h
    induction h with
    | one a => rfl
    | two a b => rfl
    | triple flawed =>
      rw [groups, ofTriple_eq_error_iff.2 flawed]
      rfl
    | behind triple whole _ ih =>
      rw [groups, ofTriple_eq_ok_iff.2 ⟨triple, whole⟩, ih]
      rfl

end ComponentCaps

/-! ### The replayed capabilities of a manifest -/

/-- For every list of entries that a manifest may hold: the capabilities are
read exactly if the list is a row of triples, each one for a component and with
one capability of each kind in any order, and what is read is one record for
each triple, in order, with its capabilities under their kinds; and what is
reported of any other list is the first flaw of its first part that is no
triple. -/
theorem Manifest.componentCaps_accepts_triples (m : Manifest) :
    (∀ groups, m.componentCaps = .ok groups ↔ ComponentCaps.Triples m.captbl groups) ∧
    (∀ flaw, m.componentCaps = .error flaw ↔ ComponentCaps.FirstFlaw m.captbl flaw) := by
  constructor
  · intro groups
    exact ComponentCaps.groups_eq_ok_iff
  · intro flaw
    exact ComponentCaps.groups_eq_error_iff

/-- A kind that comes twice is no flaw of an entry, but the third kind is
missing; a null capability in front of it is reported in its place. -/
example :
    ComponentCaps.ofTriple ⟨10, "comp", 5⟩ ⟨11, "comp", 5⟩ ⟨12, "pgtbl", 5⟩ =
        .error (.incompleteCaptbl ⟨5⟩) ∧
      ComponentCaps.ofTriple ⟨0, "comp", 5⟩ ⟨11, "comp", 5⟩ ⟨12, "pgtbl", 5⟩ =
        .error .invalidCapId := by
  constructor <;> rfl

end CapabilityBroker
