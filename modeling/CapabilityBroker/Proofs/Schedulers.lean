/-
CapabilityBroker/Proofs/Schedulers.lean

The table of schedulers and the manifest that it is built from.

The manifest itself answers who schedules a component by looking into its two
sections each time (`Manifest.resolve?`).  The table is built once, by a fold
over the ids of both sections, and an id that stands in both is entered twice.
One entry says what the manifest says about its id and leaves the others alone
(`getElem?_enter`); by induction on the ids the fold has entered all of them
(`getElem?_foldl_enter`), and whom the manifest gives a scheduler is among them
(`mem_of_isSome`).  So the table and the manifest give the same answers
(`of?_ofManifest`).
-/
import Mathlib.Data.Set.Card
import Mathlib.Tactic.ByContra
import CapabilityBroker.Manifest.Schedulers

namespace CapabilityBroker

/-! ### What the manifest says -/

namespace Manifest

/-- The scheduler that a section names for a component; id 0 names nobody. -/
def named? (hierarchy : NumberTable UInt64) (id : ComponentId) : Option ComponentId :=
  (hierarchy[id.number]?.filter (· ≠ 0)).map ComponentId.mk

/-- The scheduler of a component: whom the direct section names, or else whom
the hierarchical one names. -/
def resolve? (m : Manifest) (id : ComponentId) : Option ComponentId :=
  (named? m.initHierarchy id).or (named? m.schedulerHierarchy id)

/-- The manifest resolves the scheduler of the client to `sched`. -/
def Schedules (m : Manifest) (sched client : ComponentId) : Prop :=
  m.assignedScheduler client = sched ∧ sched.isSome = true

instance {m : Manifest} {sched client : ComponentId} : Decidable (m.Schedules sched client) :=
  inferInstanceAs (Decidable (_ ∧ _))

variable {m : Manifest} {hierarchy : NumberTable UInt64} {id sched client : ComponentId}

/-- An id that is not in a section is as good as one with entry 0. -/
theorem named?_eq :
    named? hierarchy id =
      if hierarchy[id.number]?.getD 0 = 0 then none else some ⟨hierarchy[id.number]?.getD 0⟩ := by
  unfold named?
  cases hierarchy[id.number]? with
  | none => rfl
  | some number =>
    by_cases hn : number = 0
    · simp [hn]
    · simp [hn]

theorem resolve?_eq :
    m.resolve? id =
      if (m.assignedScheduler id).isSome then some (m.assignedScheduler id) else none := by
  unfold resolve? assignedScheduler directScheduler hierarchicalScheduler ComponentId.isSome
  rw [named?_eq, named?_eq]
  by_cases hd : m.initHierarchy[id.number]?.getD 0 = 0
  · by_cases hf : m.schedulerHierarchy[id.number]?.getD 0 = 0
    · simp [hd, hf]
    · simp [hd, hf]
  · simp [hd]

theorem resolve?_eq_some_iff : m.resolve? client = some sched ↔ m.Schedules sched client := by
  rw [resolve?_eq]
  unfold Schedules
  by_cases hs : (m.assignedScheduler client).isSome = true
  · rw [if_pos hs, Option.some.injEq]
    exact ⟨fun h => ⟨h, h ▸ hs⟩, And.left⟩
  · rw [if_neg hs]
    constructor
    · nofun
    · rintro ⟨rfl, h⟩
      exact absurd h hs

/-- Id 0 schedules nobody. -/
theorem resolve?_ne_none : m.resolve? client ≠ some .none := by
  intro h
  cases (resolve?_eq_some_iff.1 h).2

end Manifest

/-! ### What the table says -/

namespace Schedulers

variable {m : Manifest} {id sched client : ComponentId}

theorem getElem?_enter (table : Std.ExtTreeMap ComponentId ComponentId) (id' : ComponentId) :
    (enter m table id')[id]? =
      if id' = id ∧ (m.assignedScheduler id).isSome then some (m.assignedScheduler id)
      else table[id]? := by
  unfold enter
  by_cases hs : (m.assignedScheduler id').isSome
  · simp only [hs, if_true, Std.ExtTreeMap.getElem?_insert, Std.LawfulEqCmp.compare_eq_iff_eq]
    by_cases hid : id' = id
    · subst hid
      simp [hs]
    · simp [hid]
  · by_cases hid : id' = id
    · subst hid
      simp [hs]
    · simp [hs, hid]

theorem getElem?_foldl_enter (ids : List ComponentId)
    (table : Std.ExtTreeMap ComponentId ComponentId) :
    (ids.foldl (enter m) table)[id]? =
      if id ∈ ids ∧ (m.assignedScheduler id).isSome then some (m.assignedScheduler id)
      else table[id]? := by
  induction ids generalizing table with
  | nil => simp
  | cons id' ids ih =>
    rw [List.foldl_cons, ih, getElem?_enter]
    by_cases hid : id' = id
    · subst hid
      by_cases hs : (m.assignedScheduler id').isSome = true
      · simp [hs]
      · simp [hs]
    · have hid' : id ≠ id' := Ne.symm hid
      simp [hid, hid']

/-- Who has a scheduler is in one of the two hierarchies. -/
theorem mem_of_isSome (h : (m.assignedScheduler id).isSome = true) :
    id ∈ (m.initHierarchy.keys ++ m.schedulerHierarchy.keys).map ComponentId.mk := by
  obtain ⟨number⟩ := id
  have hmem : number ∈ m.initHierarchy ∨ number ∈ m.schedulerHierarchy := by
    by_contra hno
    obtain ⟨hdirect, hfill⟩ := not_or.1 hno
    have hassigned : m.assignedScheduler ⟨number⟩ = ⟨0⟩ := by
      unfold Manifest.assignedScheduler Manifest.directScheduler Manifest.hierarchicalScheduler
      rw [Std.ExtTreeMap.getElem?_eq_none hdirect, Std.ExtTreeMap.getElem?_eq_none hfill]
      rfl
    rw [hassigned] at h
    cases h
  refine List.mem_map.2 ⟨number, List.mem_append.2 ?_, rfl⟩
  exact hmem.imp Std.ExtTreeMap.mem_keys.2 Std.ExtTreeMap.mem_keys.2

/-- The table says what the manifest says. -/
theorem of?_ofManifest : (ofManifest m).of? id = m.resolve? id := by
  unfold of? ofManifest
  dsimp only
  rw [getElem?_foldl_enter, Manifest.resolve?_eq]
  by_cases hs : (m.assignedScheduler id).isSome = true
  · rw [if_pos ⟨mem_of_isSome hs, hs⟩, if_pos hs]
  · rw [if_neg fun h => hs h.2, if_neg hs]
    exact Std.ExtTreeMap.getElem?_empty

theorem isSchedulerOf_eq_true_iff {s : Schedulers} :
    s.isSchedulerOf sched client = true ↔ s.of? client = some sched :=
  beq_iff_eq

theorem isSchedulerOf_ofManifest :
    (ofManifest m).isSchedulerOf sched client = true ↔ m.Schedules sched client := by
  rw [isSchedulerOf_eq_true_iff, of?_ofManifest, Manifest.resolve?_eq_some_iff]

/-- The size of a table counts the components that it has a scheduler for. -/
theorem size_eq_ncard (s : Schedulers) : s.size = {id | (s.of? id).isSome}.ncard := by
  have hkeys : {id | (s.of? id).isSome} = ↑s.owners.keys.toFinset := by
    ext id
    rw [Set.mem_ofPred_eq, List.coe_toFinset, Set.mem_ofPred_eq, Std.ExtTreeMap.mem_keys]
    exact Std.ExtTreeMap.isSome_getElem?_iff_mem
  have hnodup : s.owners.keys.Nodup := Std.ExtTreeMap.nodup_keys
  rw [hkeys, Set.ncard_coe_finset, List.toFinset_card_of_nodup hnodup, Std.ExtTreeMap.length_keys]
  rfl

/-! ### The table is live resolution -/

/-- For every manifest, whatever its two sections hold: the table gives every
id the scheduler that the manifest resolves it to; a component passes for a
scheduler exactly of those whom the manifest resolves to it, so id 0 for one of
nobody; and the size of the table is the number of ids that have a scheduler. -/
theorem table_is_live_resolution (m : Manifest) :
    (∀ id, (ofManifest m).of? id = m.resolve? id) ∧
    (∀ sched client,
      (ofManifest m).isSchedulerOf sched client = true ↔ m.resolve? client = some sched) ∧
    (∀ client, (ofManifest m).isSchedulerOf .none client = false) ∧
    (ofManifest m).size = {id | (m.resolve? id).isSome}.ncard := by
  have hiff : ∀ sched client,
      (ofManifest m).isSchedulerOf sched client = true ↔ m.resolve? client = some sched := by
    intro sched client
    rw [isSchedulerOf_eq_true_iff, of?_ofManifest]
  have hnobody : ∀ client, (ofManifest m).isSchedulerOf .none client = false := by
    intro client
    apply Bool.eq_false_iff.2
    intro h
    exact Manifest.resolve?_ne_none ((hiff _ _).1 h)
  have hsize : (ofManifest m).size = {id | (m.resolve? id).isSome}.ncard := by
    rw [size_eq_ncard]
    simp only [of?_ofManifest]
  exact ⟨fun id => of?_ofManifest, hiff, hnobody, hsize⟩

/-- The direct section wins, an entry 0 leaves the component to the other one,
and an id that stands in both counts once. -/
example :
    let m : Manifest := { Manifest.empty with
      initHierarchy := .ofList [((5 : UInt64), (8 : UInt64)), (7, 0)]
      schedulerHierarchy := .ofList [((5 : UInt64), (6 : UInt64)), (7, 6), (9, 0)] }
    (ofManifest m).of? ⟨5⟩ = some ⟨8⟩ ∧ (ofManifest m).of? ⟨7⟩ = some ⟨6⟩ ∧
      (ofManifest m).of? ⟨9⟩ = none ∧ (ofManifest m).size = 2 := by
  decide +kernel

end Schedulers

end CapabilityBroker
