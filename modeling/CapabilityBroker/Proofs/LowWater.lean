/-
CapabilityBroker/Proofs/LowWater.lean

Nobody sees the low-water mark.

A pool that is searched from its low-water mark on, and that counts its
objects as they come and go, gives the same replies as a plain pool, which
does neither: to any uses, in any order, by callers who hand in the
reservations that they hold.  It gives them with all its sums checked to be
machine words, too, and publishing never finds a reservation that the pool
has lost.

`FindsFirst` says what the replies are: the least free slot, the least run,
and refusals exactly where there is none.
-/
import Mathlib.Order.Interval.Finset.Nat
import CapabilityBroker.Proofs.Pool.Checked

namespace CapabilityBroker.Pool

variable {α : Type} {p : Pool α} {i count : Nat}

/-! ### What is there to be found -/

/-- The slots that are free. -/
def vacant (p : Pool α) : Set Nat := {i | 1 ≤ i ∧ i ≤ p.capacity ∧ p.isFree i = true}

/-- The slots from which `count` slots are free. -/
def vacantRuns (p : Pool α) (count : Nat) : Set Nat :=
  {start | 1 ≤ start ∧ start + count ≤ p.capacity + 1 ∧
    ∀ i, start ≤ i → i < start + count → p.isFree i = true}

theorem find?_range'_eq_some_iff_isLeast {q : Nat → Bool} {n i : Nat} :
    (List.range' 1 n).find? q = some i ↔ IsLeast {i | 1 ≤ i ∧ i ≤ n ∧ q i = true} i := by
  rw [List.find?_range'_eq_some, List.mem_range'_1]
  constructor
  · rintro ⟨hq, hi, hfirst⟩
    refine ⟨⟨hi.1, by omega, hq⟩, fun j ⟨hj, _, hqj⟩ => Nat.le_of_not_lt fun hlt => ?_⟩
    have hnot := hfirst j hj hlt
    rw [hqj] at hnot
    cases hnot
  · rintro ⟨⟨hpos, hle, hq⟩, hleast⟩
    refine ⟨hq, by omega, fun j hj hlt => ?_⟩
    rw [Bool.not_eq_true', Bool.eq_false_iff]
    intro hqj
    have hij : i ≤ j := hleast ⟨hj, by omega, hqj⟩
    omega

theorem find?_range'_eq_none_iff_empty {q : Nat → Bool} {n : Nat} :
    (List.range' 1 n).find? q = none ↔ {i | 1 ≤ i ∧ i ≤ n ∧ q i = true} = (∅ : Set Nat) := by
  rw [List.find?_eq_none, Set.eq_empty_iff_forall_notMem]
  simp only [List.mem_range'_1]
  constructor
  · rintro hnone i ⟨hpos, hle, hq⟩
    exact hnone i (by omega) hq
  · intro hnone i hi hq
    exact hnone i ⟨hi.1, by omega, hq⟩

theorem vacantRuns_eq (p : Pool α) (count : Nat) : p.vacantRuns count =
    {start | 1 ≤ start ∧ start ≤ p.capacity + 1 - count ∧ p.freeRun count start = true} := by
  refine Set.ext fun start => ?_
  show _ ∧ _ ↔ _ ∧ _
  rw [freeRun_iff]
  refine and_congr_right fun hpos => and_congr_left fun _ => ?_
  omega

/-! ### What is found -/

namespace Regular

variable (h : p.Regular)

include h

theorem firstFree?_eq_some_iff :
    p.firstFree? (p.capacity + 1 - p.lowWater) p.lowWater = some i ↔ IsLeast p.vacant i := by
  rw [firstFree?_eq_first h.pos h.busy, find?_range'_eq_some_iff_isLeast]
  rfl

theorem firstFree?_eq_none_iff :
    p.firstFree? (p.capacity + 1 - p.lowWater) p.lowWater = none ↔ p.vacant = ∅ := by
  rw [firstFree?_eq_first h.pos h.busy, find?_range'_eq_none_iff_empty]
  rfl

theorem findRun?_eq_some_iff (hc : count ≠ 0) :
    p.findRun? count (p.capacity + 1) p.lowWater = some i ↔ IsLeast (p.vacantRuns count) i := by
  rw [findRun?_eq_first hc h.pos h.busy, find?_range'_eq_some_iff_isLeast, vacantRuns_eq]

theorem findRun?_eq_none_iff (hc : count ≠ 0) :
    p.findRun? count (p.capacity + 1) p.lowWater = none ↔ p.vacantRuns count = ∅ := by
  rw [findRun?_eq_first hc h.pos h.busy, find?_range'_eq_none_iff_empty, vacantRuns_eq]

end Regular

/-- The slots with objects. -/
def occupied (p : Pool α) : Finset Nat :=
  (Finset.Icc 1 p.capacity).filter fun i => (p.at? i).isSome

/-- Every allocation takes what comes first, and is refused only where there is
nothing to take; what is refused changes nothing. -/
structure Desk.FindsFirst (d : Desk (Pool α) α) : Prop where
  allocate :
    (∃ i, IsLeast d.pool.vacant i ∧
      d.reply serve .allocate = some (.ok (.reserved [d.pool.reservation i]))) ∨
    d.pool.vacant = ∅ ∧
      d.reply serve .allocate = some (.error (.refused (.exhausted d.pool.name)))
  allocateNone : d.reply serve (.allocateRun 0) = some (.ok (.reserved []))
  allocateRun : ∀ count, count ≠ 0 →
    (∃ start, IsLeast (d.pool.vacantRuns count) start ∧
      d.reply serve (.allocateRun count) = some (.ok (.reserved (d.pool.runOf start count)))) ∨
    d.pool.vacantRuns count = ∅ ∧
      d.reply serve (.allocateRun count) = some (.error (.refused (.exhausted d.pool.name)))
  allocateAt : ∀ index, d.reply serve (.allocateAt index) = some (
    if index = 0 ∨ d.pool.capacity < index then .error (.refused (.outOfRange d.pool.name index))
    else if d.pool.isFree index then .ok (.reserved [d.pool.reservation index])
    else .error (.refused (.occupied d.pool.name index)))
  count : d.reply serve .count = some (.ok (.counted d.pool.occupied.card))
  unchanged : ∀ use why, d.reply serve use = some (.error why) → d.next serve use = d

theorem Regular.active_eq_card (h : p.Regular) : p.active = p.occupied.card := by
  have hcard : p.occupied.card =
      ((List.range' 1 (p.capacity + 1 - 1)).filter fun i => (p.at? i).isSome = true).length := rfl
  rw [h.counted, hcard, Nat.add_sub_cancel]
  unfold objects
  rw [List.countP_eq_length_filter]
  simp only [Bool.decide_eq_true]

theorem vacantRuns_eq_empty (h : p.capacity < count) : p.vacantRuns count = ∅ :=
  Set.eq_empty_iff_forall_notMem.2 fun start hstart => by
    have hfits := hstart.2.1
    have hpos := hstart.1
    omega

namespace Desk.Sound

variable {d : Desk (Pool α) α}

/-- A use that is declined is no publication, as what is held is kept. -/
theorem declined (h : d.Sound) {use : Use α} {why : Stop Refusal} (ho : d.offers use = true)
    (hdeclined : Declined d.pool use why) : why ≠ .abort ∧ d.left use = d.held := by
  cases hdeclined with
  | unheld lost => exact absurd (h.holds _ (mem_held ho rfl)) lost
  | _ => exact ⟨nofun, rfl⟩

theorem findsFirst (h : d.Sound) : d.FindsFirst where
  allocate := by
    rcases ends (serve_leads .allocate) rfl with ⟨a, p, he, hreply, _⟩ | ⟨why, p, hd, hreply, _⟩
    · cases he with
      | allocate first => exact .inl ⟨_, h.regular.firstFree?_eq_some_iff.1 first, hreply⟩
    · cases hd.1 with
      | allocate full => exact .inr ⟨h.regular.firstFree?_eq_none_iff.1 full, hreply⟩
  allocateNone := rfl
  allocateRun count hc := by
    rcases ends (serve_leads (.allocateRun count)) rfl with
      ⟨a, p, he, hreply, _⟩ | ⟨why, p, hd, hreply, _⟩
    · cases he with
      | allocateNone => exact absurd rfl hc
      | allocateRun _ first => exact .inl ⟨_, (h.regular.findRun?_eq_some_iff hc).1 first, hreply⟩
    · cases hd.1 with
      | allocateRun _ full =>
        refine .inr ⟨?_, hreply⟩
        rcases full with hlong | hnone
        · exact vacantRuns_eq_empty hlong
        · exact (h.regular.findRun?_eq_none_iff hc).1 hnone
  allocateAt index := by
    rcases ends (serve_leads (.allocateAt index)) rfl with
      ⟨a, p, he, hreply, _⟩ | ⟨why, p, hd, hreply, _⟩
    · cases he with
      | allocateAt positive within free =>
        rw [if_neg (not_or.2 ⟨positive, Nat.not_lt.2 within⟩), if_pos free]
        exact hreply
    · cases hd.1 with
      | outOfRange outside =>
        rw [if_pos outside]
        exact hreply
      | occupied positive within busy =>
        rw [if_neg (not_or.2 ⟨positive, Nat.not_lt.2 within⟩), if_neg busy]
        exact hreply
  count := by
    rw [← h.regular.active_eq_card]
    rfl
  unchanged use why hreply := by
    by_cases ho : d.offers use = true
    · rcases ends (serve_leads use) ho with ⟨a, p, _, hreply', _⟩ | ⟨why', p, hd, _, hnext⟩
      · cases hreply'.symm.trans hreply
      · rw [hnext, hd.2, (h.declined ho hd.1).2]
    · exact next_of_not_offers ho

/-- Nobody's thread ends because of a pool. -/
theorem log_ne_abort (h : d.Sound) (uses : List (Use α)) :
    ∀ line ∈ d.log serve uses, line.2 ≠ some (.error .abort) := by
  induction uses generalizing d with
  | nil => exact nofun
  | cons use rest ih =>
    refine List.forall_mem_cons.2 ⟨fun habort => ?_, ih (h.next use)⟩
    have habort : d.reply serve use = some (.error .abort) := habort
    by_cases ho : d.offers use = true
    · rcases ends (serve_leads use) ho with ⟨a, p, _, hreply, _⟩ | ⟨why, p, hd, hreply, _⟩
      · cases hreply.symm.trans habort
      · cases hreply.symm.trans habort
        exact (h.declined ho hd.1).1 rfl
    · cases (reply_of_not_offers ho).symm.trans habort

end Desk.Sound

/-! ### The mark is invisible -/

/-- A pool of fewer than `2 ^ 32` slots replies to all uses as a plain pool of the
same size does, and as it does itself when all its numbers are checked; no reply
is an abort; and after any uses it takes what comes first. -/
theorem lowWater_invisible (name : String) {capacity : Nat} (hlimit : capacity < 2 ^ 32)
    (uses : List (Use α)) :
    Desk.log Plain.serve ⟨.create name capacity, []⟩ uses =
        Desk.log serve ⟨create name capacity, []⟩ uses ∧
      Desk.log checked ⟨create name capacity, []⟩ uses =
        Desk.log serve ⟨create name capacity, []⟩ uses ∧
      (∀ line ∈ Desk.log serve ⟨create name capacity, []⟩ uses, line.2 ≠ some (.error .abort)) ∧
      (Desk.run serve ⟨create name capacity, []⟩ uses).FindsFirst := by
  have hsound : (Desk.opened name capacity : Desk (Pool α) α).Sound :=
    Desk.sound_opened name capacity
  have hplain : (create name capacity : Pool α).plain = .create name capacity :=
    (plain_eq rfl rfl fun i => (entry_create name capacity i).symm).symm
  refine ⟨?_, checked_follows.log_eq hsound hlimit uses, hsound.log_ne_abort uses,
    (hsound.run uses).findsFirst⟩
  rw [← hplain]
  exact plain_follows.log_eq hsound hlimit uses

/-- A slot that becomes free behind the mark is found again, and a run goes
behind the slots that are busy. -/
theorem freed_slot_found_again :
    let uses : List (Use Nat) := [.allocateRun 3, .activate ⟨2, 0⟩ 7, .free ⟨2, 0⟩,
      .allocateRun 2, .allocate, .drop ⟨1, 0⟩]
    5 < 2 ^ 32 ∧
      Desk.log Plain.serve ⟨.create "page" 5, []⟩ uses =
        Desk.log serve ⟨create "page" 5, []⟩ uses ∧
      (Desk.run serve ⟨create "page" 5, []⟩ (uses.take 3)).reply serve (.allocateRun 2) =
        some (.ok (.reserved [⟨4, 0⟩, ⟨5, 0⟩])) ∧
      (Desk.run serve ⟨create "page" 5, []⟩ uses).reply serve .allocate =
        some (.ok (.reserved [⟨1, 1⟩])) :=
  ⟨by decide, (lowWater_invisible "page" (by decide) _).1, rfl, rfl⟩

end CapabilityBroker.Pool
