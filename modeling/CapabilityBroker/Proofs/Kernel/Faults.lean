/-
CapabilityBroker/Proofs/Kernel/Faults.lean

Faults fire as planned.

Asking for one fault after another takes them out of the plan one by one.  What
is pending then is the plan without what was asked for (`pending_after`), so
whether a fault fires depends on how often it is planned and how often it was
asked for before, and on no other fault (`answersTo_eq`).  The first occurrences
fire first: the occurrences that are left are those behind as many others as have
fired (`unfired`), in the order of the plan.
-/
import Mathlib.Data.List.Basic
import CapabilityBroker.Kernel.Fault

namespace CapabilityBroker.Kernel.Faults

variable {s : Faults} {fault other : Fault} {plan asked : List Fault}

/-! ### Asking for many faults -/

/-- The faults after others were asked for, one after another. -/
def after (s : Faults) (asked : List Fault) : Faults :=
  asked.foldl (fun s fault => (s.take fault).2) s

/-- Which of the faults that are asked for fire. -/
def answers (s : Faults) : List Fault → List Bool
  | [] => []
  | fault :: asked => (s.take fault).1 :: (s.take fault).2.answers asked

/-- The answers to those that ask for one fault, in order. -/
def answersTo (s : Faults) (fault : Fault) (asked : List Fault) : List Bool :=
  ((asked.zip (s.answers asked)).filter fun p => p.1 = fault).map Prod.snd

/-- How often a fault fires. -/
def firings (s : Faults) (asked : List Fault) (fault : Fault) : Nat :=
  (s.answersTo fault asked).count true

/-- A plan without the occurrences of each fault that have fired, which are the
first ones: an occurrence is left if as many others stand before it. -/
def unfired (fired : Fault → Nat) (plan : List Fault) : List Fault :=
  (plan.zipIdx.filter fun p => fired p.1 ≤ (plan.take p.2).count p.1).map Prod.fst

theorem answersTo_cons : s.answersTo fault (other :: asked) =
    if other = fault then (s.take other).1 :: (s.take other).2.answersTo fault asked
    else (s.take other).2.answersTo fault asked := by
  have hcons : s.answers (other :: asked) = (s.take other).1 :: (s.take other).2.answers asked := rfl
  unfold answersTo
  rw [hcons, List.zip_cons_cons, List.filter_cons]
  by_cases h : other = fault
  · simp [h]
  · simp [h]

/-! ### One question -/

/-- A fault fires if it is pending. -/
theorem take_fst : (s.take fault).1 = decide (fault ∈ s.pending) := by
  unfold take
  split
  · next h => exact (decide_eq_true h).symm
  · next h => exact (decide_eq_false h).symm

/-- Its first occurrence is then gone. -/
theorem take_pending : (s.take fault).2.pending = s.pending.erase fault := by
  unfold take
  split
  · rfl
  · next h => exact (List.erase_of_not_mem h).symm

theorem take_fired : (s.take fault).2.fired = s.fired + [(s.take fault).1].count true := by
  unfold take
  split
  · rfl
  · rfl

theorem take_balance :
    (s.take fault).2.fired + (s.take fault).2.pending.length = s.fired + s.pending.length := by
  unfold take
  split
  · next h =>
    have hlen := List.length_erase_of_mem h
    have hpos := List.length_pos_of_mem h
    show s.fired + 1 + (s.pending.erase fault).length = _
    omega
  · rfl

/-! ### Many questions -/

theorem pending_after : (s.after asked).pending = s.pending.diff asked := by
  induction asked generalizing s with
  | nil => rfl
  | cons fault asked ih =>
    show ((s.take fault).2.after asked).pending = _
    rw [ih, take_pending, List.diff_cons]

theorem fired_after : (s.after asked).fired = s.fired + (s.answers asked).count true := by
  induction asked generalizing s with
  | nil => rfl
  | cons fault asked ih =>
    show ((s.take fault).2.after asked).fired = _
    rw [ih, take_fired, Nat.add_assoc, ← List.count_append]
    rfl

theorem after_balance :
    (s.after asked).fired + (s.after asked).pending.length = s.fired + s.pending.length := by
  induction asked generalizing s with
  | nil => rfl
  | cons fault asked ih =>
    show ((s.take fault).2.after asked).fired + ((s.take fault).2.after asked).pending.length = _
    rw [ih, take_balance]

/-- A fault fires as long as it was asked for less often than it is pending, whatever
else is asked for. -/
theorem answersTo_eq : s.answersTo fault asked =
    (List.range (asked.count fault)).map fun k => decide (k < s.pending.count fault) := by
  induction asked generalizing s with
  | nil => rfl
  | cons other asked ih =>
    rw [answersTo_cons, ih, take_pending, take_fst]
    by_cases h : other = fault
    · subst h
      rw [if_pos rfl, List.count_cons_self, List.range_succ_eq_map, List.map_cons, List.map_map,
        List.count_erase_self]
      congr 1
      · exact decide_eq_decide.2 List.count_pos_iff.symm
      · refine List.map_congr_left fun k _ => decide_eq_decide.2 ?_
        exact Nat.lt_sub_iff_add_lt
    · rw [if_neg h, List.count_cons_of_ne h, List.count_erase_of_ne (Ne.symm h)]

/-- So it fires as often as it is both asked for and pending. -/
theorem firings_eq : s.firings asked fault = min (asked.count fault) (s.pending.count fault) := by
  unfold firings
  rw [answersTo_eq]
  generalize asked.count fault = n
  induction n with
  | zero => simp
  | succ n ih =>
    rw [List.range_succ, List.map_append, List.count_append, ih, List.map_singleton]
    by_cases h : n < s.pending.count fault
    · simp only [h, decide_true, List.count_singleton_self]
      omega
    · have hnone : [decide (n < s.pending.count fault)].count true = 0 := by simp [h]
      rw [hnone]
      omega

/-! ### What is left of a plan -/

/-- The first occurrence of a plan is left if its fault has not fired, and counts as one
that has fired for those behind it. -/
theorem unfired_cons (fired : Fault → Nat) : unfired fired (fault :: plan) =
    (if fired fault = 0 then [fault] else []) ++
      unfired (fun f => fired f - [fault].count f) plan := by
  have hrest : (((plan.zipIdx 1).filter fun p =>
        fired p.1 ≤ ((fault :: plan).take p.2).count p.1).map Prod.fst) =
      unfired (fun f => fired f - [fault].count f) plan := by
    have hshift : plan.zipIdx 1 = plan.zipIdx.map fun p => (p.1, p.2 + 1) := List.zipIdx_succ
    rw [hshift, List.filter_map, List.map_map]
    refine congrArg (List.map Prod.fst) (List.filter_congr fun p _ => ?_)
    show decide (_ ≤ ((fault :: plan).take (p.2 + 1)).count p.1) = _
    rw [List.take_succ_cons, ← List.singleton_append, List.count_append]
    exact decide_eq_decide.2 Nat.sub_le_iff_le_add'.symm
  rw [← hrest]
  unfold unfired
  rw [List.zipIdx_cons, List.filter_cons]
  by_cases h : fired fault = 0
  · simp [h]
  · simp [h]

theorem diff_eq_unfired : plan.diff asked = unfired (fun f => asked.count f) plan := by
  induction plan generalizing asked with
  | nil => exact List.nil_diff asked
  | cons fault plan ih =>
    have herase : (fun f => asked.count f - [fault].count f) =
        fun f => (asked.erase fault).count f := by
      funext f
      rw [List.count_erase, List.count_singleton]
    rw [List.cons_diff, unfired_cons, herase, ← ih]
    by_cases h : fault ∈ asked
    · rw [if_pos h, if_neg fun h0 => List.count_eq_zero.1 h0 h, List.nil_append]
    · rw [if_neg h, if_pos (List.count_eq_zero.2 h), List.erase_of_not_mem h]
      rfl

/-- An occurrence has fewer others before it than the plan has. -/
theorem count_take_lt {p : Fault × Nat} (h : p ∈ plan.zipIdx) :
    (plan.take p.2).count p.1 < plan.count p.1 := by
  have hat : plan[p.2]? = some p.1 := List.mem_zipIdx_iff_getElem?.1 h
  have htake : plan.take (p.2 + 1) = plan.take p.2 ++ [p.1] := by
    rw [List.take_add_one, hat]
    rfl
  have hle : (plan.take (p.2 + 1)).count p.1 ≤ plan.count p.1 :=
    (List.take_sublist _ _).count_le _
  rw [htake, List.count_append, List.count_singleton_self] at hle
  exact hle

/-- Asking for more than is planned takes out no more. -/
theorem unfired_min (fired : Fault → Nat) :
    unfired (fun f => min (fired f) (plan.count f)) plan = unfired fired plan := by
  unfold unfired
  refine congrArg (List.map Prod.fst) (List.filter_congr fun p hp => decide_eq_decide.2 ?_)
  have hlt := count_take_lt hp
  show min (fired p.1) (plan.count p.1) ≤ _ ↔ _
  omega

/-! ### Faults fire as planned -/

/-- For every plan, and whatever is asked for in turn: a fault fires at the k-th question
for it exactly if it is planned at least k times; the faults that have fired are counted,
and with those pending they make up the plan; what is pending is the plan without the
first occurrences of each fault, as many as have fired; and with the questions in another
order, those for each fault get the same answers, and the same faults are left. -/
theorem faults_fire_as_planned (plan asked : List Fault) :
    (∀ fault, (Faults.plan plan).answersTo fault asked =
      (List.range (asked.count fault)).map fun k => decide (k + 1 ≤ plan.count fault)) ∧
    ((Faults.plan plan).after asked).fired = ((Faults.plan plan).answers asked).count true ∧
    ((Faults.plan plan).after asked).fired + ((Faults.plan plan).after asked).pending.length =
      plan.length ∧
    ((Faults.plan plan).after asked).pending =
      unfired ((Faults.plan plan).firings asked) plan ∧
    ∀ asked', asked'.Perm asked →
      (∀ fault, (Faults.plan plan).answersTo fault asked' =
        (Faults.plan plan).answersTo fault asked) ∧
      (Faults.plan plan).after asked' = (Faults.plan plan).after asked := by
  have hbalance : ∀ asked, ((Faults.plan plan).after asked).fired +
      ((Faults.plan plan).after asked).pending.length = plan.length := by
    intro asked
    rw [after_balance]
    exact Nat.zero_add _
  refine ⟨fun fault => answersTo_eq, ?_, hbalance asked, ?_, ?_⟩
  · rw [fired_after]
    exact Nat.zero_add _
  · have hfirings : (Faults.plan plan).firings asked =
        fun f => min (asked.count f) (plan.count f) := funext fun f => firings_eq
    rw [pending_after, hfirings, unfired_min]
    exact diff_eq_unfired
  · intro asked' hperm
    have hpending : ((Faults.plan plan).after asked').pending =
        ((Faults.plan plan).after asked).pending := by
      rw [pending_after, pending_after, diff_eq_unfired, diff_eq_unfired]
      exact congrArg (unfired · _) (funext hperm.count_eq)
    refine ⟨fun fault => ?_, ?_⟩
    · rw [answersTo_eq, answersTo_eq, hperm.count_eq]
    · have hfired := hbalance asked'
      rw [hpending, ← hbalance asked, Nat.add_right_cancel_iff] at hfired
      exact congrArg₂ Faults.mk hpending hfired

/-- Two refusals of an alias are planned around a gap.  Asked for in turn with another
fault or in a row, the refusals are answered alike, and the gap is left. -/
theorem questions_in_turn_and_in_a_row :
    let planned := Faults.plan [.failRcvAlias, .discontiguousAlias, .failRcvAlias]
    let inTurn : List Fault := [.failRcvAlias, .failRcvCreate, .failRcvAlias, .failRcvAlias]
    let inARow : List Fault := [.failRcvAlias, .failRcvAlias, .failRcvAlias, .failRcvCreate]
    inTurn.Perm inARow ∧ planned.answersTo .failRcvAlias inTurn = [true, true, false] ∧
      planned.after inTurn = planned.after inARow ∧
      planned.after inARow = ⟨[.discontiguousAlias], 2⟩ := by
  intro planned inTurn inARow
  have hperm : inTurn.Perm inARow := by decide
  obtain ⟨-, -, -, -, horder⟩ := faults_fire_as_planned planned.pending inARow
  obtain ⟨hanswers, hafter⟩ := horder inTurn hperm
  exact ⟨hperm, (hanswers .failRcvAlias).trans rfl, hafter, rfl⟩

end CapabilityBroker.Kernel.Faults
