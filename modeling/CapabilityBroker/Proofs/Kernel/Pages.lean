/-
CapabilityBroker/Proofs/Kernel/Pages.lean

Addresses and the page table of one component.

Rounding up never goes down, and a run of frames is found again at the pages
it was put to, while every other page stays as it was.
-/
import CapabilityBroker.Kernel.Mapping
import CapabilityBroker.Proofs.Address

namespace CapabilityBroker

/-! ### Runs of frames -/

theorem mapM_eq_some_iff {α β : Type} {f : α → Option β} {l : List α} {l' : List β} :
    l.mapM f = some l' ↔ l.map f = l'.map some := by
  induction l generalizing l' with
  | nil => cases l' <;> simp
  | cons a l ih =>
    rw [List.mapM_cons]
    cases ha : f a with
    | none => cases l' <;> simp [ha]
    | some b =>
      cases hl : l.mapM f with
      | none =>
        cases l' with
        | nil => simp
        | cons b' l' =>
          have hrest : l.map f ≠ l'.map some := fun h => by
            rw [ih.2 h] at hl
            cases hl
          simp [ha, hrest]
      | some bs =>
        cases l' with
        | nil => simp
        | cons b' l' =>
          have hrest : bs = l' ↔ l.map f = l'.map some := by
            rw [← ih, hl, Option.some.injEq]
          simp [ha, hrest]

/-- The frames of a run, one by one. -/
theorem Paddr.run?_eq_some {first : Paddr} {count : Nat} {frames : List Paddr}
    (h : first.run? count = some frames) :
    frames.length = count ∧ ∀ i < count, frames[i]? = first.addPages i := by
  have hmap := mapM_eq_some_iff.1 h
  have hlen := congrArg List.length hmap
  rw [List.length_map, List.length_map, List.length_range] at hlen
  refine ⟨hlen.symm, fun i hi => ?_⟩
  have hget := congrArg (fun l => l[i]?) hmap
  simp only [List.getElem?_map, List.getElem?_range hi, Option.map_some] at hget
  cases hf : frames[i]? with
  | none => rw [hf] at hget; cases hget
  | some frame =>
    rw [hf, Option.map_some] at hget
    exact (Option.some.inj hget).symm

/-- A gap costs no page. -/
theorem Kernel.length_mappedRun? {first : Paddr} {count : Nat} {gap : Bool}
    {frames : List Paddr} (h : Kernel.mappedRun? first count gap = some frames) (hc : count ≠ 0) :
    frames.length = count := by
  unfold Kernel.mappedRun? at h
  rw [Option.bind_eq_bind, Option.bind_eq_some_iff] at h
  obtain ⟨run, hrun, h⟩ := h
  obtain ⟨hlen, _⟩ := Paddr.run?_eq_some hrun
  split at h
  · rw [Option.bind_eq_bind, Option.bind_eq_some_iff] at h
    obtain ⟨beyond, _, h⟩ := h
    obtain rfl := Option.some.inj h
    rw [List.length_append, List.length_dropLast, List.length_singleton]
    omega
  · obtain rfl := Option.some.inj h
    exact hlen

/-! ### Page tables -/

namespace Kernel.Space

variable {space : Space} {page n : Nat} {frames : List Paddr}

/-- Mapping changes the page table only. -/
theorem mapPages_eq (space : Space) (page : Nat) (frames : List Paddr) :
    space.mapPages page frames =
      { space with pages := (space.mapPages page frames).pages } := by
  induction frames generalizing space page with
  | nil => rfl
  | cons frame frames ih =>
    show ({ space with pages := space.pages.insert page frame } : Space).mapPages _ frames = _
    rw [ih]
    rfl

@[simp] theorem heapFrontier_mapPages :
    (space.mapPages page frames).heapFrontier = space.heapFrontier := by rw [mapPages_eq]

theorem getElem?_mapPages :
    (space.mapPages page frames).pages[n]? =
      if page ≤ n ∧ n < page + frames.length then frames[n - page]? else space.pages[n]? := by
  induction frames generalizing space page with
  | nil =>
    rw [if_neg (by simp only [List.length_nil]; omega)]
    rfl
  | cons frame frames ih =>
    show (({ space with pages := space.pages.insert page frame } : Space).mapPages (page + 1)
      frames).pages[n]? = _
    rw [ih, List.length_cons]
    -- The page of the first frame, a page of the rest, or another.
    by_cases hn : n = page
    · subst hn
      rw [if_neg (by omega), if_pos (by omega), Nat.sub_self]
      simp
    · by_cases hin : page + 1 ≤ n ∧ n < page + 1 + frames.length
      · obtain ⟨d, hd⟩ : ∃ d, n - page = d + 1 := ⟨n - page - 1, by omega⟩
        rw [if_pos hin, if_pos (by omega), hd, List.getElem?_cons_succ]
        congr 1
        omega
      · rw [if_neg hin, if_neg (by omega)]
        simp [Std.ExtTreeMap.getElem?_insert, Ne.symm hn]

/-- Pages below a mapping stay as they were. -/
theorem getElem?_mapPages_of_lt (h : n < page) :
    (space.mapPages page frames).pages[n]? = space.pages[n]? := by
  rw [getElem?_mapPages, if_neg (by omega)]

/-- A frame of a run is found at its page. -/
theorem getElem?_mapPages_add {i : Nat} (h : i < frames.length) :
    (space.mapPages page frames).pages[page + i]? = frames[i]? := by
  rw [getElem?_mapPages, if_pos (by omega)]
  congr 1
  omega

end Kernel.Space

end CapabilityBroker
