/-
CapabilityBroker/Proofs/Start/Plan.lean

Plans that name each component once.

A manifest may ask for the execution of a component more than once.  Without the
repetitions it plans the same components in the same order
(`Manifest.plan_onceEach`), and the broker starts from it in the same way and comes
to the same state (`boot_onceEach`): a barrier stands for a component, however often
it is planned.
-/
import CapabilityBroker.Proofs.Barrier.Accounting
import CapabilityBroker.Proofs.Boot.Manifest
import CapabilityBroker.Proofs.Start.Basic

namespace CapabilityBroker

/-! ### Lists without repetitions -/

section Lists

variable {α β : Type}

/-- What holds of a list if it holds of the rest that some test leaves over after the
first member. -/
theorem filter_induction {motive : List α → Prop} (p : α → α → Bool) (nil : motive [])
    (cons : ∀ a as, motive (as.filter (p a)) → motive (a :: as)) : ∀ l, motive l
  | [] => nil
  | a :: as => cons a as (filter_induction p nil cons (as.filter (p a)))
termination_by l => l.length
decreasing_by exact Nat.lt_succ_of_le (List.length_filter_le _ as)

theorem nodup_eraseDups [BEq α] [LawfulBEq α] (l : List α) : l.eraseDups.Nodup := by
  induction l using filter_induction (fun (a b : α) => !b == a) with
  | nil => exact List.nodup_nil
  | cons a as ih =>
    rw [List.eraseDups_cons, List.nodup_cons, List.mem_eraseDups]
    exact ⟨fun h => by simp at h, ih⟩

/-- Members that agree in what a function says of them are repetitions of each other
exactly if their images are. -/
theorem map_eraseDupsBy [BEq β] [LawfulBEq β] {f : α → β} {r : α → α → Bool}
    (hr : ∀ a a', r a a' = (f a == f a')) (l : List α) :
    (l.eraseDupsBy r).map f = (l.map f).eraseDups := by
  induction l using filter_induction (fun a a' => !f a' == f a) with
  | nil => rfl
  | cons a as ih =>
    have hrest : (as.filter fun a' => decide (r a' a = false)) = as.filter fun a' => !f a' == f a :=
      List.filter_congr fun a' _ => by rw [hr]; cases f a' == f a <;> rfl
    rw [List.eraseDupsBy_cons, hrest, List.map_cons, ih, List.map_cons, List.eraseDups_cons,
      List.filter_map]
    rfl

end Lists

/-! ### Manifests without repetitions -/

/-- The manifest with the first execution of each component alone. -/
def Manifest.onceEach (m : Manifest) : Manifest :=
  { m with execute := m.execute.eraseDupsBy fun e e' => e.1 == e'.1 }

/-- The components that an image plans to start, in order. -/
def Image.planned (image : Image) : List ComponentId := image.plan.map Prod.fst

theorem mem_of_mem_eraseDupsBy {α : Type} {r : α → α → Bool} {a : α} {l : List α}
    (h : a ∈ l.eraseDupsBy r) : a ∈ l := by
  induction l using filter_induction (fun a a' => decide (r a' a = false)) with
  | nil => exact h
  | cons a' as ih =>
    rw [List.eraseDupsBy_cons] at h
    rcases List.mem_cons.1 h with rfl | h
    · exact List.mem_cons_self
    · exact List.mem_cons_of_mem _ (List.mem_of_mem_filter (ih h))

/-- The components of a plan are those that the manifest names. -/
theorem Manifest.map_plan {m : Manifest} {plan : List (ComponentId × Execution)}
    (h : m.plan = .ok plan) : plan.map Prod.fst = m.execute.map fun e => ⟨e.1⟩ := by
  unfold Manifest.plan at h
  generalize m.execute = l at h
  induction l generalizing plan with
  | nil =>
    cases h
    rfl
  | cons e l ih =>
    rw [List.mapM_cons] at h
    obtain ⟨planned, hplanned, h⟩ := bind_eq_ok_iff.1 h
    obtain ⟨rest, hrest, h⟩ := bind_eq_ok_iff.1 h
    cases h
    cases hkind : Execution.ofText e.2 with
    | error why =>
      rw [hkind] at hplanned
      cases hplanned
    | ok kind =>
      rw [hkind] at hplanned
      cases hplanned
      rw [List.map_cons, List.map_cons, ih hrest]

theorem Manifest.plan_onceEach {m : Manifest} {plan : List (ComponentId × Execution)}
    (h : m.plan = .ok plan) : ∃ once, m.onceEach.plan = .ok once ∧
      once.map Prod.fst = (plan.map Prod.fst).eraseDups := by
  have hkinds := Manifest.exists_plan.1 ⟨plan, h⟩
  obtain ⟨once, honce⟩ := (Manifest.exists_plan (m := m.onceEach)).2 fun e he =>
    hkinds e (mem_of_mem_eraseDupsBy he)
  refine ⟨once, honce, ?_⟩
  rw [Manifest.map_plan honce, Manifest.map_plan h]
  exact map_eraseDupsBy (fun e e' => by simp [beq_eq_decide]) m.execute

/-! ### The start -/

/-- Barriers are set up for the components that are named, however often. -/
theorem Barriers.over_eraseDups (ids : List ComponentId) (cores : Nat) :
    Barriers.over ids.eraseDups cores = .over ids cores := by
  refine Std.ExtTreeMap.ext_getElem? fun {id} => ?_
  rw [getElem?_over, getElem?_over]
  simp [List.mem_eraseDups]

namespace Service

/-- Of two sequences that begin alike, one comes to its end if the rest does whenever
the rest of the other does. -/
theorem bind_eq_ok_of {σ ε α β γ : Type} {s : Step σ ε α} {f : α → Step σ ε β}
    {g : α → Step σ ε γ} {st st' : σ} {b : β} {c : γ} (h : (s >>= f) st = .ok b st')
    (hg : ∀ a mid, f a mid = .ok b st' → g a mid = .ok c st') : (s >>= g) st = .ok c st' := by
  obtain ⟨a, mid, hs, hf⟩ := Step.bind_eq_ok_iff.1 h
  exact Step.bind_eq_ok_iff.2 ⟨a, mid, hs, hg a mid hf⟩

/-- From a manifest without its repetitions the broker starts in the same way. -/
theorem boot_onceEach {settings : Settings} {manifest : Manifest} {image : Image} {b b' : Broker}
    (h : boot settings manifest b = .ok image b') : ∃ once,
      boot settings manifest.onceEach b = .ok once b' ∧
        once.planned = image.planned.eraseDups := by
  have hplan := ((boot_barriers settings manifest).of_ok h).1
  obtain ⟨once, honce, hids⟩ := Manifest.plan_onceEach hplan
  refine ⟨⟨settings, manifest.onceEach, once, .ofManifest manifest⟩, ?_, hids⟩
  unfold boot at h ⊢
  refine bind_eq_ok_of h fun _ _ h => ?_
  by_cases hlow : manifest.captblEnd < settings.captblFree
  · rw [if_pos hlow] at h
    cases h
  rw [if_neg hlow, hplan] at h
  refine (congrFun (if_neg hlow) _).trans ?_
  rw [honce]
  obtain ⟨_, _, hread, h⟩ := Step.bind_eq_ok_iff.1 h
  cases hread
  refine Step.bind_eq_ok_iff.2 ⟨once, _, rfl, ?_⟩
  -- The rest reads the plan only when the barriers are set up.
  refine bind_eq_ok_of h fun groups _ h => bind_eq_ok_of h fun _ _ h => ?_
  refine bind_eq_ok_of h fun _ _ h => bind_eq_ok_of h fun _ _ h => ?_
  refine bind_eq_ok_of h fun _ _ h => bind_eq_ok_of h fun _ _ h => ?_
  refine bind_eq_ok_of h fun _ _ h => bind_eq_ok_of h fun _ _ h => ?_
  refine bind_eq_ok_of h fun _ b₁ h => ?_
  have hbarriers : Barriers.over (once.map Prod.fst) settings.numCores.toNat =
      .over (image.plan.map Prod.fst) settings.numCores.toNat := by
    rw [hids, Barriers.over_eraseDups]
  obtain ⟨_, _, hmodify, h⟩ := Step.bind_eq_ok_iff.1 h
  cases hmodify
  obtain ⟨-, rfl⟩ := EStateM.Result.ok.inj h
  refine Step.bind_eq_ok_iff.2 ⟨_, _, rfl, ?_⟩
  dsimp only
  rw [hbarriers]
  rfl

end Service

end CapabilityBroker
