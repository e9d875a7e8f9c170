/-
CapabilityBroker/Proofs/Handles.lean

Handles reach what they were issued for.

A handle is issued when an object is published.  Whatever happens to the pool
afterwards, the handle reaches an object exactly while its slot has one and
the releases of the slot since then are a multiple of `2 ^ 32`, the number of
generations.  Before the generations have gone round, that is the object of
the handle, with the changes made through it, and nothing once the slot was
released: never an object that was published later.

Two facts carry this.  A release moves the generation of its slot on by one
and nothing else moves it (`Effect.released`, `Effect.unreleased`); and a slot
that is not released keeps its object, up to the changes made through the
handle of its present generation.
-/
import Mathlib.Algebra.Group.Nat.Defs
import CapabilityBroker.Proofs.Pool.Custody

namespace CapabilityBroker.Pool

variable {α : Type} {p p' : Pool α} {i : Nat} {use : Use α} {a : Answer α}

/-! ### Releases and changes -/

/-- Whether a use released a slot: a reservation of it was given back, or its
object was taken out. -/
def releases (index : Nat) : Use α × Option (Reply α) → Bool
  | (.drop r, some (.ok _)) => r.index = index
  | (.free h, some (.ok _)) => h.index = index
  | _ => false

/-- What a use makes of the object of a handle. -/
def Use.changes (h : Handle α) : Use α → α → α
  | .change h' f => if h' = h then f else id
  | _ => id

/-- An object after the changes made through a handle, in order. -/
def changed (h : Handle α) (uses : List (Use α)) (object : α) : α :=
  uses.foldl (fun o use => use.changes h o) object

/-! ### What one use does to a slot -/

/-- A release moves the generation on. -/
theorem Effect.released (he : Effect p use a p') (hspent : ∀ r, use.spent? = some r → p.Holds r)
    (h : releases i (use, some (.ok a)) = true) :
    p'.entry i = ⟨(p.entry i).generation + 1, .free⟩ := by
  cases he with
  | @drop r =>
    obtain rfl : r.index = i := of_decide_eq_true h
    rw [entry_unreserve, if_pos rfl]
    unfold Entry.givenUp
    rw [(hspent r rfl).slot]
  | @free hd o reaches =>
    obtain rfl : hd.index = i := of_decide_eq_true h
    show (p.release hd.index).entry hd.index = _
    rw [entry_release, if_pos rfl]
  | _ => cases h

/-- A slot that goes on under its generation: its object, if it has one, changes
by what is done through its handle. -/
structure Continues (i : Nat) (use : Use α) (e e' : Entry α) : Prop where
  generation : e'.generation = e.generation
  object : ∀ g o, e = ⟨g, .active o⟩ → e' = ⟨g, .active (use.changes ⟨i, g⟩ o)⟩

theorem Continues.of_eq {e e' : Entry α} (h : e' = e) (hid : ∀ h, use.changes h = id) :
    Continues i use e e' := by
  subst h
  refine ⟨rfl, fun g o ho => ?_⟩
  rw [ho, hid]
  rfl

theorem Continues.of_idle {e e' : Entry α} (h : e'.generation = e.generation) (hidle : e.Idle) :
    Continues i use e e' := ⟨h, fun _ _ ho => absurd ho hidle.ne⟩

theorem continues_modify (h : Handle α) (f : α → α) :
    Continues i (.change h f) (p.entry i) ((p.modify h f).entry i) := by
  by_cases ho : ∃ o, p.get? h = some o ∧ h.index = i
  · obtain ⟨o, ho, rfl⟩ := ho
    have hold := get?_eq_some_iff.1 ho
    have hnew : (p.modify h f).entry h.index = ⟨h.generation, .active (f o)⟩ := by
      rw [entry_modify, ho]
      exact if_pos rfl
    refine ⟨by rw [hnew, hold], fun g o' ho' => ?_⟩
    cases hold.symm.trans ho'
    rw [hnew]
    show _ = (⟨h.generation, .active ((if h = h then f else id) o)⟩ : Entry α)
    rw [if_pos rfl]
  · have hsame : (p.modify h f).entry i = p.entry i := by
      rw [entry_modify]
      split
      · next o hget => exact if_neg fun hi => ho ⟨o, hget, hi⟩
      · rfl
    refine ⟨by rw [hsame], fun g o' ho' => ?_⟩
    have hother : h ≠ ⟨i, g⟩ := by
      rintro rfl
      exact ho ⟨o', get?_eq_some_iff.2 ho', rfl⟩
    rw [hsame, ho']
    show _ = (⟨g, .active ((if h = ⟨i, g⟩ then f else id) o')⟩ : Entry α)
    rw [if_neg hother]
    rfl

/-- A slot that is not released goes on. -/
theorem Effect.unreleased (he : Effect p use a p')
    (h : releases i (use, some (.ok a)) = false) : Continues i use (p.entry i) (p'.entry i) := by
  cases he with
  | @allocate index first =>
    have hentry : ({ p.reserve index with lowWater := index + 1 } : Pool α).entry i =
        if index = i then { p.entry i with slot := .reserved } else p.entry i := entry_reserve p _ i
    by_cases hi : index = i
    · subst hi
      exact .of_idle (by rw [hentry, if_pos rfl]) (.of_free (firstFree?_eq_some first).2.2)
    · exact .of_eq (by rw [hentry, if_neg hi]) fun _ => rfl
  | allocateNone => exact .of_eq rfl fun _ => rfl
  | @allocateRun count start positive first =>
    obtain ⟨_, _, hfree⟩ := findRun?_eq_some first
    by_cases hi : start ≤ i ∧ i < start + count
    · exact .of_idle (by rw [entry_reserveRun, if_pos hi]) (.of_free (hfree i hi.1 hi.2))
    · exact .of_eq (by rw [entry_reserveRun, if_neg hi]) fun _ => rfl
  | @allocateAt index positive within free =>
    by_cases hi : index = i
    · subst hi
      exact .of_idle (by rw [entry_reserve, if_pos rfl]) (.of_free (isFree_iff.1 free))
    · exact .of_eq (by rw [entry_reserve, if_neg hi]) fun _ => rfl
  | @activate r object holds =>
    by_cases hi : r.index = i
    · subst hi
      exact .of_idle (by rw [entry_publish, if_pos rfl, holds]) (.of_reserved holds.slot)
    · exact .of_eq (by rw [entry_publish, if_neg hi]) fun _ => rfl
  | @drop r =>
    have hi : r.index ≠ i := of_decide_eq_false h
    exact .of_eq (by rw [entry_unreserve, if_neg hi]) fun _ => rfl
  | @free hd o reaches =>
    have hi : hd.index ≠ i := of_decide_eq_false h
    have hentry : ({ p.release hd.index with active := p.active - 1 } : Pool α).entry i =
        if hd.index = i then ⟨(p.entry i).generation + 1, .free⟩ else p.entry i :=
      entry_release p _ i
    exact .of_eq (by rw [hentry, if_neg hi]) fun _ => rfl
  | look => exact .of_eq rfl fun _ => rfl
  | change => exact continues_modify _ _
  | count => exact .of_eq rfl fun _ => rfl

/-! ### What several uses do to a slot -/

namespace Desk

variable {d : Desk (Pool α) α}

theorem Sound.next_released (h : d.Sound) (hr : releases i (use, d.reply serve use) = true) :
    (d.next serve use).pool.entry i = ⟨(d.pool.entry i).generation + 1, .free⟩ := by
  by_cases ho : d.offers use = true
  · rcases ends (serve_leads use) ho with ⟨a, p, he, hreply, hnext⟩ | ⟨why, p, _, hreply, _⟩
    · rw [hreply] at hr
      rw [hnext]
      exact he.released (fun r hspent => h.holds r (mem_held ho hspent)) hr
    · rw [hreply] at hr
      cases use <;> cases hr
  · rw [reply_of_not_offers ho] at hr
    cases use <;> cases hr

theorem next_unreleased (hr : releases i (use, d.reply serve use) = false) :
    Continues i use (d.pool.entry i) ((d.next serve use).pool.entry i) := by
  by_cases ho : d.offers use = true
  · rcases ends (serve_leads use) ho with
      ⟨a, p, he, hreply, hnext⟩ | ⟨why, p, ⟨hdeclined, rfl⟩, _, hnext⟩
    · rw [hreply] at hr
      rw [hnext]
      exact he.unreleased hr
    · rw [hnext]
      refine .of_eq rfl fun _ => ?_
      cases hdeclined <;> rfl
  · rw [next_of_not_offers ho]
    -- Only a use that takes a reservation may find that it cannot be made.
    refine .of_eq rfl fun _ => ?_
    cases use with
    | change h f => exact absurd rfl ho
    | _ => rfl

/-- How often a slot was released along several uses. -/
def released (d : Desk (Pool α) α) (uses : List (Use α)) (index : Nat) : Nat :=
  (d.log serve uses).countP (releases index)

theorem released_cons (rest : List (Use α)) :
    d.released (use :: rest) i =
      (d.next serve use).released rest i +
        if releases i (use, d.reply serve use) = true then 1 else 0 :=
  List.countP_cons

/-- The generation of a slot counts its releases. -/
theorem Sound.generation_run (h : d.Sound) (uses : List (Use α)) :
    ((d.run serve uses).pool.entry i).generation =
      (d.pool.entry i).generation + UInt32.ofNat (d.released uses i) := by
  induction uses generalizing d with
  | nil => exact (UInt32.add_zero _).symm
  | cons use rest ih =>
    refine (ih (h.next use)).trans ?_
    rw [released_cons]
    by_cases hr : releases i (use, d.reply serve use) = true
    · rw [h.next_released hr, if_pos hr, UInt32.ofNat_add, UInt32.add_comm (UInt32.ofNat _),
        ← UInt32.add_assoc]
      rfl
    · rw [(next_unreleased (Bool.eq_false_iff.2 hr)).generation, if_neg hr]
      rfl

/-- An object whose slot is not released stays under its handle. -/
theorem get?_run {h : Handle α} {o : α} (ho : d.pool.get? h = some o) {uses : List (Use α)}
    (hn : d.released uses h.index = 0) :
    (d.run serve uses).pool.get? h = some (changed h uses o) := by
  induction uses generalizing d o with
  | nil => exact ho
  | cons use rest ih =>
    rw [released_cons] at hn
    have hr : ¬ releases h.index (use, d.reply serve use) = true := by
      intro hr
      rw [if_pos hr] at hn
      exact Nat.succ_ne_zero _ hn
    refine ih ?_ (Nat.eq_zero_of_add_eq_zero hn).1
    exact get?_eq_some_iff.2
      ((next_unreleased (Bool.eq_false_iff.2 hr)).object _ _ (get?_eq_some_iff.1 ho))

/-! ### What a handle gives -/

/-- The reply to taking out an object, if there is one. -/
def removal (name : String) (index : Nat) : Option α → Reply α
  | some object => .ok (.removed object)
  | none => .error (.refused (.stale name index))

/-- Every use of a handle reaches the same object; or none reaches any, and
then they change nothing. -/
structure Gives (d : Desk (Pool α) α) (h : Handle α) (object? : Option α) : Prop where
  look : d.reply serve (.look h) = some (.ok (.seen object?))
  change : ∀ f, d.reply serve (.change h f) = some (.ok (.seen object?))
  free : d.reply serve (.free h) = some (removal d.pool.name h.index object?)
  unchanged : object? = none → d.next serve (.look h) = d ∧
    (∀ f, d.next serve (.change h f) = d) ∧ d.next serve (.free h) = d

theorem gives_get? (d : Desk (Pool α) α) (h : Handle α) : d.Gives h (d.pool.get? h) := by
  have hfree : d.reply serve (.free h) = some (removal d.pool.name h.index (d.pool.get? h)) ∧
      (d.pool.get? h = none → d.next serve (.free h) = d) := by
    rcases ends (serve_leads (.free h)) rfl with
      ⟨a, p, he, hreply, _⟩ | ⟨why, p, ⟨hdeclined, rfl⟩, hreply, hnext⟩
    · cases he with
      | free reaches =>
        rw [hreply, reaches]
        exact ⟨rfl, nofun⟩
    · cases hdeclined with
      | stale lost =>
        rw [hreply, lost]
        exact ⟨rfl, fun _ => hnext⟩
  refine ⟨rfl, fun f => rfl, hfree.1, fun ho => ⟨rfl, fun f => ?_, hfree.2 ho⟩⟩
  show (⟨d.pool.modify h f, d.held⟩ : Desk (Pool α) α) = d
  rw [modify_of_stale ho]

theorem Gives.eq {h : Handle α} {o? o?' : Option α} (hg : d.Gives h o?) (hg' : d.Gives h o?') :
    o? = o?' := by
  have heq := hg.look.symm.trans hg'.look
  cases heq
  rfl

end Desk

/-! ### How long a handle reaches its object -/

theorem add_ofNat_eq_self_iff {g : UInt32} {n : Nat} :
    g + UInt32.ofNat n = g ↔ UInt32.size ∣ n := by
  rw [← UInt32.toNat_inj, UInt32.toNat_add, UInt32.toNat_ofNat', Nat.dvd_iff_mod_eq_zero]
  have hg := g.toNat_lt
  have hsize : UInt32.size = 2 ^ 32 := rfl
  rw [hsize]
  constructor
  · intro h
    omega
  · intro h
    omega

/-- After a handle is issued, it reaches an object exactly while its slot has one
and the generations of the slot have come round to the handle's. -/
theorem isSome_get?_run_iff {d : Desk (Pool α) α} (hd : d.Sound) {h : Handle α} {o : α}
    (ho : d.pool.get? h = some o) (uses : List (Use α)) :
    ((d.run serve uses).pool.get? h).isSome = true ↔
      ((d.run serve uses).pool.at? h.index).isSome = true ∧
        UInt32.size ∣ d.released uses h.index := by
  have hgen := hd.generation_run uses (i := h.index)
  rw [get?_eq_some_iff.1 ho] at hgen
  rw [← add_ofNat_eq_self_iff (g := h.generation), ← hgen]
  unfold get? at?
  rcases (d.run serve uses).pool.entry h.index with ⟨g, _ | _ | o'⟩
  · simp
  · simp
  · by_cases hg : g = h.generation <;> simp [hg]

/-- Before the generations have gone round, a handle reaches the object it was
issued for, or none. -/
theorem get?_run_eq {d : Desk (Pool α) α} (hd : d.Sound) {h : Handle α} {o : α}
    (ho : d.pool.get? h = some o) {uses : List (Use α)}
    (hn : d.released uses h.index < UInt32.size) :
    (d.run serve uses).pool.get? h =
      if d.released uses h.index = 0 then some (changed h uses o) else none := by
  split
  · next hzero => exact Desk.get?_run ho hzero
  · next hpos =>
    refine Option.not_isSome_iff_eq_none.1 fun hsome => ?_
    have hdvd := ((isSome_get?_run_iff hd ho uses).1 hsome).2
    exact hpos (Nat.eq_zero_of_dvd_of_lt hdvd hn)

/-- The handle that a publication issues reaches the object. -/
theorem get?_issued {d : Desk (Pool α) α} {r : Reservation α} {o : α} {h : Handle α}
    (issued : d.reply serve (.activate r o) = some (.ok (.published h))) :
    (d.next serve (.activate r o)).pool.get? h = some o := by
  by_cases hoffers : d.offers (.activate r o) = true
  · rcases Desk.ends (serve_leads (.activate r o)) hoffers with
      ⟨a, p, he, hreply, hnext⟩ | ⟨why, p, _, hreply, _⟩
    · cases he with
      | activate holds =>
        cases hreply.symm.trans issued
        rw [hnext]
        refine get?_eq_some_iff.2 ?_
        show (d.pool.publish r o).entry r.index = _
        rw [entry_publish, if_pos rfl]
        rfl
    · cases hreply.symm.trans issued
  · cases (Desk.reply_of_not_offers hoffers).symm.trans issued

/-- What a handle reaches, from the moment it is issued.  It gives an object
exactly while its slot has one and the slot was released a multiple of
`2 ^ 32` times since; until then it gives the object it was issued for, as it
was changed through it, and nothing after a release, be it its own object that
was taken out or a reservation given back.  A handle that gives nothing leaves
everything as it was. -/
theorem handle_gives_its_object {name : String} {capacity : Nat} {p : Pool α}
    (created : create? name capacity = some p) (before after : List (Use α))
    {r : Reservation α} {o : α} {h : Handle α}
    (issued : (Desk.run serve ⟨p, []⟩ before).reply serve (.activate r o) =
      some (.ok (.published h))) :
    let d := (Desk.run serve ⟨p, []⟩ before).next serve (.activate r o)
    let d' := d.run serve after
    let n := d.released after h.index
    ((∃ o', d'.Gives h (some o')) ↔ (d'.pool.at? h.index).isSome = true ∧ 2 ^ 32 ∣ n) ∧
      (n < 2 ^ 32 → d'.Gives h (if n = 0 then some (changed h after o) else none)) ∧
      (n < 2 ^ 32 → (∃ a, (.free h, some (.ok a)) ∈ d.log serve after) → d'.Gives h none) ∧
      ∀ h', ∃ object?, d'.Gives h' object? := by
  intro d d' n
  obtain ⟨_, rfl⟩ := create?_eq_some_iff.1 created
  have hsound : d.Sound := ((Desk.sound_opened name capacity).run before).next _
  have hget : d.pool.get? h = some o := get?_issued issued
  have hbelow : n < 2 ^ 32 → d'.Gives h (if n = 0 then some (changed h after o) else none) :=
    fun hn => get?_run_eq hsound hget hn ▸ d'.gives_get? h
  refine ⟨?_, hbelow, fun hn ⟨a, ha⟩ => ?_, fun h' => ⟨_, d'.gives_get? h'⟩⟩
  · rw [show (2 ^ 32 : Nat) = UInt32.size from rfl, ← isSome_get?_run_iff hsound hget after,
      Option.isSome_iff_exists]
    refine exists_congr fun o' => ⟨fun hg => ((d'.gives_get? h).eq hg), fun ho' => ?_⟩
    exact ho' ▸ d'.gives_get? h
  · have hpos : 0 < n := List.countP_pos_iff.2 ⟨_, ha, decide_eq_true rfl⟩
    have hgives := hbelow hn
    rw [if_neg (Nat.pos_iff_ne_zero.1 hpos)] at hgives
    exact hgives

/-- The only slot of a pool is used again after its object was taken out: the
old handle gives nothing, and goes on giving nothing. -/
theorem old_handle_gives_nothing :
    let d := (Desk.run serve ⟨(create "span" 1 : Pool Nat), []⟩ [.allocate]).next serve
      (.activate ⟨1, 0⟩ 7)
    let after : List (Use Nat) := [.change ⟨1, 0⟩ (· + 1), .free ⟨1, 0⟩, .allocate,
      .drop ⟨1, 1⟩, .allocate, .activate ⟨1, 2⟩ 9]
    create? "span" 1 = some (create "span" 1 : Pool Nat) ∧
      (Desk.run serve ⟨(create "span" 1 : Pool Nat), []⟩ [.allocate]).reply serve
        (.activate ⟨1, 0⟩ 7) = some (.ok (.published ⟨1, 0⟩)) ∧
      d.released after 1 = 2 ∧ (d.run serve after).pool.at? 1 = some 9 ∧
      (d.run serve after).Gives ⟨1, 0⟩ none :=
  ⟨rfl, rfl, rfl, rfl,
    (handle_gives_its_object
      (rfl : create? "span" 1 = some (create "span" 1 : Pool Nat)) [.allocate] _ rfl).2.1
      (by decide)⟩

end CapabilityBroker.Pool
