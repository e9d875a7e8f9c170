/-
CapabilityBroker/Proofs/Pool/Plain.lean

Pools that remember nothing but their slots.

A plain pool has no low-water mark and no count of its objects: every search
goes through all slots from the first one on, and objects are counted one by
one.  It is what a pool is meant to be like, so the mark and the count of a
pool are right if a plain pool gives the same replies.

`Follows` says when a server does what a pool does, seen through a view of the
pool.  It need do so only where the pool is regular and keeps what is spent,
as these hold at every sound desk; then all replies agree, over any uses
(`Follows.log_eq`).
-/
import CapabilityBroker.Proofs.Pool.Custody

namespace CapabilityBroker

open Pool (Use Answer Server Desk Effect Declined)

variable {σ α : Type}

namespace Pool

/-! ### Doing what a pool does -/

/-- What a pool can rely on when it serves a use. -/
structure Ready (p : Pool α) (use : Use α) : Prop where
  regular : p.Regular
  limit : p.capacity < capacityLimit
  holds : ∀ r, use.spent? = some r → p.Holds r

/-- A server does on what it sees of a pool what the pool does itself. -/
structure Follows (server : Server σ α) (view : Pool α → σ) : Prop where
  effect : ∀ {p p' use a}, Ready p use → Effect p use a p' →
    (server use).Leads (view p) (fun a' st => a' = a ∧ st = view p') (fun _ _ => False)
  declined : ∀ {p use why}, Ready p use → Declined p use why →
    (server use).Leads (view p) (fun _ _ => False) (fun why' st => why' = why ∧ st = view p)

/-- A desk, seen through a view of its pool. -/
def Desk.seen (view : Pool α → σ) (d : Desk (Pool α) α) : Desk σ α := ⟨view d.pool, d.held⟩

namespace Follows

variable {server : Server σ α} {view : Pool α → σ} {d : Desk (Pool α) α}

theorem answer_eq (h : Follows server view) (hd : d.Sound)
    (hlimit : d.pool.capacity < capacityLimit) (use : Use α) :
    (d.seen view).reply server use = d.reply serve use ∧
      (d.seen view).next server use = (d.next serve use).seen view ∧
      (d.next serve use).pool.capacity = d.pool.capacity := by
  by_cases ho : d.offers use = true
  · have hready : Ready d.pool use :=
      ⟨hd.regular, hlimit, fun r hr => hd.holds r (Desk.mem_held ho hr)⟩
    rcases Desk.ends (serve_leads use) ho with
      ⟨a, p, he, hreply, hnext⟩ | ⟨why, p, ⟨hdeclined, rfl⟩, hreply, hnext⟩
    · rcases Desk.ends (d := d.seen view) (h.effect hready he) ho with
        ⟨_, _, ⟨rfl, rfl⟩, hreply', hnext'⟩ | ⟨_, _, hno, _⟩
      · rw [hreply, hreply', hnext, hnext']
        exact ⟨rfl, rfl, he.capacity_eq⟩
      · exact hno.elim
    · rcases Desk.ends (d := d.seen view) (h.declined hready hdeclined) ho with
        ⟨_, _, hno, _⟩ | ⟨_, _, ⟨rfl, rfl⟩, hreply', hnext'⟩
      · exact hno.elim
      · rw [hreply, hreply', hnext, hnext']
        exact ⟨rfl, rfl, rfl⟩
  · have ho' : ¬ (d.seen view).offers use = true := ho
    rw [Desk.reply_of_not_offers ho, Desk.reply_of_not_offers ho', Desk.next_of_not_offers ho,
      Desk.next_of_not_offers ho']
    exact ⟨rfl, rfl, rfl⟩

/-- A server that does what the pool does gives the same replies. -/
theorem log_eq (h : Follows server view) (hd : d.Sound) (hlimit : d.pool.capacity < capacityLimit)
    (uses : List (Use α)) : (d.seen view).log server uses = d.log serve uses := by
  induction uses generalizing d with
  | nil => rfl
  | cons use rest ih =>
    obtain ⟨hreply, hnext, hcapacity⟩ := h.answer_eq hd hlimit use
    unfold Desk.log
    rw [hreply, hnext, ih (hd.next use) (by rw [hcapacity]; exact hlimit)]

end Follows

end Pool

/-! ### Plain pools -/

/-- A pool that remembers nothing but its slots. -/
structure Plain (α : Type) where
  name : String
  capacity : Nat
  entry : Nat → Pool.Entry α

namespace Plain

/-- A plain pool with all slots free. -/
def create (name : String) (capacity : Nat) : Plain α := ⟨name, capacity, fun _ => .fresh⟩

/-- Whether a slot is free. -/
def isFree (q : Plain α) (index : Nat) : Bool :=
  match (q.entry index).slot with
  | .free => true
  | _ => false

/-- The object in a slot. -/
def at? (q : Plain α) (index : Nat) : Option α :=
  match (q.entry index).slot with
  | .active object => some object
  | _ => none

/-- The object of a handle. -/
def get? (q : Plain α) (h : Handle α) : Option α :=
  if (q.entry h.index).generation = h.generation then q.at? h.index else none

/-- Write a slot. -/
def write (q : Plain α) (index : Nat) (e : Pool.Entry α) : Plain α :=
  { q with entry := fun i => if index = i then e else q.entry i }

/-- Keep several slots. -/
def reserve (q : Plain α) (indices : List Nat) : Plain α :=
  { q with entry := fun i =>
      if i ∈ indices then { q.entry i with slot := .reserved } else q.entry i }

/-- The reservations of several slots. -/
def reservations (q : Plain α) (indices : List Nat) : List (Reservation α) :=
  indices.map fun i => ⟨i, (q.entry i).generation⟩

/-- Free a slot under the next generation. -/
def release (q : Plain α) (index : Nat) : Plain α :=
  q.write index ⟨(q.entry index).generation + 1, .free⟩

/-- The least free slot of all. -/
def firstFree? (q : Plain α) : Option Nat := (List.range' 1 q.capacity).find? q.isFree

/-- The least slot of all from which `count` slots are free. -/
def firstRun? (q : Plain α) (count : Nat) : Option Nat :=
  (List.range' 1 (q.capacity + 1 - count)).find? fun start =>
    (List.range' start count).all q.isFree

/-- The number of objects, counted slot by slot. -/
def objects (q : Plain α) : Nat := (List.range' 1 q.capacity).countP fun i => (q.at? i).isSome

/-- Keep the slots that a search found, if it found any. -/
def keep (indices? : Option (List Nat)) : Step (Plain α) Pool.Refusal (Answer α) := do
  let q ← get
  match indices? with
  | none => Step.refuse (.exhausted q.name)
  | some indices =>
    set (q.reserve indices)
    pure (.reserved (q.reservations indices))

/-- A plain pool serves the uses of a pool. -/
def serve : Server (Plain α) α
  | .allocate => do
    let q ← get
    keep (q.firstFree?.map fun index => [index])
  | .allocateRun count => do
    let q ← get
    if count = 0 then pure (.reserved [])
    else keep ((q.firstRun? count).map fun start => List.range' start count)
  | .allocateAt index => do
    let q ← get
    if index = 0 ∨ index > q.capacity then Step.refuse (.outOfRange q.name index)
    else if q.isFree index then keep (some [index])
    else Step.refuse (.occupied q.name index)
  | .activate r object => do
    let q ← get
    set (q.write r.index ⟨(q.entry r.index).generation, .active object⟩)
    pure (.published r.handle)
  | .drop r => do
    let q ← get
    match (q.entry r.index).slot with
    | .reserved => set (q.release r.index)
    | _ => pure ()
    pure .dropped
  | .free h => do
    let q ← get
    match q.get? h with
    | some object =>
      set (q.release h.index)
      pure (.removed object)
    | none => Step.refuse (.stale q.name h.index)
  | .look h => do
    let q ← get
    pure (.seen (q.get? h))
  | .change h f => do
    let q ← get
    match q.get? h with
    | some object => set (q.write h.index ⟨h.generation, .active (f object)⟩)
    | none => pure ()
    pure (.seen (q.get? h))
  | .count => do
    let q ← get
    pure (.counted q.objects)

end Plain

/-! ### What a pool is like without its mark -/

namespace Pool

variable {p p' : Pool α}

/-- A pool without its mark and its count. -/
def plain (p : Pool α) : Plain α := ⟨p.name, p.capacity, p.entry⟩

theorem plain_eq {q : Plain α} (hname : q.name = p.name) (hcapacity : q.capacity = p.capacity)
    (hentry : ∀ i, q.entry i = p.entry i) : q = p.plain := by
  obtain ⟨name, capacity, entry⟩ := q
  obtain rfl : name = p.name := hname
  obtain rfl : capacity = p.capacity := hcapacity
  obtain rfl : entry = p.entry := funext hentry
  rfl

theorem plain_get? (p : Pool α) (h : Handle α) : p.plain.get? h = p.get? h := by
  show (if (p.entry h.index).generation = h.generation then p.at? h.index else none) = _
  unfold at? get?
  rcases p.entry h.index with ⟨g, _ | _ | o⟩
  · exact ite_self _
  · exact ite_self _
  · rfl

theorem name_reserveAll (indices : List Nat) : (p.reserveAll indices).name = p.name := by
  induction indices generalizing p with
  | nil => rfl
  | cons j rest ih => exact ih

theorem plain_reserve (indices : List Nat) :
    p.plain.reserve indices = (p.reserveAll indices).plain :=
  plain_eq (name_reserveAll indices).symm (capacity_reserveAll indices).symm fun _ =>
    (entry_reserveAll indices).symm

theorem plain_release (index : Nat) : p.plain.release index = (p.release index).plain := by
  refine plain_eq rfl rfl fun i => ?_
  rw [entry_release]
  show (if index = i then (⟨(p.entry index).generation + 1, .free⟩ : Entry α) else p.entry i) = _
  split
  · next hi => rw [hi]
  · rfl

theorem plain_publish {r : Reservation α} (holds : p.Holds r) (object : α) :
    p.plain.write r.index ⟨(p.entry r.index).generation, .active object⟩ =
      (p.publish r object).plain := by
  refine plain_eq rfl rfl fun i => ?_
  rw [entry_publish]
  show (if r.index = i then (⟨(p.entry r.index).generation, .active object⟩ : Entry α)
    else p.entry i) = _
  rw [show (p.entry r.index).generation = r.generation from congrArg Entry.generation holds]

theorem plain_modify {h : Handle α} {object : α} (hget : p.get? h = some object) (f : α → α) :
    p.plain.write h.index ⟨h.generation, .active (f object)⟩ = (p.modify h f).plain := by
  obtain ⟨entries, heq⟩ := p.modify_eq h f
  refine plain_eq (by rw [heq]; rfl) (by rw [heq]; rfl) fun i => ?_
  rw [entry_modify, hget]
  rfl

/-- Below the mark of a regular pool there is nothing to find. -/
theorem plain_firstFree? (hp : p.Regular) :
    p.plain.firstFree? = p.firstFree? (p.capacity + 1 - p.lowWater) p.lowWater :=
  (firstFree?_eq_first hp.pos hp.busy).symm

theorem plain_firstRun? (hp : p.Regular) {count : Nat} (positive : count ≠ 0) :
    p.plain.firstRun? count = p.findRun? count (p.capacity + 1) p.lowWater :=
  (findRun?_eq_first positive hp.pos hp.busy).symm

/-- A run that is longer than the pool has no place in it. -/
theorem plain_firstRun?_of_lt {count : Nat} (hlong : p.capacity < count) :
    p.plain.firstRun? count = none := by
  unfold Plain.firstRun?
  rw [show p.plain.capacity + 1 - count = 0 from Nat.sub_eq_zero_of_le hlong]
  rfl

/-- Keeping the slots that were found is the same with and without a mark. -/
theorem keep_leads (indices : List Nat) {q : Pool α}
    (hq : q.plain = (p.reserveAll indices).plain) :
    (Plain.keep (some indices)).Leads p.plain
      (fun a st => a = .reserved (indices.map p.reservation) ∧ st = q.plain)
      (fun _ _ => False) := by
  refine Step.Leads.get_bind (Step.Leads.set_bind (Step.leads_pure.2 ⟨rfl, ?_⟩))
  rw [hq, plain_reserve]

theorem keep_none_leads : (Plain.keep none).Leads p.plain (fun _ _ => False)
    (fun why st => why = .refused (.exhausted p.name) ∧ st = p.plain) :=
  Step.Leads.get_bind (Step.leads_refuse.2 ⟨rfl, rfl⟩)

/-! ### A plain pool does what a pool does -/

variable {use : Use α}

theorem plain_effect {a : Answer α} (hready : Ready p use) (he : Effect p use a p') :
    (Plain.serve use).Leads p.plain (fun a' st => a' = a ∧ st = p'.plain) (fun _ _ => False) := by
  have hregular := hready.regular
  cases he with
  | @allocate index first =>
    refine Step.Leads.get_bind ?_
    rw [plain_firstFree? hregular, first]
    exact keep_leads [index] rfl
  | allocateNone => exact Step.Leads.get_bind (Step.leads_pure.2 ⟨rfl, rfl⟩)
  | @allocateRun count start positive first =>
    refine Step.Leads.get_bind ?_
    rw [if_neg positive, plain_firstRun? hregular positive, first]
    exact keep_leads (List.range' start count) rfl
  | @allocateAt index positive within free =>
    refine Step.Leads.get_bind (Step.Leads.ite (fun hout => ?_) fun _ => ?_)
    · exact absurd hout (not_or.2 ⟨positive, Nat.not_lt.2 within⟩)
    · exact Step.Leads.ite (fun _ => keep_leads [index] rfl) fun hbusy => absurd free hbusy
  | activate holds =>
    exact Step.Leads.get_bind
      (Step.Leads.set_bind (Step.leads_pure.2 ⟨rfl, plain_publish holds _⟩))
  | @drop r =>
    refine Step.Leads.get_bind ?_
    have hslot : (p.plain.entry r.index).slot = .reserved := (hready.holds r rfl).slot
    have hrelease : p.unreserve r = p.release r.index := by
      unfold unreserve
      rw [(hready.holds r rfl).slot]
    rw [hslot, hrelease]
    exact Step.Leads.set_bind (Step.leads_pure.2 ⟨rfl, plain_release _⟩)
  | free reaches =>
    refine Step.Leads.get_bind ?_
    rw [plain_get?, reaches]
    exact Step.Leads.set_bind (Step.leads_pure.2 ⟨rfl, plain_release _⟩)
  | look =>
    refine Step.Leads.get_bind ?_
    rw [plain_get?]
    exact Step.leads_pure.2 ⟨rfl, rfl⟩
  | @change h f =>
    refine Step.Leads.get_bind ?_
    rw [plain_get?]
    cases hget : p.get? h with
    | none => exact Step.leads_pure.2 ⟨rfl, by rw [modify_of_stale hget]⟩
    | some object => exact Step.Leads.set_bind (Step.leads_pure.2 ⟨rfl, plain_modify hget f⟩)
  | count =>
    refine Step.Leads.get_bind (Step.leads_pure.2 ⟨?_, rfl⟩)
    rw [hregular.counted]
    rfl

theorem plain_declined {why : Stop Refusal} (hready : Ready p use) (hd : Declined p use why) :
    (Plain.serve use).Leads p.plain (fun _ _ => False)
      (fun why' st => why' = why ∧ st = p.plain) := by
  have hregular := hready.regular
  cases hd with
  | allocate full =>
    refine Step.Leads.get_bind ?_
    rw [plain_firstFree? hregular, full]
    exact keep_none_leads
  | @allocateRun count positive full =>
    have hnone : p.plain.firstRun? count = none := by
      rcases full with hlong | hnone
      · exact plain_firstRun?_of_lt hlong
      · rw [plain_firstRun? hregular positive, hnone]
    refine Step.Leads.get_bind ?_
    rw [if_neg positive, hnone]
    exact keep_none_leads
  | outOfRange outside =>
    refine Step.Leads.get_bind (Step.Leads.ite (fun _ => ?_) fun hin => absurd outside hin)
    exact Step.leads_refuse.2 ⟨rfl, rfl⟩
  | occupied positive within busy =>
    refine Step.Leads.get_bind (Step.Leads.ite (fun hout => ?_) fun _ => ?_)
    · exact absurd hout (not_or.2 ⟨positive, Nat.not_lt.2 within⟩)
    · refine Step.Leads.ite (fun hfree => absurd hfree busy) fun _ => ?_
      exact Step.leads_refuse.2 ⟨rfl, rfl⟩
  | unheld lost => exact absurd (hready.holds _ rfl) lost
  | stale lost =>
    refine Step.Leads.get_bind ?_
    rw [plain_get?, lost]
    exact Step.leads_refuse.2 ⟨rfl, rfl⟩

theorem plain_follows : Follows (Plain.serve : Server (Plain α) α) plain :=
  ⟨plain_effect, plain_declined⟩

end Pool

end CapabilityBroker
