/-
CapabilityBroker/Proofs/Agreement/Basic.lean

Records that the kernel bears out.

A record says what the kernel answered once: which thread there is, which slots
name it, which slot another component was given.  `Backed` says that the kernel
still has all of it.  Nothing takes it away as long as the kernel is only
extended, so a record is backed for good from where it is published
(`Agrees.mono`).  What has to be shown at the publication of a thread is that no
other record has its id; every id on record is that of a thread of the kernel,
and the kernel numbers threads anew.
-/
import CapabilityBroker.Object.Endpoint
import CapabilityBroker.Proofs.Kernel.Extends
import CapabilityBroker.Proofs.Move.Memory
import CapabilityBroker.Proofs.Unchanged.Basic

namespace CapabilityBroker

open Step (Stays StaysFrom)

variable {first b b' b'' : Broker} {k k' : Kernel}

/-! ### One record -/

/-- The thread is its client's; the broker holds it, and so does the scheduler if
it was given it. -/
structure ThreadRecord.Backed (t : ThreadRecord) (k : Kernel) : Prop where
  owner : k.threadOwner? t.tid = some t.client
  cap : k.holds k.selfId t.kernel.cap.slot = true
  held : ∀ cap, t.held = .aliased cap → k.holds t.sched cap.slot = true

/-- The thread of the endpoint is its owner's; the broker holds the endpoint, the
thread and the budget, and the owner the endpoint if it was given it. -/
structure RcvRecord.Backed (r : RcvRecord) (k : Kernel) : Prop where
  owner : k.threadOwner? r.kernel.thread.tid = some r.owner
  caps : ∀ slot ∈ r.kernel.slots, k.holds k.selfId slot = true
  aliased : r.aliasedCap ≠ .null → k.holds r.owner r.aliasedCap.slot = true

/-- The broker and the owner hold the endpoint. -/
structure AsndRecord.Backed (a : AsndRecord) (k : Kernel) : Prop where
  cap : k.holds k.selfId a.kernel.cap.slot = true
  aliased : k.holds a.owner a.aliasedCap.slot = true

theorem ThreadRecord.Backed.extends {t : ThreadRecord} (h : t.Backed k) (he : k.Extends k') :
    t.Backed k' :=
  ⟨he.owners _ _ h.owner, he.selfId ▸ he.holds h.cap, fun cap hcap => he.holds (h.held cap hcap)⟩

theorem RcvRecord.Backed.extends {r : RcvRecord} (h : r.Backed k) (he : k.Extends k') :
    r.Backed k' :=
  ⟨he.owners _ _ h.owner, fun slot hslot => he.selfId ▸ he.holds (h.caps slot hslot),
    fun hcap => he.holds (h.aliased hcap)⟩

theorem AsndRecord.Backed.extends {a : AsndRecord} (h : a.Backed k) (he : k.Extends k') :
    a.Backed k' := ⟨he.selfId ▸ he.holds h.cap, he.holds h.aliased⟩

/-! ### All records -/

/-- The send endpoint notifies a receive endpoint on record. -/
def Broker.Targets (b : Broker) (a : AsndRecord) : Prop :=
  ∃ handle r, b.rcvs.get? handle = some r ∧ a.kernel.target = r.kernel.rcv

/-- The kernel bears every record out, no two records are of one thread, and every
send endpoint has its target. -/
structure Broker.Agrees (b : Broker) : Prop where
  numbered : b.kernel.Numbered
  threads : ∀ handle t, b.threads.get? handle = some t → t.Backed b.kernel
  apart : ∀ handle handle' t t', b.threads.get? handle = some t →
    b.threads.get? handle' = some t' → t.tid = t'.tid → handle = handle'
  rcvs : ∀ handle r, b.rcvs.get? handle = some r → r.Backed b.kernel
  asnds : ∀ handle a, b.asnds.get? handle = some a → a.Backed b.kernel ∧ b.Targets a

namespace Broker.Agrees

/-- The kernel is extended, and no record comes or goes. -/
theorem mono (h : b.Agrees) (hn : b'.kernel.Numbered) (he : b.kernel.Extends b'.kernel)
    (ht : ∀ handle, b'.threads.get? handle = b.threads.get? handle)
    (hr : ∀ handle, b'.rcvs.get? handle = b.rcvs.get? handle)
    (ha : ∀ handle, b'.asnds.get? handle = b.asnds.get? handle) : b'.Agrees where
  numbered := hn
  threads handle t hget := (h.threads handle t (ht _ ▸ hget)).extends he
  apart handle handle' t t' hget hget' := h.apart handle handle' t t' (ht _ ▸ hget) (ht _ ▸ hget')
  rcvs handle r hget := (h.rcvs handle r (hr _ ▸ hget)).extends he
  asnds handle a hget := by
    obtain ⟨hback, target, r, htarget, heq⟩ := h.asnds handle a (ha _ ▸ hget)
    exact ⟨hback.extends he, target, r, (hr _).trans htarget, heq⟩

/-- No record is of a thread that the kernel does not have. -/
theorem tid_ne {tid : ThreadId} (h : b.Agrees) (hnone : b.kernel.threadOwner? tid = none)
    {handle : Handle ThreadRecord} {t : ThreadRecord} (hget : b.threads.get? handle = some t) :
    t.tid ≠ tid := by
  rintro rfl
  cases hnone.symm.trans (h.threads handle t hget).owner

theorem publish_thread {slot : Reservation ThreadRecord} {t : ThreadRecord} (h : b.Agrees)
    (hslot : b.threads.Holds slot) (hback : t.Backed b.kernel)
    (hnew : ∀ handle t', b.threads.get? handle = some t' → t'.tid ≠ t.tid) :
    Agrees { b with threads := b.threads.publish slot t } where
  numbered := h.numbered
  threads handle t' hget := by
    rcases (Pool.get?_publish_eq_some_iff hslot).1 hget with ⟨_, rfl⟩ | hold
    · exact hback
    · exact h.threads handle t' hold
  apart handle handle' t₁ t₂ hget hget' htid := by
    rcases (Pool.get?_publish_eq_some_iff hslot).1 hget with ⟨rfl, rfl⟩ | hold <;>
      rcases (Pool.get?_publish_eq_some_iff hslot).1 hget' with ⟨rfl, rfl⟩ | hold'
    · rfl
    · exact absurd htid.symm (hnew _ _ hold')
    · exact absurd htid (hnew _ _ hold)
    · exact h.apart _ _ _ _ hold hold' htid
  rcvs := h.rcvs
  asnds := h.asnds

theorem publish_rcv {slot : Reservation RcvRecord} {r : RcvRecord} (h : b.Agrees)
    (hslot : b.rcvs.Holds slot) (hback : r.Backed b.kernel) :
    Agrees { b with rcvs := b.rcvs.publish slot r } where
  numbered := h.numbered
  threads := h.threads
  apart := h.apart
  rcvs handle r' hget := by
    rcases (Pool.get?_publish_eq_some_iff hslot).1 hget with ⟨_, rfl⟩ | hold
    · exact hback
    · exact h.rcvs handle r' hold
  asnds handle a hget := by
    obtain ⟨hback', target, r', htarget, heq⟩ := h.asnds handle a hget
    exact ⟨hback', target, r', (Pool.get?_publish_eq_some_iff hslot).2 (.inr htarget), heq⟩

theorem publish_asnd {slot : Reservation AsndRecord} {a : AsndRecord} (h : b.Agrees)
    (hslot : b.asnds.Holds slot) (hback : a.Backed b.kernel) (htarget : b.Targets a) :
    Agrees { b with asnds := b.asnds.publish slot a } where
  numbered := h.numbered
  threads := h.threads
  apart := h.apart
  rcvs := h.rcvs
  asnds handle a' hget := by
    rcases (Pool.get?_publish_eq_some_iff hslot).1 hget with ⟨_, rfl⟩ | hold
    · exact ⟨hback, htarget⟩
    · exact h.asnds handle a' hold

/-- The thread with the id of a record is found under its handle. -/
theorem threadByTid?_eq {handle : Handle ThreadRecord} {t : ThreadRecord} (h : b.Agrees)
    (hget : b.threads.get? handle = some t) : b.threadByTid? t.tid = some (handle, t) := by
  have hfind : b.threads.find? (fun t' => t'.tid == t.tid) = some handle :=
    Pool.find?_eq_some_of_unique hget (beq_self_eq_true _) fun handle' t' hget' heq =>
      h.apart handle' handle t' t hget' hget (eq_of_beq heq)
  unfold threadByTid?
  rw [hfind]
  show (b.threads.get? handle).bind _ = _
  rw [hget]
  rfl

end Broker.Agrees

/-! ### Going on -/

/-- The state agrees with its kernel, which extends the one of `first`. -/
structure Broker.Onward (first b : Broker) : Prop where
  agrees : b.Agrees
  kernel : first.kernel.Extends b.kernel

/-- If the state agreed with its kernel, it does so further on. -/
def Broker.Keeping (b b' : Broker) : Prop := b.Agrees → b.Onward b'

namespace Broker.Onward

theorem refl (h : b.Agrees) : b.Onward b := ⟨h, .refl _⟩

theorem trans (h : first.Onward b) (h' : b.Onward b') : first.Onward b' :=
  ⟨h'.agrees, h.kernel.trans h'.kernel⟩

theorem keeping (h : first.Onward b) (h' : b.Keeping b') : first.Onward b' := h.trans (h' h.agrees)

/-- Since `first`, the kernel was extended. -/
theorem of_kernel (h : b.Agrees) (hn : k.Numbered) (he : first.kernel.Extends k)
    (hb : b.kernel = first.kernel) : first.Onward { b with kernel := k } :=
  ⟨h.mono hn (hb ▸ he) (fun _ => rfl) (fun _ => rfl) fun _ => rfl, he⟩

end Broker.Onward

instance : IsPreorder Broker Broker.Keeping where
  refl _ := .refl
  trans _ _ _ h h' hb := (h hb).keeping h'

theorem Broker.Keeping.of_builds (h : b.kernel.Builds k) : b.Keeping { b with kernel := k } :=
  fun hb => .of_kernel hb (h hb.numbered).1 (h hb.numbered).2 rfl

theorem keeping_tacit : Tacit Broker.Keeping :=
  fun _ _ _ _ _ hb => ⟨⟨hb.numbered, hb.threads, hb.apart, hb.rcvs, hb.asnds⟩, .refl _⟩

theorem kernelPart_keeping : kernelPart.Allows Broker.Keeping Kernel.Builds :=
  fun _ _ => .of_builds

theorem componentPool_keeping {S : Pool ComponentRecord → Pool ComponentRecord → Prop} :
    componentPool.Allows Broker.Keeping S :=
  fun _ _ _ hb => ⟨⟨hb.numbered, hb.threads, hb.apart, hb.rcvs, hb.asnds⟩, .refl _⟩

theorem threadPool_keeping : threadPool.Allows Broker.Keeping Pool.Reserves := fun _ _ hp hb =>
  ⟨hb.mono hb.numbered (.refl _) (fun _ => hp.get?_eq) (fun _ => rfl) fun _ => rfl, .refl _⟩

theorem rcvPool_keeping : rcvPool.Allows Broker.Keeping Pool.Reserves := fun _ _ hp hb =>
  ⟨hb.mono hb.numbered (.refl _) (fun _ => rfl) (fun _ => hp.get?_eq) fun _ => rfl, .refl _⟩

theorem asndPool_keeping : asndPool.Allows Broker.Keeping Pool.Reserves := fun _ _ hp hb =>
  ⟨hb.mono hb.numbered (.refl _) (fun _ => rfl) (fun _ => rfl) fun _ => hp.get?_eq, .refl _⟩

/-- Where the objects of the kernel are what they were, an operation that took
back its records has done nothing. -/
theorem Broker.Unchanged.onward (h : b.Unchanged b') (hb : b.Agrees) (hn : b'.kernel.Numbered)
    (he : b.kernel.Extends b'.kernel) : b.Onward b' :=
  ⟨hb.mono hn he h.threads.get?_eq h.rcvs.get?_eq h.asnds.get?_eq, he⟩

/-! ### Memory -/

/-- Primitives on memory do not touch what records speak of. -/
theorem memory_keeping : AdmitsMemory Kernel.MemoryMove Broker.Keeping where
  lines _ _ hb := ⟨⟨hb.numbered, hb.threads, hb.apart, hb.rcvs, hb.asnds⟩, .refl _⟩
  events _ _ _ hb := ⟨⟨hb.numbered, hb.threads, hb.apart, hb.rcvs, hb.asnds⟩, .refl _⟩
  kernel _ _ h := .of_builds fun hn => ⟨h.numbered hn, h.extends⟩
  reads := memory_admits.reads
  spans _ _ hb := ⟨⟨hb.numbered, hb.threads, hb.apart, hb.rcvs, hb.asnds⟩, .refl _⟩
  region _ _ hb := ⟨⟨hb.numbered, hb.threads, hb.apart, hb.rcvs, hb.asnds⟩, .refl _⟩
  carvings _ _ _ _ hb := ⟨⟨hb.numbered, hb.threads, hb.apart, hb.rcvs, hb.asnds⟩, .refl _⟩
  pages _ _ _ hb := ⟨⟨hb.numbered, hb.threads, hb.apart, hb.rcvs, hb.asnds⟩, .refl _⟩
  reserve := memory_admits.reserve
  frames := memory_admits.frames
  device := memory_admits.device

end CapabilityBroker
