/-
CapabilityBroker/Proofs/Endpoints.lean

What a refused endpoint leaves in the kernel.

A receive endpoint takes three slots of the broker's own table and three of
its owner's, and the send endpoint that goes with it one more of each.  Where
such a request is refused, what was made for it is taken back, and the threads
and the live slots of the kernel are those that were there before it.  There
is one exception, and the two conditions that make it are exact
(`refused_endpoint_leaves_no_object`): a table is full, and it is full after
one or two of three slots (`Kernel.Strands`).  What was taken by then is in
nobody's hands and stays.

An endpoint is made in two halves, and only the first can break off like that:
where the owner's table took the three capabilities, neither table was too
full.  That an endpoint on record can be torn down at all is
`RcvCreated.Revocable`; what is shown here is what the tear-down leaves.
-/
import CapabilityBroker.Proofs.Kernel.Extends
import CapabilityBroker.Proofs.Memory.Service
import CapabilityBroker.Proofs.Refused

namespace CapabilityBroker

open Kernel (Grants MakesRcv Short)

variable {b b' : Broker} {k k' : Kernel} {rcv : Kernel.Rcv} {owner id component : ComponentId}

/-! ### Tables that are nearly full -/

/-- The failure is that of a table without slots. -/
def Failure.IsFull (failure : Failure) : Prop :=
  ∃ reason : Kernel.Refusal, failure = .kernel reason ∧ reason.IsFull

/-- The making of an endpoint for a component stops half way: the broker's table
has too few slots, or it has enough and the component's has too few.  If the
two are one, the broker's share is gone from it by then. -/
def Kernel.Strands (k : Kernel) (id : ComponentId) : Prop :=
  Short (k.room k.selfId) ∨
    3 ≤ k.room k.selfId ∧ Short (k.room id - if id = k.selfId then 3 else 0)

/-- How a request for an endpoint leaves the objects of the kernel when it is
refused. -/
def Broker.Settles (b : Broker) (id : ComponentId) (why : Stop Failure) (b' : Broker) : Prop :=
  ∀ failure, why = .refused failure →
    (b'.kernel.objects = b.kernel.objects ↔ ¬ (failure.IsFull ∧ b.kernel.Strands id))

theorem Failure.isFull_kernel {reason : Kernel.Refusal} :
    Failure.IsFull (.kernel reason) ↔ reason.IsFull := by
  refine ⟨fun ⟨_, heq, hfull⟩ => ?_, fun hfull => ⟨reason, rfl, hfull⟩⟩
  obtain rfl := Failure.kernel.inj heq
  exact hfull

/-- Once the endpoint is made, it is only its owner's table that counts. -/
theorem strands_iff_of_makes (h : MakesRcv k k' owner rcv) :
    k.Strands id ↔ Short (k'.room id) := by
  have hown := h.grants.room k.selfId
  have hroom := h.grants.room id
  rw [if_pos rfl] at hown
  have hlength : rcv.slots.length = 3 := rfl
  rw [hlength] at hown hroom
  have hshort : ¬ Short (k.room k.selfId) := fun hs => by
    have := hs.2
    omega
  unfold Kernel.Strands
  rw [or_iff_right hshort, and_iff_right (by omega), hroom, Nat.add_sub_cancel]

/-- Where the capabilities of an endpoint were installed, its table had room for
them. -/
theorem not_strands_of_makes {k'' : Kernel} {taken : List UInt64}
    (h : MakesRcv k k' owner rcv) (hgrants : Grants k' k'' id taken) (hlength : 3 ≤ taken.length) :
    ¬ k.Strands id := by
  have hroom := hgrants.room id
  rw [if_pos rfl] at hroom
  rw [strands_iff_of_makes h, hroom]
  exact fun hshort => absurd hshort.2 (by omega)

namespace Broker.Settles

variable {why : Stop Failure}

/-- The kernel was not asked yet. -/
theorem of_same (hobjects : b'.kernel.objects = b.kernel.objects)
    (hwhy : ∀ reason, why ≠ .refused (.kernel reason)) : b.Settles id why b' := by
  refine fun failure h => ⟨fun _ hfull => ?_, fun _ => hobjects⟩
  obtain ⟨⟨reason, rfl, _⟩, _⟩ := hfull
  exact hwhy reason h

theorem of_pool {why : Stop Pool.Refusal} (hobjects : b'.kernel.objects = b.kernel.objects) :
    b.Settles id (why.map .pool) b' := by
  refine .of_same hobjects fun reason => ?_
  cases why with
  | refused _ => exact nofun
  | abort => exact nofun

theorem of_abort : b.Settles id .abort b' := fun _ h => by cases h

theorem of_stuck {why : Stop Pool.Refusal} (h : why = .abort) : b.Settles id (why.map .pool) b' :=
  h ▸ .of_abort

/-- Nothing is left behind, and nothing could be. -/
theorem of_not_strands (hobjects : b'.kernel.objects = b.kernel.objects)
    (hs : ¬ b.kernel.Strands id) : b.Settles id why b' :=
  fun _ _ => ⟨fun _ hfull => hs hfull.2, fun _ => hobjects⟩

end Broker.Settles

/-! ### Receive endpoints -/

/-- The capabilities are installed, or the endpoint is taken back and only what
was taken of the owner's table may stay. -/
theorem aliasOrRevokeRcv_settles (hmade : MakesRcv k b.kernel owner rcv) (into : ComponentId) :
    (aliasOrRevokeRcv rcv into).Leads b
      (fun aliases b' => b' = { b with kernel := b'.kernel } ∧
        Grants b.kernel b'.kernel into aliases.slots ∧ b'.kernel.threads = b.kernel.threads)
      (fun why b' => (b' = { b with kernel := b'.kernel } ∧ k.Extends b'.kernel) ∧
        ∀ failure, why = .refused failure →
          (b'.kernel.objects = k.objects ↔ ¬ (failure.IsFull ∧ Short (b.kernel.room into)))) := by
  refine Step.leads_bind.2 (Part.run_leads (Step.leads_explain.2 (Step.leads_attempt.2 ?_)))
  refine (Kernel.aliasRcv_grants hmade.grants.numbered rcv into).mono ?_ ?_
  · rintro aliases k₂ ⟨hgrants, hthreads⟩
    exact Step.leads_pure.2 ⟨rfl, hgrants, hthreads⟩
  · rintro why k₂ ⟨⟨taken, hgrants, _, hcuts⟩, hthreads⟩
    refine ⟨?_, fun _ => ⟨⟨rfl, hmade.extends.trans (hgrants.extends hthreads)⟩, nofun⟩⟩
    rintro reason rfl
    have hrevoke := hmade.revoke hgrants.selfId hthreads hgrants.live hgrants.new
    refine Step.leads_bind.2 (Part.run_leads (Step.leads_explain.2
      (hrevoke.mono ?_ fun _ _ => False.elim)))
    rintro _ k₃ ⟨hself₃, hthreads₃, hlive₃⟩
    have hextends : k.Extends k₃ :=
      .of_threads hself₃ (hlive₃ ▸ Set.subset_union_left) hthreads₃
    refine Step.leads_refuse.2 ⟨⟨rfl, hextends⟩, fun failure heq => ?_⟩
    obtain rfl := Stop.refused.inj heq
    show k₃.objects = k.objects ↔ _
    unfold Kernel.objects
    rw [Prod.mk.injEq, and_iff_right hthreads₃, hlive₃,
      Kernel.union_slotsIn_eq_iff (hmade.disjoint hgrants.new).1, Failure.isFull_kernel]
    exact (hcuts reason rfl).eq_nil_iff

/-- Between the two states, a receive endpoint was made and its owner was given
its capabilities; it is on record. -/
def RcvCreated.Makes (created : RcvCreated) (b : Broker) (owner : ComponentId) (b' : Broker) :
    Prop :=
  ∃ r k, b'.rcvs.get? created.rcv = some r ∧ r.owner = owner ∧ MakesRcv b.kernel k owner r.kernel ∧
    Grants k b'.kernel owner created.aliases.slots ∧ b'.kernel.threads = k.threads

theorem schedulingEndpoint_settles (component : ComponentId) (core : CoreId) :
    (schedulingEndpoint component core).Leads b (fun _ b' => b = b') (b.Settles component) := by
  refine Step.leads_bind.2 (Step.Leads.get_bind (Step.leads_require.2 ⟨fun record _ => ?_, ?_⟩))
  · refine Step.Leads.require_bind (fun handle _ => ?_) fun _ => .of_same rfl nofun
    exact Step.Leads.get_bind (Step.leads_require.2 ⟨fun _ _ => rfl, fun _ => .of_same rfl nofun⟩)
  · exact fun _ => .of_same rfl nofun

/-- A table of the broker's own that is full is the one that counts. -/
theorem Broker.Settles.of_breaksOff {why : Stop Kernel.Refusal}
    (h : Kernel.BreaksOff b.kernel b.kernel.selfId why k) (hk : b'.kernel = k) :
    b.Settles id (why.map .kernel) b' := by
  subst hk
  cases why with
  | abort => exact .of_abort
  | refused reason =>
    intro failure heq
    obtain rfl := Stop.refused.inj heq
    refine h.objects_eq_iff.trans (not_congr ?_)
    rw [Failure.isFull_kernel]
    refine and_congr_right fun hfull => (or_iff_left fun hs => ?_).symm
    exact Nat.not_le.2 (h.room_lt hfull) hs.1

/-- Where the endpoint is made, it could not have been made by half. -/
theorem createReceiveEndpoint_settles (hk : b.kernel.Numbered) (component : ComponentId)
    (core : CoreId) :
    (createReceiveEndpoint component core).Leads b
      (fun created b' => created.Makes b component b' ∧ ¬ b.kernel.Strands component)
      (b.Settles component) := by
  refine Step.Leads.bind (schedulingEndpoint_settles component core) ?_
  rintro _ _ rfl
  refine Step.leads_bind.2 (Part.ask_leads (Pool.allocate_kept.mono ?_ fun _ _ _ => .of_pool rfl))
  intro rcvSlot rcvs _
  refine Step.leads_cleanly.2 (Step.leads_bind.2 (Part.ask_leads
    (Pool.allocate_kept.mono ?_ fun _ _ _ => .of_pool rfl)))
  intro threadSlot threads _
  refine Step.leads_cleanly.2 ?_
  -- The kernel makes the endpoint, and then its capabilities.
  refine Step.leads_bind.2 (Part.run_leads (Step.leads_explain.2
    ((Kernel.createRcv_makes hk component).mono ?_ fun _ _ h => .of_breaksOff h rfl)))
  intro rcv k₁ hmade
  have hmade₁ : MakesRcv b.kernel { b with rcvs, threads, kernel := k₁ }.kernel component rcv :=
    hmade
  refine Step.leads_bind.2 ((aliasOrRevokeRcv_settles hmade₁ component).mono ?_ ?_)
  · rintro aliases b₂ ⟨_, hgrants, hthreads⟩
    have hstrands : ¬ b.kernel.Strands component :=
      not_strands_of_makes hmade₁ hgrants (Nat.le_refl 3)
    -- Both records are published.
    refine Step.leads_bind.2 (Part.ask_leads (Pool.activate_leads.mono ?_
      fun _ _ h => .of_stuck h.2.1))
    rintro thread _ ⟨_, rfl, rfl⟩
    refine Step.leads_bind.2 (Part.ask_leads (Pool.activate_leads.mono ?_
      fun _ _ h => .of_stuck h.2.1))
    rintro handle _ ⟨_, rfl, rfl⟩
    refine Step.Leads.modify_bind (Step.leads_pure.2 ⟨?_, hstrands⟩)
    refine ⟨⟨rcv, component, aliases.rcv⟩, k₁, ?_, rfl, hmade, hgrants, hthreads⟩
    exact Pool.get?_eq_some_iff.2 ((Pool.entry_publish _).trans (if_pos rfl))
  · rintro why b₂ ⟨_, h⟩ failure heq
    rw [strands_iff_of_makes hmade₁]
    exact h failure heq

/-- The endpoint is taken back later, and with it all that was made for it. -/
theorem RcvCreated.Makes.revoke {created : RcvCreated} {b'' : Broker}
    (h : created.Makes b owner b') (hrcvs : b'.rcvs.Same b''.rcvs)
    (hself : b''.kernel.selfId = b'.kernel.selfId)
    (hobjects : b''.kernel.objects = b'.kernel.objects) :
    (revokeReceiveEndpoint created).Leads b''
      (fun _ last => last.kernel.objects = b.kernel.objects) (fun _ _ => True) := by
  obtain ⟨r, k, hr, rfl, hmade, hgrants, hthreads⟩ := h
  obtain ⟨hthreads', hlive'⟩ := Prod.mk.inj hobjects
  have hr' : b''.rcvs.get? created.rcv = some r := by
    rw [Pool.get?_eq_some_iff] at hr ⊢
    exact hrcvs.handle _ _ _ hr
  refine Step.leads_bind.2 ((knownRcv_leads hr').mono ?_ fun _ _ => False.elim)
  rintro _ _ ⟨rfl, rfl⟩
  refine Step.leads_bind.2 (Part.run_leads (Step.leads_explain.2
    ((Kernel.revokeRcvAlias_objects (hlive' ▸ hgrants.subset)).mono ?_ fun _ _ => False.elim)))
  rintro _ k₁ ⟨hself₁, hthreads₁, hlive₁⟩
  have hlive : k₁.liveSlots = k.liveSlots ∪ ∅ := by
    rw [Set.union_empty, ← hgrants.new.sdiff_eq_left, ← Set.union_sdiff_right, ← hgrants.live,
      ← hlive']
    exact hlive₁
  have hrevoke := hmade.revoke (hself₁.trans (hself.trans hgrants.selfId))
    (hthreads₁.trans (hthreads'.trans hthreads)) hlive disjoint_bot_right
  refine Step.leads_bind.2 (Part.run_leads (Step.leads_explain.2
    (hrevoke.mono ?_ fun _ _ => False.elim)))
  rintro _ k₂ ⟨_, hthreads₂, hlive₂⟩
  -- The records that go then are not the kernel's.
  refine Step.leads_bind.2 (Part.ask_leads (.of_forall (fun _ rcvs => ?_) fun _ _ => trivial))
  refine Step.leads_bind.2 (Part.ask_leads (.of_forall (fun _ threads => ?_) fun _ _ => trivial))
  refine Step.leads_modify.2 (Prod.ext hthreads₂ ?_)
  exact hlive₂.trans (Set.union_empty _)

/-! ### Send endpoints -/

/-- The capability is installed, or the endpoint is taken back. -/
theorem aliasOrRevokeAsnd_settles {asnd : Kernel.Asnd}
    (hgrants : Grants k b.kernel k.selfId [asnd.cap.slot]) (hthreads : b.kernel.threads = k.threads)
    (into : ComponentId) :
    (aliasOrRevokeAsnd asnd into).Leads b
      (fun cap b' => b' = { b with kernel := b'.kernel } ∧
        Grants b.kernel b'.kernel into [cap.slot] ∧ b'.kernel.threads = b.kernel.threads)
      (fun why b' => (b' = { b with kernel := b'.kernel } ∧ k.Extends b'.kernel) ∧
        ∀ failure, why = .refused failure →
          b'.kernel.selfId = k.selfId ∧ b'.kernel.objects = k.objects) := by
  refine Step.leads_bind.2 (Part.run_leads (Step.leads_explain.2 (Step.leads_attempt.2 ?_)))
  refine (Kernel.aliasAsnd_objects hgrants.numbered into).mono ?_ ?_
  · exact fun _ _ h => Step.leads_pure.2 ⟨rfl, h⟩
  · rintro why k₁ ⟨hself, hobjects⟩
    refine ⟨fun reason _ => ?_, fun _ => ⟨⟨rfl, ?_⟩, nofun⟩⟩
    · refine Step.leads_bind.2 (Part.run_leads (Step.leads_explain.2
        ((hgrants.revokeAsnd hthreads hself hobjects).mono ?_ fun _ _ => False.elim)))
      exact fun _ k₂ hlast =>
        Step.leads_refuse.2 ⟨⟨rfl, .of_objects hlast.1 hlast.2⟩, fun _ _ => hlast⟩
    · exact (hgrants.extends hthreads).trans (.of_objects hself hobjects)

/-- A send endpoint that is refused leaves no object behind. -/
theorem createSendEndpoint_settles (hk : b.kernel.Numbered) (component : ComponentId)
    (target : Handle RcvRecord) :
    (createSendEndpoint component target).Leads b (fun _ _ => True) (fun why b' =>
      ∀ failure, why = .refused failure →
        b'.kernel.selfId = b.kernel.selfId ∧ b'.kernel.objects = b.kernel.objects) := by
  refine Step.leads_bind.2 ((knownRcv_looks (R := Eq) target b).mono ?_
    fun _ _ h _ _ => h ▸ ⟨rfl, rfl⟩)
  rintro rcv _ rfl
  refine Step.leads_bind.2 (Part.ask_leads (Pool.allocate_kept.mono ?_
    fun _ _ _ _ _ => ⟨rfl, rfl⟩))
  intro slot asnds _
  refine Step.leads_cleanly.2 (Step.leads_bind.2 (Part.run_leads (Step.leads_explain.2
    ((Kernel.createAsnd_grants hk rcv.kernel).mono ?_ ?_))))
  · rintro asnd k₁ ⟨hgrants, hthreads, _⟩
    have halias := aliasOrRevokeAsnd_settles (b := { b with asnds, kernel := k₁ }) hgrants
      hthreads component
    refine Step.leads_bind.2 (halias.mono (fun cap b₂ _ => ?_) fun _ _ => And.right)
    refine Step.leads_bind.2 (Part.ask_leads (Pool.activate_leads.mono ?_ ?_))
    · exact fun _ _ _ => Step.Leads.modify_bind (Step.leads_pure.2 trivial)
    · rintro _ _ ⟨_, rfl, _⟩ failure heq
      cases heq
  · rintro why _ rfl failure _
    exact ⟨rfl, rfl⟩

/-! ### Endpoint pairs -/

/-- Where only the send endpoint is refused, the receive endpoint is torn down, and
nothing of the two is left. -/
theorem RcvCreated.Makes.takenBack {created : RcvCreated} (h : created.Makes b owner b')
    (hrevocable : created.Revocable b b') (component : ComponentId) :
    (createSendEndpoint component created.rcv).Leads b' (fun _ _ => True) (fun why b₂ =>
      ∀ failure, why = .refused failure → (revokeReceiveEndpoint created).Leads b₂
        (fun _ b₃ => b.Unchanged b₃ ∧ b₃.kernel.objects = b.kernel.objects)
        (fun _ _ => False)) := by
  have hk : b'.kernel.Numbered := by
    obtain ⟨_, _, _, _, _, hgrants, _⟩ := h
    exact hgrants.numbered
  have hreverts : (createSendEndpoint component created.rcv).Reverts Broker.Unchanged
      (fun _ => True) b' b' := createSendEndpoint_reverts component created.rcv
  refine (((createSendEndpoint_settles hk component created.rcv).and
    (createSendEndpoint_above component created.rcv b')).and hreverts).mono
      (fun _ _ _ => trivial) ?_
  rintro why b₂ ⟨⟨hsettles, habove⟩, hundone⟩ failure rfl
  obtain ⟨hself, hobjects⟩ := hsettles failure rfl
  have hunchanged := hundone trivial
  refine ((hrevocable.after hunchanged habove).revoke.and
    (h.revoke hunchanged.rcvs hself hobjects)).mono (fun _ _ => id) fun _ _ => And.left

namespace Service

variable {i : Invocation}

/-- Where only the send endpoint is refused, the table of the component was not
too full for a receive endpoint, and nothing of it is left. -/
theorem createEndpointPair_settles (hk : b.kernel.Numbered) :
    (createEndpointPair i).Leads b (fun _ _ => True) (b.Settles i.caller) := by
  refine Step.leads_bind.2 ((acting_leads i).mono ?_ ?_)
  · rintro _ _ ⟨rfl, rfl, _⟩
    have hfirst := (createReceiveEndpoint_settles hk i.caller i.core).and
      (createReceiveEndpoint_revocable i.caller i.core)
    refine Step.leads_bind.2 (hfirst.mono ?_ fun _ _ h => h.1)
    rintro created b₁ ⟨⟨hmakes, hstrands⟩, hrevocable⟩
    refine Step.leads_bind.2 (Step.leads_attempt.2
      ((hmakes.takenBack hrevocable i.caller).mono ?_ ?_))
    · exact fun _ _ _ => Step.leads_pure.2 trivial
    · rintro why b₂ htaken
      refine ⟨fun failure hwhy => ?_, fun _ => .of_abort⟩
      refine Step.leads_bind.2 ((htaken failure hwhy).mono ?_ fun _ _ => False.elim)
      exact fun _ b₃ h₃ => Step.leads_refuse.2 (.of_not_strands h₃.2 hstrands)
  · rintro why _ ⟨rfl, rfl, _⟩
    exact .of_same rfl nofun

/-! ### Along a run -/

variable {s : Setting} {image : Image}

/-- A refused request for an endpoint pair leaves the threads and the live slots
as they were, unless it is refused by a table that is full after one or two of
three slots. -/
theorem refused_endpoint_leaves_no_object (h : Reached s image b) (i : Invocation)
    (entry : EntryIndex) (flags : Kernel.RcvFlags) {failure : Failure}
    (refused : perform image i (.createReceiveEndpoint entry flags) b =
      .error (.refused failure) b') :
    b'.kernel.objects = b.kernel.objects ↔
      ¬ (failure.IsFull ∧ b.kernel.Strands i.caller) := by
  have hperform : (perform image i (.createReceiveEndpoint entry flags)).Leads b
      (fun _ _ => True) (b.Settles i.caller) :=
    Step.leads_map.2 (Step.leads_map.2 (createEndpointPair_settles h.numbered))
  exact hperform.of_error refused failure rfl

/-- The ordinary system, where each capability table has so many slots. -/
def Setting.withSlots (count : UInt64) : Setting :=
  { Setting.ordinary with layout := { Kernel.Layout.standard with captblSize := count } }

/-- Of seven slots in the broker's table three are left once the scheduler runs.
An endpoint takes them; there is none for its send endpoint, and all three are
given back. -/
theorem endpoint_of_last_slots_is_taken_back :
    ∃ image b b', Reached (.withSlots 7) image b ∧
      perform image ⟨⟨6⟩, ⟨0⟩⟩ endpointPair b =
        .error (.refused (.kernel (.capabilityTableFull ⟨2⟩))) b' ∧
      b'.kernel.objects = b.kernel.objects := by
  have hrun : ((Setting.withSlots 7).run [.parallelInit ⟨0⟩ true]).any (fun p =>
      (refusalOf p.1 ⟨⟨6⟩, ⟨0⟩⟩ endpointPair p.2).any fun r =>
        r.1 = .kernel (.capabilityTableFull ⟨2⟩) ∧ p.2.kernel.selfId = ⟨2⟩ ∧
          p.2.kernel.room ⟨2⟩ = 3 ∧ p.2.kernel.room ⟨6⟩ = 7) = true := by decide +kernel
  obtain ⟨image, b, hreached, hshows⟩ := exists_reached hrun
  obtain ⟨⟨failure, b'⟩, hrefusal, hshows⟩ := (Option.any_eq_true _ _).1 hshows
  obtain ⟨rfl, hself, hown, hroom⟩ := of_decide_eq_true hshows
  have hperform := of_refusalOf hrefusal
  refine ⟨image, b, b', hreached, hperform, ?_⟩
  refine (refused_endpoint_leaves_no_object hreached _ _ _ hperform).2 fun ⟨_, hstrands⟩ => ?_
  unfold Kernel.Strands at hstrands
  rw [hself, hown, hroom] at hstrands
  exact absurd hstrands (by decide)

/-- Of five slots one is left.  The thread of an endpoint takes it; there is none
for the endpoint, and nothing is given back. -/
theorem thread_of_last_slot_stays :
    ∃ image b b', Reached (.withSlots 5) image b ∧
      perform image ⟨⟨6⟩, ⟨0⟩⟩ endpointPair b =
        .error (.refused (.kernel (.capabilityTableFull ⟨2⟩))) b' ∧
      b'.kernel.threads ≠ b.kernel.threads ∧ b'.kernel.liveSlots ≠ b.kernel.liveSlots := by
  have hrun : ((Setting.withSlots 5).run [.parallelInit ⟨0⟩ true]).any (fun p =>
      (refusalOf p.1 ⟨⟨6⟩, ⟨0⟩⟩ endpointPair p.2).any fun r =>
        r.1 = .kernel (.capabilityTableFull ⟨2⟩) ∧
          (p.2.kernel.threadOwner? ⟨3⟩ = none ∧ p.2.kernel.holds ⟨2⟩ 20 = false) ∧
          r.2.kernel.threadOwner? ⟨3⟩ = some ⟨6⟩ ∧ r.2.kernel.holds ⟨2⟩ 20 = true) = true := by
    decide +kernel
  obtain ⟨image, b, hreached, hshows⟩ := exists_reached hrun
  obtain ⟨⟨failure, b'⟩, hrefusal, hshows⟩ := (Option.any_eq_true _ _).1 hshows
  obtain ⟨rfl, ⟨hnone, hfree⟩, hsome, htaken⟩ := of_decide_eq_true hshows
  refine ⟨image, b, b', hreached, of_refusalOf hrefusal, fun hthreads => ?_, fun hlive => ?_⟩
  · unfold Kernel.threadOwner? at hnone hsome
    rw [← hthreads, hsome] at hnone
    cases hnone
  · have hmem : ((⟨2⟩, 20) : ComponentId × UInt64) ∈ b.kernel.liveSlots := hlive ▸ htaken
    exact Bool.false_ne_true (hfree.symm.trans hmem)

end Service

end CapabilityBroker
