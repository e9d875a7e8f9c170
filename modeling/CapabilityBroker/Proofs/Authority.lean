/-
CapabilityBroker/Proofs/Authority.lean

Every thread runs where somebody may run it.

A thread record names the component that the thread begins in and the
component that holds it.  In every state of every run the second may command
the first: it is the same component, or its scheduler by the manifest, or the
manager of the virtual machine that it is; and a thread that nobody holds is
the initial thread of a component that the plan gives one.  Requests add
records held by their caller only, and a request for a thread in a component
that its caller does not command changes no record at all.
-/
import CapabilityBroker.Proofs.Advance.Boot
import CapabilityBroker.Proofs.Run
import CapabilityBroker.Proofs.Schedulers

namespace CapabilityBroker

namespace Service

variable {s : Setting} {image : Image} {b : Broker}

/-! ### The threads of a run -/

/-- Why a thread is where it is. -/
inductive Authorised (m : Manifest) (b : Broker) (t : ThreadRecord) : Prop where
  /-- It is the initial thread that the plan gives its component. -/
  | initial (plan : List (ComponentId × Execution)) (hplan : m.plan = .ok plan)
      (hsched : t.sched = .none) (hheld : t.held = .unaliased)
      (hmem : (t.client, .init) ∈ plan)
  | own (hown : t.sched = t.client)
  | scheduler (hsched : m.Schedules t.sched t.client)
  | manager (record : ComponentRecord) (hrecord : b.component? t.client = some record)
      (hmanager : record.kind = .virtualMachine t.sched)

theorem manager?_eq_some_iff {c : ComponentRecord} {manager : ComponentId} :
    c.manager? = some manager ↔ c.kind = .virtualMachine manager := by
  unfold ComponentRecord.manager?
  cases c.kind <;> simp

/-- A component keeps its kind. -/
theorem component?_of_advance {w : Warrant} {b' : Broker} (h : b.Advance w b') {id : ComponentId}
    {record : ComponentRecord} (hrecord : b.component? id = some record) :
    ∃ record', b'.component? id = some record' ∧ record'.kind = record.kind := by
  obtain ⟨_, ⟨⟨_, rfl⟩, _⟩, hrecord'⟩ := h.components.at? hrecord
  exact ⟨_, hrecord', rfl⟩

theorem Authorised.advance {m : Manifest} {t : ThreadRecord} {w : Warrant} {b' : Broker}
    (h : Authorised m b t) (ha : b.Advance w b') : Authorised m b' t := by
  cases h with
  | initial plan hplan hsched hheld hmem => exact .initial plan hplan hsched hheld hmem
  | own hown => exact .own hown
  | scheduler hsched => exact .scheduler hsched
  | manager record hrecord hmanager =>
    obtain ⟨record', hrecord', hkind⟩ := component?_of_advance ha hrecord
    exact .manager record' hrecord' (hkind.trans hmanager)

/-- Whoever commands a component may hold its threads. -/
theorem Commands.authorised {settings : Settings} {m : Manifest} {t : ThreadRecord}
    (himage : Describes settings m image) (h : Commands image b t.sched t.client) :
    Authorised m b t := by
  rcases h with hsched | ⟨record, hrecord, hmanager⟩
  · rw [himage.schedulers, Schedulers.isSchedulerOf_ofManifest] at hsched
    exact .scheduler hsched
  · exact .manager record hrecord (manager?_eq_some_iff.1 hmanager)

/-- What one action preserves. -/
theorem authorised_after {settings : Settings} {m : Manifest}
    (himage : Describes settings m image)
    (h : ∀ i g t, b.threads.entry i = ⟨g, .active t⟩ → Authorised m b t) (action : Action) :
    ∀ i g t, (action.after image b).threads.entry i = ⟨g, .active t⟩ →
      Authorised m (action.after image b) t := by
  intro i g t ht
  cases action with
  | request inv r =>
    have hadv := (dispatch_staysFrom (b := b) image inv r).final
    -- A thread was there already, or runs in its holder, or in whom its holder commands.
    rcases hadv.threads.added i g t ht with ⟨_, rfl, hold⟩ | ⟨hsched, hown | hcommands⟩
    · exact (h i g _ hold).advance hadv
    · exact .own (hsched.trans hown)
    · rw [← hsched] at hcommands
      exact (hcommands.authorised himage).advance hadv
  | parallelInit core isInitCore =>
    have hadv := (parallelInit_stays image core isInitCore b).final
    -- A core's part adds the initial threads of the plan.
    rcases hadv.threads.added i g t ht with ⟨_, rfl, hold⟩ | ⟨hsched, hheld, hmem⟩
    · exact (h i g _ hold).advance hadv
    · exact .initial image.plan himage.plan hsched hheld hmem
  | parallelMain core =>
    have hadv := (parallelMain_stays (w := .ofBoot) image core b).final
    rcases hadv.threads.added i g t ht with ⟨_, rfl, hold⟩ | hnew
    · exact (h i g _ hold).advance hadv
    · exact hnew.elim

theorem Reached.describes (h : Reached s image b) : Describes s.settings s.manifest image := by
  induction h with
  | boot _ booted => exact (boot_started booted).1
  | act _ _ ih => exact ih

theorem Reached.authorised (h : Reached s image b) :
    ∀ i g t, b.threads.entry i = ⟨g, .active t⟩ → Authorised s.manifest b t := by
  induction h with
  | boot _ booted => exact fun i g t ht => absurd ht ((boot_started booted).2.2.2 i g t)
  | act action before ih => exact authorised_after before.describes ih action

/-! ### Requests for threads -/

/-- The component that a request wants a thread in, if it says so. -/
def threadTarget? : Request → Option ComponentId
  | .createThread client _ => some client
  | .createInitThread client => some client
  | .createVcpu vm _ => some vm
  | _ => none

/-- Something was written down, and nothing else happened. -/
def OnlyNotes (b b' : Broker) : Prop := ∃ trail journal, b' = { b with trail, journal }

instance : IsPreorder Broker OnlyNotes where
  refl b := ⟨b.trail, b.journal, rfl⟩
  trans := by
    rintro b _ _ ⟨_, _, rfl⟩ ⟨trail, journal, rfl⟩
    exact ⟨trail, journal, rfl⟩

theorem deny_onlyNotes {α : Type} (caller target : ComponentId) :
    (deny caller target : Operation α).StaysFrom OnlyNotes b :=
  (deny_leads caller target).mono (fun _ _ h => h.elim) fun _ _ h => h.2

/-- Who does not command the client gets no thread there. -/
theorem createClientThread_onlyNotes {i : Invocation} {client : ComponentId}
    (hn : ¬ Commands image b i.caller client) :
    (createClientThread image i client).StaysFrom OnlyNotes b := by
  refine Step.leads_bind.2 ((authorize_leads image i.caller client).mono ?_ fun _ _ h => h.2)
  rintro _ _ ⟨_, hcommands⟩
  exact absurd hcommands hn

/-- Who does not manage the machine gets no virtual processor there. -/
theorem createVcpu_onlyNotes {i : Invocation} {vm : ComponentId}
    (hn : ¬ Commands image b i.caller vm) : (createVcpu i vm).StaysFrom OnlyNotes b := by
  refine Step.leads_bind.2 (Step.Leads.get_bind (Step.leads_require.2 ⟨?_, fun _ => refl_of _ b⟩))
  intro machine hmachine
  split
  · exact Step.Stays.refuse b
  · next manager hmanager =>
    refine .ite (fun _ => deny_onlyNotes _ _) fun hsame => absurd (.inr ⟨machine, hmachine, ?_⟩) hn
    rw [hmanager, Decidable.not_not.1 hsame]

theorem dispatch_onlyNotes {i : Invocation} {request : Request} {client : ComponentId}
    (ht : threadTarget? request = some client) (hn : ¬ Commands image b i.caller client) :
    (dispatch image i request).StaysFrom OnlyNotes b := by
  have hperform : (perform image i request).StaysFrom OnlyNotes b := by
    cases request with
    | createThread client' entry =>
      cases ht
      exact (createClientThread_onlyNotes hn).map.map
    | createInitThread client' =>
      cases ht
      exact (createClientThread_onlyNotes hn).map.map
    | createVcpu vm entry =>
      cases ht
      exact (createVcpu_onlyNotes hn).map.map
    | _ => cases ht
  -- What was denied is answered, and the answer is written down.
  exact dispatch_staysFrom_of (fun _ _ b' => Step.leads_modify.2 ⟨_, _, rfl⟩) hperform

/-! ### The threads of a run are authorised -/

/-- In every state of every run: every thread record is authorised; a request
adds records held by its caller only; and a request for a thread in a
component whose caller is neither its scheduler nor its manager changes no
record of any kind. -/
theorem threads_are_authorised (h : Reached s image b) :
    (∀ index t, b.threads.at? index = some t → Authorised s.manifest b t) ∧
    (∀ i request handle t, ((dispatch image i request).final b).threads.get? handle = some t →
      b.threads.get? handle = some t ∨ t.sched = i.caller) ∧
    (∀ i request client, threadTarget? request = some client →
      ¬ s.manifest.Schedules i.caller client →
      (∀ record, b.component? client = some record → record.kind ≠ .virtualMachine i.caller) →
      OnlyNotes b ((dispatch image i request).final b)) := by
  refine ⟨fun index t ht => ?_, fun i request handle t ht => ?_, ?_⟩
  -- The invariant of the run.
  · obtain ⟨g, hg⟩ := Pool.at?_eq_some_iff.1 ht
    exact h.authorised index g t hg
  · have hadv := (dispatch_staysFrom (b := b) image i request).final
    -- The warrant of the request.
    rcases hadv.threads.added _ _ t (Pool.get?_eq_some_iff.1 ht) with ⟨_, rfl, hold⟩ | hnew
    · exact .inl (Pool.get?_eq_some_iff.2 hold)
    · exact .inr hnew.1
  · intro i request client ht hsched hmanager
    -- Who is neither scheduler nor manager does not command the client.
    refine (dispatch_onlyNotes ht ?_).final
    rintro (hcommands | ⟨record, hrecord, hmanages⟩)
    · rw [h.describes.schedulers, Schedulers.isSchedulerOf_ofManifest] at hcommands
      exact hsched hcommands
    · exact hmanager record hrecord (manager?_eq_some_iff.1 hmanages)

/-- The scheduler holds the thread it created in its client; the bystander,
which asks for one too, gets nothing. -/
theorem thread_of_client_is_authorised :
    ∃ image b t, Reached .ordinary image b ∧ b.threads.at? 2 = some t ∧
      t.sched = ⟨6⟩ ∧ t.client = ⟨5⟩ ∧ Authorised Setting.ordinary.manifest b t ∧
      OnlyNotes b
        ((dispatch image ⟨⟨7⟩, ⟨0⟩⟩ (.createThread ⟨5⟩ .initial)).final b) := by
  have hrun : (Setting.ordinary.run [.parallelInit ⟨0⟩ true,
      .request ⟨⟨6⟩, ⟨0⟩⟩ (.createThread ⟨5⟩ .initial)]).any (fun r =>
        ((r.2.threads.at? 2).any fun t => t.sched = ⟨6⟩ ∧ t.client = ⟨5⟩) &&
        ((r.2.component? ⟨5⟩).all fun c => c.kind ≠ .virtualMachine ⟨7⟩)) = true := by
    decide +kernel
  obtain ⟨image, b, h, hshows⟩ := exists_reached hrun
  obtain ⟨hthread, hkind⟩ := (Bool.and_eq_true _ _).mp hshows
  obtain ⟨t, ht, hthread⟩ := (Option.any_eq_true _ _).1 hthread
  obtain ⟨hsched, hclient⟩ := of_decide_eq_true hthread
  -- The thread is authorised, and the bystander does not command its client.
  obtain ⟨hall, _, hdenied⟩ := threads_are_authorised h
  refine ⟨image, b, t, h, ht, hsched, hclient, hall 2 t ht, ?_⟩
  refine hdenied _ _ ⟨5⟩ rfl (by decide +kernel) fun record hrecord => ?_
  rw [hrecord] at hkind
  exact of_decide_eq_true hkind

end Service

end CapabilityBroker
