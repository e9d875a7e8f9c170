/-
CapabilityBroker/Proofs/Carving/Service.lean

The contiguous region is carved in order.

Two requests ask for pages of the region, and nothing else touches it.  What is answered
lies behind what was answered before, whoever asked and at whatever alignment, and its
event says where (`region_is_carved_in_order`).  The region never grows back, and a
request that asks for more than is left is refused.  The order is that of the answers
alone as long as every request for pages of the region comes to its end; one that breaks
off leaves a gap behind it.
-/
import CapabilityBroker.Proofs.Carving.Memory
import CapabilityBroker.Proofs.Conservation
import CapabilityBroker.Proofs.Mapped
import CapabilityBroker.Proofs.Move.Parts
import CapabilityBroker.Proofs.Refused

namespace CapabilityBroker

open Step (Stays)

variable {b b' : Broker} {region : ContigRegion}

/-! ### What leaves the region alone -/

theorem parts_sameCarvings : Service.AdmitsParts Broker.SameCarvings where
  toAdmitsNotes := sameCarvings_notes
  pools _ _ _ _ := ⟨rfl, rfl⟩
  endpoints _ _ _ _ := ⟨rfl, rfl⟩
  ask _ _ := mappings_sameCarvings.kernel.runAny _

theorem objects_sameCarvings : Service.AdmitsObjects Broker.SameCarvings where
  toAdmitsThreads := parts_sameCarvings.admitsThreads
  signals :=
    { turn := fun _ _ _ _ => ⟨rfl, rfl⟩
      transition := fun b _ _ => ⟨rfl, b.carvings_record rfl⟩
      exit := fun b _ _ => ⟨rfl, b.carvings_record rfl⟩ }
  createVm manager := createVm_walks (C := Eq) (fun _ _ _ => ⟨rfl, rfl⟩) sameCarvings_notes manager
    fun _ => mappings_sameCarvings.kernel.runAny _

/-! ### What a reply says -/

/-- The parcel that a request is answered with. -/
def Request.parcel? (caller : ComponentId) : Request → Progress Reply → Option Parcel
  | .allocateContiguousPages count, .finished (.address vaddr) =>
    some ⟨caller, count.toNat, vaddr⟩
  | .allocateContiguousShared count _, .finished (.span _ vaddr) =>
    some ⟨caller, count.toNat, vaddr⟩
  | _, _ => none

theorem Request.parcel?_eq_none {request : Request} (h : request.carves? = none)
    (caller : ComponentId) (progress : Progress Reply) :
    request.parcel? caller progress = none := by
  cases request <;> first | rfl | cases h

namespace Service

variable {image : Image} {i : Invocation} {request : Request} {s : Setting}

/-! ### Requests -/

/-- A request for pages of the region is answered with a parcel, or declined. -/
theorem perform_givesOut (hlimit : b.pages.capacity < Pool.capacityLimit) (image : Image)
    (i : Invocation) {count : UInt64} (h : request.carves? = some count) :
    (perform image i request).Leads b
      (fun progress b' => ∃ parcel, request.parcel? i.caller progress = some parcel ∧
        parcel.count = count.toNat ∧ b.GivesOut parcel b')
      (b.Declines count.toNat) := by
  have hsame : b.SameCarvings b := refl_of Broker.SameCarvings b
  cases request with
  | allocateContiguousPages n =>
    obtain rfl := Option.some.inj h
    refine Step.leads_map.2 (Step.leads_map.2 (acting_leads_bind
      (fun _ => .refused rfl nofun hsame) fun _ => Step.leads_map.2 ?_))
    exact (carveContig_givesOut i.caller _ _).mono (fun _ _ h => ⟨_, rfl, rfl, h⟩) fun _ _ => id
  | allocateContiguousShared n align =>
    obtain rfl := Option.some.inj h
    have hspan : (allocateContiguousSpan i n.toNat align).Leads b
        (fun answer b' => b.GivesOut ⟨i.caller, n.toNat, answer.2⟩ b') (b.Declines n.toNat) :=
      acting_leads_bind (fun _ => .refused rfl nofun hsame) fun _ =>
        alignment_leads_bind (fun _ => .refused rfl nofun hsame) fun _ _ =>
          allocateContiguousShared_givesOut hlimit _ _ _
    refine Step.leads_map.2 (Step.leads_bind.2 (hspan.mono ?_ fun _ _ => id))
    rintro ⟨id, vaddr⟩ b' hgives
    refine Step.Leads.exact_bind (fun word _ => Step.leads_pure.2 ⟨_, rfl, rfl, hgives⟩) fun _ => ?_
    exact .of_givesOut hgives not_ordinary_abort
  | _ => cases h

/-! ### Actions -/

/-- The number of pages of the region that an action asks for. -/
def Action.carves? : Action → Option UInt64
  | .request _ request => request.carves?
  | .parallelInit .. => none
  | .parallelMain _ => none

/-- The parcel that an action is answered with. -/
def Action.parcel? (image : Image) : Action → Broker → Option Parcel
  | .request i request, b =>
    match perform image i request b with
    | .ok progress _ => request.parcel? i.caller progress
    | .error _ _ => none
  | .parallelInit .., _ => none
  | .parallelMain _, _ => none

theorem Action.parcel?_eq_none {action : Action} (h : action.carves? = none) (image : Image)
    (b : Broker) : action.parcel? image b = none := by
  cases action with
  | request i request =>
    unfold Action.parcel?
    dsimp only
    split
    · exact Request.parcel?_eq_none h _ _
    · rfl
  | parallelInit core isInitCore => rfl
  | parallelMain core => rfl

/-- Where no pages of the region are asked for, it is left alone. -/
theorem Action.sameCarvings (image : Image) {action : Action} (h : action.carves? = none)
    (b : Broker) : b.SameCarvings (action.after image b) := by
  cases action with
  | request i request =>
    have hperform : Stays Broker.SameCarvings (perform image i request) := by
      by_cases hobjects : isAboutObjects request = true
      · exact objects_sameCarvings.perform image i hobjects
      · exact perform_mappings mappings_sameCarvings image i hobjects h
    exact (dispatch_stays (fun _ _ => sameCarvings_notes.log _ _) hperform b).final
  | parallelInit core isInitCore =>
    exact (objects_sameCarvings.parallelInit image core isInitCore b).final
  | parallelMain core =>
    exact (parallelMain_signals objects_sameCarvings.signals image core b).final

theorem Action.deepens (image : Image) (action : Action) (b : Broker) :
    b.Deepens (action.after image b) := by
  obtain ⟨w, hadvance⟩ : ∃ w, b.Advance w (action.after image b) := action.advance b
  exact hadvance.any.kernel

theorem Reached.pagesFit (h : Reached s image b) : b.pages.capacity < Pool.capacityLimit :=
  h.pageCount.1 ▸ h.pageCount.2

/-- A request for pages of the region that comes to its end was answered with a parcel, or
refused and left the region alone. -/
theorem request_givesOut (hlimit : b.pages.capacity < Pool.capacityLimit) {count : UInt64}
    (h : request.carves? = some count)
    (hends : (Action.request i request).stop? image b = none) :
    (∃ parcel, (Action.request i request).parcel? image b = some parcel ∧
        b.GivesOut parcel ((Action.request i request).after image b)) ∨
      (Action.request i request).parcel? image b = none ∧
        b.SameCarvings ((Action.request i request).after image b) := by
  have hperform := (Step.leads_self _ b).and (perform_givesOut hlimit image i h)
  refine Step.Leads.final_of_stop? (s := dispatch image i request) (E := fun stop b' =>
    stop = none → (∃ parcel, (Action.request i request).parcel? image b = some parcel ∧
        b.GivesOut parcel b') ∨
      (Action.request i request).parcel? image b = none ∧ b.SameCarvings b')
    (dispatch_walks (hperform.mono ?_ ?_)) hends
  · rintro progress b' ⟨hend, parcel, hparcel, _, hgives⟩ _
    refine .inl ⟨parcel, ?_, hgives⟩
    unfold Action.parcel?
    dsimp only
    rw [hend]
    exact hparcel
  · rintro why b' ⟨hend, hdeclines⟩
    refine ⟨fun failure heq hplain journal _ => .inr ⟨?_, ?_⟩, fun _ _ _ _ => nofun, fun _ => nofun⟩
    · unfold Action.parcel?
      dsimp only
      rw [hend]
    · exact trans_of Broker.SameCarvings (hdeclines.ordinary ⟨failure, heq, hplain⟩)
        (sameCarvings_notes.lines b' journal)

/-- What an action that comes to its end cuts off the region is the parcel that it is
answered with. -/
theorem Action.cuts (h : Reached s image b) (action : Action) (hregion : b.contig = some region)
    (hends : action.carves? = none ∨ action.stop? image b = none) :
    b.Cuts region (action.parcel? image b).toList (action.after image b) := by
  have hdeepens := action.deepens image b
  cases hcarves : action.carves? with
  | none =>
    rw [Action.parcel?_eq_none hcarves]
    exact .of_same hdeepens (Action.sameCarvings image hcarves b) hregion
  | some count =>
    cases action with
    | request i request =>
      have hstop := hends.resolve_left (by rw [hcarves]; exact nofun)
      obtain ⟨parcel, hparcel, region', ⟨hregion', _⟩, hcuts⟩ | ⟨hparcel, hsame⟩ :=
        request_givesOut h.pagesFit hcarves hstop
      · obtain rfl := Option.some.inj (hregion.symm.trans hregion')
        rw [hparcel]
        exact hcuts
      · rw [hparcel]
        exact .of_same hdeepens hsame hregion
    | parallelInit core isInitCore => cases hcarves
    | parallelMain core => cases hcarves

/-- Whatever an action comes to, the region keeps its base and its size, and gets no page
back. -/
theorem Action.recedes (h : Reached s image b) (action : Action) :
    b.Recedes (action.after image b) := by
  cases hcarves : action.carves? with
  | none => exact (Action.sameCarvings image hcarves b).recedes
  | some count =>
    cases action with
    | request i request =>
      refine dispatch_final (P := b.Recedes) (fun _ _ => id)
        ((perform_givesOut h.pagesFit image i hcarves).mono ?_ fun _ _ h => h.recedes)
      rintro progress b' ⟨parcel, _, _, hgives⟩
      exact hgives.recedes
    | parallelInit core isInitCore => cases hcarves
    | parallelMain core => cases hcarves

/-! ### Runs -/

/-- The parcels that actions are answered with, in their order. -/
def parcelsFrom (image : Image) : Broker → List Action → List Parcel
  | _, [] => []
  | b, action :: rest =>
    (action.parcel? image b).toList ++ parcelsFrom image (action.after image b) rest

/-- Whether all the actions that ask for pages of the region come to their end: they are
answered or refused, and neither abort nor show a defect. -/
def carvingsEnd (image : Image) : Broker → List Action → Bool
  | _, [] => true
  | b, action :: rest => (action.carves?.isNone || answered (action.stop? image b)) &&
      carvingsEnd image (action.after image b) rest

/-- What a run cuts off the region are the parcels that its actions are answered with. -/
theorem cuts_of_run (h : Reached s image b) (hregion : b.contig = some region)
    {actions : List Action} (hends : carvingsEnd image b actions = true) :
    b.Cuts region (parcelsFrom image b actions)
      (actions.foldl (fun b action => action.after image b) b) := by
  induction actions generalizing b region with
  | nil =>
    exact .of_same (refl_of Broker.Deepens b) (refl_of Broker.SameCarvings b) hregion
  | cons action rest ih =>
    unfold carvingsEnd at hends
    obtain ⟨hend, hrest⟩ := Bool.and_eq_true_iff.1 hends
    have hfirst := action.cuts h hregion
      ((Bool.or_eq_true_iff.1 hend).imp Option.isNone_iff_eq_none.1 Option.isNone_iff_eq_none.1)
    exact hfirst.trans (ih (.act action h) hfirst.contig hrest)

/-! ### The start -/

/-- The region is set aside as a whole, and its event is not that of a parcel. -/
theorem initContig_setsAside (selfId : ComponentId) (count : Nat) (hnone : b.contig = none) :
    (initContig selfId count).Leads b
      (fun _ b' => (∃ base, b'.contig = some ⟨base, count, 0⟩) ∧ b'.carvings = b.carvings)
      (fun _ _ => True) := by
  have hbase : Stays Broker.SameCarvings (contigBase selfId count) := by
    refine .ite .pure ((mappings_sameCarvings.kernel.runAny _).bind fun base => ?_)
    exact (mappings_sameCarvings.mapVerified _ _ wholePages_native _).bind fun _ => .pure
  refine Step.leads_bind.2 ((hbase b).mono ?_ fun _ _ _ => trivial)
  intro base b₁ h₁
  refine Step.Leads.modify_bind (Step.leads_modify.2 ?_)
  rw [h₁.contig.trans hnone]
  exact ⟨⟨base, rfl⟩, h₁.carvings⟩

theorem registerComponent_sameCarvings (id : ComponentId) (name : String) (kind : ComponentKind)
    (resources : Option Kernel.Resources) (create : Step Kernel Kernel.Refusal Unit) :
    Stays Broker.SameCarvings (registerComponent id name kind resources create) :=
  registerComponent_walks (C := Eq) (fun _ _ _ => ⟨rfl, rfl⟩) sameCarvings_notes id name kind
    resources (mappings_sameCarvings.kernel.runAny _)

theorem sameCarvings_admitsStart (manifest : Manifest) :
    AdmitsStart Broker.SameCarvings manifest where
  log level message := (sameCarvings_notes.log level message).answers
  adopt _ _ _ _ _ := (adopt_walks sameCarvings_notes.log fun _ _ _ =>
    registerComponent_sameCarvings _ _ _ _ _).answers
  initUlk := (mappings_sameCarvings.kernel.runAny _).answers
  shareUlk _ := (shareUlk_walks (mappings_sameCarvings.kernel.runAny _)).answers
  setAside region := (setAside_records mappings_sameCarvings.toAdmitsRecords
    mappings_sameCarvings.reserveFrames region).answers

/-- When the broker has started, the whole region is there. -/
theorem boot_setsAside {kernel : Kernel} (settings : Settings) (manifest : Manifest) :
    (boot settings manifest).Leads (.create kernel)
      (fun _ b => (∃ base, b.contig = some ⟨base, settings.contigPages.toNat, 0⟩) ∧
        b.carvings = [])
      (fun _ _ => True) := by
  have hmake : ∀ journal, (makePools settings : Step Broker Defect Unit).Leads
      { Broker.create kernel with journal }
      (fun _ made => made.contig = none ∧ made.carvings = []) (fun _ _ => True) := by
    intro journal
    refine (makePools_leads settings).mono ?_ fun _ _ _ => trivial
    rintro _ _ ⟨_, _, _, _, _, _, rfl, -⟩
    exact ⟨rfl, rfl⟩
  have hself : Stays Broker.SameCarvings (registerComponent settings.selfId brokerName .broker none
      (Kernel.createComponent settings.selfId brokerName none)) :=
    registerComponent_sameCarvings _ _ _ _ _
  have hcontig : ∀ made b : Broker, made.SameCarvings b →
      (initContig settings.selfId settings.contigPages.toNat).Leads b
        (fun _ b' => made.contig = none →
          (∃ base, b'.contig = some ⟨base, settings.contigPages.toNat, 0⟩) ∧
            b'.carvings = made.carvings)
        (fun _ _ => True) := by
    intro made b h
    refine (Step.Leads.given fun hnone =>
      initContig_setsAside _ _ (h.contig.trans hnone)).mono ?_ fun _ _ _ => trivial
    intro _ b' hall hnone
    exact ⟨(hall hnone).1, (hall hnone).2.trans h.carvings⟩
  have hboot := boot_walks hmake hself.answers (sameCarvings_admitsStart manifest) hcontig
    fun _ _ _ h => h
  refine hboot.mono ?_ fun _ _ _ => trivial
  rintro image b ⟨_, made, ⟨hnone, hmade⟩, hall⟩
  exact ⟨(hall hnone).1, (hall hnone).2.trans hmade⟩

/-! ### Order -/

open Parcel (total)

/-- The parcels lie in the region one behind the other, and the trail has an event for each
of them and no other. -/
structure CarvedInOrder (base : Paddr) (parcels : List Parcel) (b : Broker) : Prop where
  used : b.contigUsed = total parcels
  events : b.carvings.length = parcels.length
  event : ∀ k parcel, parcels[k]? = some parcel →
    b.carvings[k]? = some (Event.contigAllocated parcel.into (total (parcels.take k)) parcel.count)
  backed : ∀ k parcel, parcels[k]? = some parcel → ∀ j < parcel.count, ∃ place frame,
    parcel.vaddr.addPages j = some place ∧
      frame.toNat = base.toNat + (total (parcels.take k) + j) * pageSize ∧
      b.kernel.Translates parcel.into place frame

/-- What was cut off the whole region was cut off in order. -/
theorem CarvedInOrder.of_cuts {first : Broker} {base : Paddr} {capacity : Nat}
    {parcels : List Parcel} (h : first.Cuts ⟨base, capacity, 0⟩ parcels b)
    (hnone : first.carvings = []) : CarvedInOrder base parcels b := by
  have hwritten : b.carvings = (Parcel.laidOut 0 parcels).map Parcel.event := by
    rw [h.written, hnone]
    rfl
  have hat : ∀ k parcel, parcels[k]? = some parcel →
      (Parcel.laidOut 0 parcels)[k]? = some (total (parcels.take k), parcel) := by
    intro k parcel hparcel
    rw [Parcel.getElem?_laidOut, hparcel, Nat.zero_add]
    rfl
  refine ⟨?_, ?_, fun k parcel hparcel => ?_, fun k parcel hparcel j hj => ?_⟩
  · rw [Broker.contigUsed_eq h.contig]
    exact Nat.zero_add _
  · rw [hwritten, List.length_map, Parcel.length_laidOut]
  · rw [hwritten, List.getElem?_map, hat k parcel hparcel]
    rfl
  · obtain ⟨place, frame, hplace, hframe, hshows⟩ :=
      h.shown _ (List.mem_of_getElem? (hat k parcel hparcel)) j hj
    exact ⟨place, frame, hplace, hframe, hshows.translate⟩

/-- Where the region has not so many pages left, the request is refused, and nothing
overflows; if it is for that reason, the refusal says how many are left. -/
structure RunsOut (image : Image) (i : Invocation) (request : Request) (count : Nat)
    (b : Broker) : Prop where
  within : b.contigUsed ≤ b.contigCapacity
  refused : b.contigCapacity < b.contigUsed + count → ∃ failure b',
    perform image i request b = .error (.refused failure) b' ∧ failure.defect? = none ∧
      b'.contigUsed = b.contigUsed
  told : ∀ requested remaining b',
    perform image i request b = .error (.refused (.contigExhausted requested remaining)) b' →
      b'.contigUsed = b.contigUsed ∧ requested = count ∧
        remaining = b.contigCapacity - b.contigUsed ∧
        b.contigCapacity < b.contigUsed + count

theorem Reached.runsOut (h : Reached s image b) (i : Invocation) {count : UInt64}
    (hcarves : request.carves? = some count) : RunsOut image i request count.toNat b := by
  have hperform := perform_givesOut h.pagesFit image i hcarves
  refine ⟨h.orderly.1.accounted.bounded.capacity_le.1, fun hlacks => ?_, fun _ _ b' hend => ?_⟩
  · rcases hperform.ends with ⟨progress, _, parcel, _, hcount, hgives⟩ | ⟨why, hend, hdeclines⟩
    · have hroom := hgives.room
      omega
    · have hordinary : why.Ordinary := by
        cases hdeclines with
        | refused ordinary _ _ => exact .refused ordinary
        | full _ _ => exact .refused rfl
        | lost there room _ _ =>
          rw [Broker.contigUsed_eq there, Broker.contigCapacity_eq there] at hlacks
          omega
      obtain ⟨failure, rfl, hplain⟩ := hordinary
      exact ⟨failure, _, hend, hplain, (hdeclines.ordinary (.refused hplain)).used⟩
  · cases hperform.of_error hend with
    | refused _ other _ => exact absurd rfl (other _ _)
    | full lacks same => exact ⟨same.used, rfl, rfl, lacks⟩
    | lost _ _ breaks _ => exact absurd (.refused rfl) breaks

/-- The contiguous region is carved in order.  In every run there is one base, such that
after any actions, as long as every request for pages of the region came to its end, the
parcels that were answered lie behind one another from the base on: their pages are
translated to these addresses, and their events have these offsets.  Whatever actions come
to, the pages in use become no fewer; and in every state a request for more pages than are
left is refused, leaves them as many as they were, and says how many are left. -/
theorem region_is_carved_in_order {first : Broker} (start : s.run [] = some (image, first)) :
    ∃ base, ∀ actions b, s.run actions = some (image, b) →
      (carvingsEnd image first actions = true →
        CarvedInOrder base (parcelsFrom image first actions) b) ∧
      (∀ action : Action, b.contigUsed ≤ (action.after image b).contigUsed) ∧
      ∀ i request count, request.carves? = some count →
        RunsOut image i request count.toNat b := by
  obtain ⟨kernel, _, created, booted, rfl⟩ := boot_of_run start
  obtain ⟨⟨base, hregion⟩, hnone⟩ := (boot_setsAside s.settings s.manifest).of_ok booted
  refine ⟨base, fun actions b hrun => ?_⟩
  have h := reached_of_run hrun
  obtain rfl : _ = b :=
    congrArg Prod.snd (Option.some.inj ((run_of_boot actions created booted).symm.trans hrun))
  refine ⟨fun hends => ?_, fun action => (action.recedes h).used_le, fun i request count => ?_⟩
  · exact .of_cuts (cuts_of_run (.boot created booted) hregion hends) hnone
  · exact h.runsOut i

/-- The client and the scheduler take parcels in turn.  In between the scheduler asks for
more than is left, and the bystander for pages of the other kind. -/
def Setting.parcelling : List Action :=
  [.request ⟨⟨5⟩, ⟨0⟩⟩ (.allocateContiguousPages 3),
    .request ⟨⟨6⟩, ⟨0⟩⟩ (.allocateContiguousPages 62),
    .request ⟨⟨6⟩, ⟨0⟩⟩ (.allocateContiguousShared 2 (some 0x200000)),
    .request ⟨⟨7⟩, ⟨0⟩⟩ (.allocateHeapPages 4 none),
    .request ⟨⟨5⟩, ⟨0⟩⟩ (.allocateContiguousShared 4 (some 0x10000))]

/-- The third parcel lies behind the five pages of the first two, and of 64 pages 55 are
left. -/
theorem third_parcel_lies_behind_two :
    ∃ image first b, Setting.ordinary.run [] = some (image, first) ∧
      Setting.ordinary.run Setting.parcelling = some (image, b) ∧
      parcelsFrom image first Setting.parcelling =
        [⟨⟨5⟩, 3, ⟨0x40000000⟩⟩, ⟨⟨6⟩, 2, ⟨0x40000000⟩⟩, ⟨⟨5⟩, 4, ⟨0x40010000⟩⟩] ∧
      (∃ base, CarvedInOrder base (parcelsFrom image first Setting.parcelling) b) ∧
      b.carvings[2]? = some (.contigAllocated ⟨5⟩ 5 4) ∧
      ∃ b', perform image ⟨⟨7⟩, ⟨0⟩⟩ (.allocateContiguousPages 60) b =
          .error (.refused (.contigExhausted 60 55)) b' ∧ b'.contigUsed = 9 := by
  have hrun : (Setting.ordinary.run []).any (fun p =>
      carvingsEnd p.1 p.2 Setting.parcelling = true ∧
      parcelsFrom p.1 p.2 Setting.parcelling =
        [⟨⟨5⟩, 3, ⟨0x40000000⟩⟩, ⟨⟨6⟩, 2, ⟨0x40000000⟩⟩, ⟨⟨5⟩, 4, ⟨0x40010000⟩⟩] ∧
      (refusalOf p.1 ⟨⟨7⟩, ⟨0⟩⟩ (.allocateContiguousPages 60)
        (Setting.parcelling.foldl (fun b action => action.after p.1 b) p.2)).any (fun r =>
          r.1 = .contigExhausted 60 55) = true) = true := by decide +kernel
  obtain ⟨⟨image, first⟩, hstart, hshows⟩ := (Option.any_eq_true _ _).1 hrun
  obtain ⟨hends, hparcels, hrefused⟩ := of_decide_eq_true hshows
  obtain ⟨⟨failure, b'⟩, hrefusal, hfailure⟩ := (Option.any_eq_true _ _).1 hrefused
  obtain rfl := of_decide_eq_true hfailure
  obtain ⟨_, _, created, booted, rfl⟩ := boot_of_run hstart
  have hparcelling := run_of_boot Setting.parcelling created booted
  obtain ⟨base, hall⟩ := region_is_carved_in_order hstart
  obtain ⟨hordered, _, hout⟩ := hall _ _ hparcelling
  have hperform := of_refusalOf hrefusal
  obtain ⟨hkept, _⟩ := (hout ⟨⟨7⟩, ⟨0⟩⟩ (.allocateContiguousPages 60) 60 rfl).told _ _ _ hperform
  have hlisted := hordered hends
  rw [hparcels] at hlisted
  exact ⟨image, _, _, hstart, hparcelling, hparcels, ⟨base, hordered hends⟩,
    hlisted.event 2 _ rfl, b', hperform, hkept.trans hlisted.used⟩

/-- The client asks for two pages in turn that are to be mapped at half the address space;
the second has no room there.  Then the scheduler asks for one. -/
def Setting.parcellingAtHalf : List Action :=
  [carvingAtHalf, carvingAtHalf, .request ⟨⟨6⟩, ⟨0⟩⟩ (.allocateContiguousPages 1)]

/-- The region has given the second page up, so the parcel of the scheduler, which is the
second that is answered, lies two pages behind the base, and no defect has shown. -/
theorem aborted_parcel_leaves_a_gap :
    ∃ image first b, Setting.ordinary.run [] = some (image, first) ∧
      Setting.runWhile.go noDefect image first Setting.parcellingAtHalf = some b ∧
      parcelsFrom image first Setting.parcellingAtHalf =
        [⟨⟨5⟩, 1, ⟨0x8000000000000000⟩⟩, ⟨⟨6⟩, 1, ⟨0x40000000⟩⟩] ∧
      b.carvings = [.contigAllocated ⟨5⟩ 0 1, .contigAllocated ⟨6⟩ 2 1] ∧
      ∀ base, ¬ CarvedInOrder base (parcelsFrom image first Setting.parcellingAtHalf) b := by
  have hrun : (Setting.ordinary.run []).any (fun p =>
      (Setting.runWhile.go noDefect p.1 p.2 Setting.parcellingAtHalf).any (fun b =>
        parcelsFrom p.1 p.2 Setting.parcellingAtHalf =
          [⟨⟨5⟩, 1, ⟨0x8000000000000000⟩⟩, ⟨⟨6⟩, 1, ⟨0x40000000⟩⟩] ∧
        b.carvings = [.contigAllocated ⟨5⟩ 0 1, .contigAllocated ⟨6⟩ 2 1])) = true := by
    decide +kernel
  obtain ⟨⟨image, first⟩, hstart, hshows⟩ := (Option.any_eq_true _ _).1 hrun
  obtain ⟨b, hgo, hends⟩ := (Option.any_eq_true _ _).1 hshows
  obtain ⟨hparcels, hcarvings⟩ := of_decide_eq_true hends
  refine ⟨image, first, b, hstart, hgo, hparcels, hcarvings, fun base hordered => ?_⟩
  rw [hparcels] at hordered
  have hevent := hordered.event 1 _ rfl
  rw [hcarvings] at hevent
  exact absurd hevent (by decide)

end Service

end CapabilityBroker
