/-
CapabilityBroker/Proofs/Serving.lean

Serving is dispatching in turn.

The first request is dispatched from the state the service is in, the second
from the state that leaves, and so on.  A request whose operation failed was
answered with the empty reply, so it counts like any other; what ends a run
early is a request that waits at a barrier, a defect, or an abort.  Whatever
it is, the requests behind it are never looked at.

`serve` has the replies so far as an accumulator.  The lemmas put them in
front of a run that starts with none, `Run.following`, and from then on the
accumulator does not show.
-/
import CapabilityBroker.Proofs.Ends
import CapabilityBroker.Proofs.Gap.Service

namespace CapabilityBroker.Service

/-! ### Requests in turn -/

/-- Requests are dispatched one after another, each from the state the one
before it left, and every one of them is answered at once. -/
inductive Answered (image : Image) : Broker → List Call → List Reply → Broker → Prop where
  | nil (b : Broker) : Answered image b [] [] b
  | cons {b mid b' : Broker} {i : Invocation} {request : Request} {rest : List Call}
      {reply : Reply} {replies : List Reply}
      (first : dispatch image i request b = .ok (.finished reply) mid)
      (others : Answered image mid rest replies b') :
      Answered image b ((i, request) :: rest) (reply :: replies) b'

/-- Request number `k` comes up in the state `mid`, after those before it were
answered. -/
structure ComesUp (image : Image) (b : Broker) (calls : List Call) (k : Nat) (i : Invocation)
    (request : Request) (replies : List Reply) (mid : Broker) : Prop where
  call : calls[k]? = some (i, request)
  before : Answered image b (calls.take k) replies mid

/-- What a service that halts does to the state its last dispatch left: it
writes a line into the journal. -/
def halting (i : Invocation) (request : Request) (defect : Defect) (left : Broker) : Broker :=
  { left with journal := left.journal.record ⟨.error,
      "capmgr: halting on " ++ request.text ++ " from " ++ i.caller.text ++ ": "
        ++ defect.message⟩ }

/-- How serving requests ends, told by dispatching them in turn. -/
inductive Serves (image : Image) (b : Broker) (calls : List Call) :
    EStateM.Result (Stop Empty) Broker Run → Prop where
  | completed {replies : List Reply} {b' : Broker} (all : Answered image b calls replies b') :
      Serves image b calls (.ok (.completed replies) b')
  | waiting {k : Nat} {i : Invocation} {request : Request} {replies : List Reply}
      {mid left : Broker} {component : ComponentId} {reply : Reply}
      (up : ComesUp image b calls k i request replies mid)
      (parks : dispatch image i request mid = .ok (.parked component reply) left) :
      Serves image b calls
        (.ok (.waiting component (replies ++ [reply]) (calls.drop (k + 1))) left)
  | halted {k : Nat} {i : Invocation} {request : Request} {replies : List Reply}
      {mid left : Broker} {defect : Defect}
      (up : ComesUp image b calls k i request replies mid)
      (shows : dispatch image i request mid = .error (.refused defect) left) :
      Serves image b calls (.ok (.halted ⟨k, defect⟩) (halting i request defect left))
  | aborted {k : Nat} {i : Invocation} {request : Request} {replies : List Reply}
      {mid left : Broker}
      (up : ComesUp image b calls k i request replies mid)
      (aborts : dispatch image i request mid = .error .abort left) :
      Serves image b calls (.error .abort left)

/-- A run that came after these replies. -/
def Run.following (before : List Reply) : Run → Run
  | .completed replies => .completed (before ++ replies)
  | .waiting component replies rest => .waiting component (before ++ replies) rest
  | .halted halt => .halted { halt with served := before.length + halt.served }

/-- Go on with more requests.  Only a run that was completed comes to them: one
that waits has them added to those it still has before it, and one that halted
ignores them. -/
def Run.goOn (image : Image) (more : List Call) : Run → Step Broker Empty Run
  | .completed replies => Run.following replies <$> serve image more
  | .waiting component replies rest => pure (.waiting component replies (rest ++ more))
  | .halted halt => pure (.halted halt)

variable {image : Image} {b mid b' left : Broker} {calls rest more : List Call}
variable {i : Invocation} {request : Request} {reply : Reply} {replies : List Reply}

/-! ### Runs one after another -/

theorem following_nil : Run.following [] = id := by
  funext run
  cases run with
  | completed replies => rfl
  | waiting component replies rest => rfl
  | halted halt => exact congrArg (fun n => Run.halted ⟨n, halt.defect⟩) (Nat.zero_add _)

theorem following_append (before replies : List Reply) (run : Run) :
    Run.following before (Run.following replies run) = Run.following (before ++ replies) run := by
  cases run with
  | completed others => simp only [Run.following, List.append_assoc]
  | waiting component others rest => simp only [Run.following, List.append_assoc]
  | halted halt => simp only [Run.following, List.length_append, Nat.add_assoc]

/-- What was answered before a run does not matter to how it goes on. -/
theorem goOn_following (before : List Reply) (run : Run) :
    (Run.following before run).goOn image more = Run.following before <$> run.goOn image more := by
  cases run with
  | completed replies =>
    show Run.following (before ++ replies) <$> serve image more =
      Run.following before <$> Run.following replies <$> serve image more
    rw [Functor.map_map]
    exact congrArg (· <$> serve image more) (funext fun run => (following_append _ _ run).symm)
  | waiting component replies rest => rfl
  | halted halt => rfl

/-! ### Replies so far -/

/-- The first request, whatever was answered before. -/
theorem serveFrom_cons (replies : List Reply) :
    serveFrom image replies ((i, request) :: rest) b =
      match dispatch image i request b with
      | .ok (.finished reply) mid => serveFrom image (replies ++ [reply]) rest mid
      | .ok (.parked component reply) left =>
        .ok (.waiting component (replies ++ [reply]) rest) left
      | .error (.refused defect) left =>
        .ok (.halted ⟨replies.length, defect⟩) (halting i request defect left)
      | .error .abort left => .error .abort left := by
  rw [serveFrom]
  show EStateM.bind (Step.attempt (dispatch image i request)) _ b = _
  unfold EStateM.bind Step.attempt
  rcases dispatch image i request b with ⟨⟨reply⟩ | ⟨component, reply⟩, mid⟩ | ⟨⟨defect⟩ | _, left⟩
  · rfl
  · rfl
  · rfl
  · rfl

/-- Replies that were there before only come first. -/
theorem serveFrom_append (before replies : List Reply) :
    serveFrom image (before ++ replies) calls b =
      (Run.following before <$> serveFrom image replies calls) b := by
  show _ = EStateM.map _ _ b
  unfold EStateM.map
  -- On the requests; the replies in the accumulator and the state change with each of them.
  induction calls generalizing replies b with
  | nil => rfl
  | cons call rest ih =>
    obtain ⟨i, request⟩ := call
    rw [serveFrom_cons, serveFrom_cons]
    rcases dispatch image i request b with
      ⟨⟨reply⟩ | ⟨component, reply⟩, mid⟩ | ⟨⟨defect⟩ | _, left⟩
    · simp only [List.append_assoc]
      exact ih (replies ++ [reply])
    · simp only [List.append_assoc, Run.following]
    · simp only [List.length_append, Run.following]
    · rfl

/-- The first request, and then the others. -/
theorem serve_cons :
    serve image ((i, request) :: rest) b =
      match dispatch image i request b with
      | .ok (.finished reply) mid => (Run.following [reply] <$> serve image rest) mid
      | .ok (.parked component reply) left => .ok (.waiting component [reply] rest) left
      | .error (.refused defect) left =>
        .ok (.halted ⟨0, defect⟩) (halting i request defect left)
      | .error .abort left => .error .abort left := by
  unfold serve
  rw [serveFrom_cons]
  rcases dispatch image i request b with
    ⟨⟨reply⟩ | ⟨component, reply⟩, mid⟩ | ⟨⟨defect⟩ | _, left⟩
  · exact serveFrom_append [reply] []
  · rfl
  · rfl
  · rfl

/-- Serving one list and then another is to serve the first, and to go on with
the second. -/
theorem serve_append :
    serve image (calls ++ more) b = (serve image calls >>= Run.goOn image more) b := by
  induction calls generalizing b with
  | nil =>
    show serve image more b = (Run.following [] <$> serve image more) b
    rw [following_nil, id_map]
  | cons call rest ih =>
    obtain ⟨i, request⟩ := call
    show _ = EStateM.bind _ _ b
    unfold EStateM.bind
    rw [List.cons_append, serve_cons, serve_cons]
    rcases dispatch image i request b with
      ⟨⟨reply⟩ | ⟨component, reply⟩, mid⟩ | ⟨⟨defect⟩ | _, left⟩
    -- The first reply stands in front of the run of the others, and of what that goes on with.
    · calc (Run.following [reply] <$> serve image (rest ++ more)) mid
          = (Run.following [reply] <$> (serve image rest >>= Run.goOn image more)) mid :=
            Step.map_congr ih
        _ = (serve image rest >>= fun run => (Run.following [reply] run).goOn image more) mid := by
            simp only [map_bind, goOn_following]
        _ = (Run.following [reply] <$> serve image rest >>= Run.goOn image more) mid := by
            rw [bind_map_left]
    · rfl
    · rfl
    · rfl

/-! ### Requests that were answered -/

theorem Answered.length (h : Answered image b calls replies b') :
    replies.length = calls.length := by
  induction h with
  | nil b => rfl
  | cons first others ih => exact congrArg (· + 1) ih

/-- What was answered is behind, and the rest is served from there. -/
theorem Answered.serve_append (h : Answered image b calls replies mid) :
    serve image (calls ++ rest) b = (Run.following replies <$> serve image rest) mid := by
  induction h with
  | nil b => rw [following_nil, id_map, List.nil_append]
  | @cons b first b' i request others reply replies answers _ ih =>
    rw [List.cons_append, serve_cons, answers]
    calc (Run.following [reply] <$> serve image (others ++ rest)) first
        = (Run.following [reply] <$> Run.following replies <$> serve image rest) b' :=
          Step.map_congr ih
      _ = (Run.following (reply :: replies) <$> serve image rest) b' := by
          rw [Functor.map_map]
          simp only [following_append, List.singleton_append]

theorem Answered.serve_eq (h : Answered image b calls replies b') :
    serve image calls b = .ok (.completed replies) b' := by
  have hserve : serve image (calls ++ []) b = (Run.following replies <$> serve image []) b' :=
    h.serve_append
  have hnone : serve image [] b' = .ok (.completed []) b' := rfl
  rw [List.append_nil] at hserve
  rw [hserve, Step.map_of_ok hnone, Run.following, List.append_nil]

variable {k : Nat}

/-- A run comes to the request, and goes on from there. -/
theorem ComesUp.serve_append (up : ComesUp image b calls k i request replies mid) :
    serve image (calls.take (k + 1) ++ more) b =
      (Run.following replies <$> serve image ((i, request) :: more)) mid := by
  rw [List.take_add_one, up.call, List.append_assoc]
  exact up.before.serve_append

theorem ComesUp.serve_eq (up : ComesUp image b calls k i request replies mid) :
    serve image calls b =
      (Run.following replies <$> serve image ((i, request) :: calls.drop (k + 1))) mid := by
  rw [← up.serve_append, List.take_append_drop]

theorem ComesUp.length (up : ComesUp image b calls k i request replies mid) :
    replies.length = k := by
  obtain ⟨hk, _⟩ := List.getElem?_eq_some_iff.1 up.call
  rw [up.before.length, List.length_take, Nat.min_eq_left (Nat.le_of_lt hk)]

/-- A defect ends the run, and what comes behind it does not matter. -/
theorem ComesUp.halts {defect : Defect} (up : ComesUp image b calls k i request replies mid)
    (shows : dispatch image i request mid = .error (.refused defect) left) (more : List Call) :
    serve image (calls.take (k + 1) ++ more) b =
      .ok (.halted ⟨k, defect⟩) (halting i request defect left) := by
  rw [up.serve_append]
  have hfirst : serve image ((i, request) :: more) mid =
      .ok (.halted ⟨0, defect⟩) (halting i request defect left) := by
    rw [serve_cons, shows]
  rw [Step.map_of_ok hfirst, Run.following, up.length]
  rfl

/-- The end that is told is the end. -/
theorem Serves.serve_eq {ending : EStateM.Result (Stop Empty) Broker Run}
    (h : Serves image b calls ending) : serve image calls b = ending := by
  cases h with
  | completed all => exact all.serve_eq
  | @waiting k i request replies mid left component reply up parks =>
    have hfirst : serve image ((i, request) :: calls.drop (k + 1)) mid =
        .ok (.waiting component [reply] (calls.drop (k + 1))) left := by
      rw [serve_cons, parks]
    rw [up.serve_eq, Step.map_of_ok hfirst, Run.following]
  | @halted k i request replies mid left defect up shows =>
    have hends := up.halts shows (calls.drop (k + 1))
    rwa [List.take_append_drop] at hends
  | @aborted k i request replies mid left up aborts =>
    have hfirst : serve image ((i, request) :: calls.drop (k + 1)) mid = .error .abort left := by
      rw [serve_cons, aborts]
    rw [up.serve_eq, Step.map_of_error hfirst]

/-! ### The first request that is not answered at once -/

theorem ComesUp.cons {reply : Reply} {first : Invocation} {asked : Request}
    (answers : dispatch image first asked b = .ok (.finished reply) b')
    (up : ComesUp image b' calls k i request replies mid) :
    ComesUp image b ((first, asked) :: calls) (k + 1) i request (reply :: replies) mid :=
  ⟨up.call, .cons answers up.before⟩

/-- Either all requests are answered at once, or a first one is not. -/
theorem answered_or_comesUp (image : Image) (b : Broker) (calls : List Call) :
    (∃ replies b', Answered image b calls replies b') ∨
      ∃ k i request replies mid, ComesUp image b calls k i request replies mid ∧
        ∀ reply left, dispatch image i request mid ≠ .ok (.finished reply) left := by
  induction calls generalizing b with
  | nil => exact .inl ⟨[], b, .nil b⟩
  | cons call rest ih =>
    obtain ⟨i, request⟩ := call
    by_cases hfirst : ∃ reply mid, dispatch image i request b = .ok (.finished reply) mid
    · obtain ⟨reply, mid, hfirst⟩ := hfirst
      rcases ih mid with ⟨replies, b', hall⟩ | ⟨k, i', request', replies, last, hup, hends⟩
      · exact .inl ⟨reply :: replies, b', .cons hfirst hall⟩
      · exact .inr ⟨k + 1, i', request', reply :: replies, last, hup.cons hfirst, hends⟩
    · exact .inr ⟨0, i, request, [], b, ⟨rfl, .nil b⟩,
        fun reply mid h => hfirst ⟨reply, mid, h⟩⟩

/-- Every run ends in one of the ways that are told. -/
theorem exists_serves (image : Image) (b : Broker) (calls : List Call) :
    ∃ ending, Serves image b calls ending := by
  rcases answered_or_comesUp image b calls with
    ⟨replies, b', hall⟩ | ⟨k, i, request, replies, mid, hup, hends⟩
  · exact ⟨_, .completed hall⟩
  · rcases hdispatch : dispatch image i request mid with
      ⟨⟨reply⟩ | ⟨component, reply⟩, left⟩ | ⟨⟨defect⟩ | _, left⟩
    · exact absurd hdispatch (hends reply left)
    · exact ⟨_, .waiting hup hdispatch⟩
    · exact ⟨_, .halted hup hdispatch⟩
    · exact ⟨_, .aborted hup hdispatch⟩

/-! ### Serving is dispatching in turn -/

/-- Serving requests ends exactly as dispatching them in turn tells.  So if each
that comes up is answered at once, all the answers are the result, in order;
and the first that shows a defect ends the service in the state its dispatch
left, but for the line in the journal, with as many served as were before it,
whatever comes behind.  Two lists are served as one is, with the counts added
up. -/
theorem serve_is_dispatch_in_turn (image : Image) (b : Broker) (calls : List Call) :
    (∀ ending, serve image calls b = ending ↔ Serves image b calls ending) ∧
    ((∀ k i request replies mid, ComesUp image b calls k i request replies mid →
        ∃ reply left, dispatch image i request mid = .ok (.finished reply) left) →
      ∃ replies b', Answered image b calls replies b' ∧
        serve image calls b = .ok (.completed replies) b') ∧
    (∀ k i request replies mid defect left,
      ComesUp image b calls k i request replies mid →
      dispatch image i request mid = .error (.refused defect) left →
      ∀ more, serve image (calls.take (k + 1) ++ more) b =
        .ok (.halted ⟨k, defect⟩) (halting i request defect left)) ∧
    ∀ more, serve image (calls ++ more) b = (serve image calls >>= Run.goOn image more) b := by
  refine ⟨fun ending => ⟨?_, Serves.serve_eq⟩, fun hanswers => ?_, ?_, fun more => serve_append⟩
  · rintro rfl
    obtain ⟨ending, hserves⟩ := exists_serves image b calls
    rw [hserves.serve_eq]
    exact hserves
  · rcases answered_or_comesUp image b calls with
      ⟨replies, b', hall⟩ | ⟨k, i, request, replies, mid, hup, hends⟩
    · exact ⟨replies, b', hall, hall.serve_eq⟩
    · obtain ⟨reply, left, hreply⟩ := hanswers k i request replies mid hup
      exact absurd hreply (hends reply left)
  · intro k i request replies mid defect left hup hshows more
    exact hup.halts hshows more

/-- Whether a first request is given the empty reply, and a second one then
brings a defect to light. -/
def haltsSecond (image : Image) (i : Invocation) (first second : Request) (defect : Defect)
    (b : Broker) : Bool :=
  match dispatch image i first b with
  | .ok (.finished reply) mid =>
    reply == .nullFor first &&
      (dispatch image i second).stop? mid == some (.refused defect)
  | _ => false

theorem of_haltsSecond {first second : Request} {defect : Defect}
    (h : haltsSecond image i first second defect b = true) :
    ∃ mid left, Answered image b [(i, first)] [.nullFor first] mid ∧
      dispatch image i second mid = .error (.refused defect) left := by
  unfold haltsSecond at h
  split at h
  · next reply mid hfirst =>
    rw [Bool.and_eq_true, beq_iff_eq, beq_iff_eq] at h
    obtain ⟨rfl, hstop⟩ := h
    obtain ⟨left, hsecond⟩ := Step.exists_error_of_stop? hstop
    exact ⟨mid, left, .cons hfirst (.nil mid), hsecond⟩
  · cases h

/-- With a gap to come, a client that asks for no pages is given the empty
reply, which counts, and four pages then bring the gap to light. -/
theorem gap_halts_after_one_served :
    ∃ image b mid left, Reached (.withGap 0) image b ∧
      Answered image b [(⟨⟨5⟩, ⟨0⟩⟩, .allocateHeapPages 0 none)]
        [.nullFor (.allocateHeapPages 0 none)] mid ∧
      ∀ more, serve image ((⟨⟨5⟩, ⟨0⟩⟩, .allocateHeapPages 0 none) ::
          (⟨⟨5⟩, ⟨0⟩⟩, .allocateHeapPages 4 none) :: more) b =
        .ok (.halted ⟨1, .contiguityViolation ⟨5⟩ ⟨0x40003000⟩ ⟨0x1003000⟩ (some ⟨0x1004000⟩)⟩)
          left := by
  have hrun : ((Setting.withGap 0).run []).any (fun p =>
      haltsSecond p.1 ⟨⟨5⟩, ⟨0⟩⟩ (.allocateHeapPages 0 none) (.allocateHeapPages 4 none)
        (.contiguityViolation ⟨5⟩ ⟨0x40003000⟩ ⟨0x1003000⟩ (some ⟨0x1004000⟩)) p.2) = true := by
    decide +kernel
  obtain ⟨image, b, hreached, hshows⟩ := exists_reached hrun
  obtain ⟨mid, left, hfirst, hsecond⟩ := of_haltsSecond hshows
  have hend := (serve_is_dispatch_in_turn image b
    [(⟨⟨5⟩, ⟨0⟩⟩, .allocateHeapPages 0 none), (⟨⟨5⟩, ⟨0⟩⟩, .allocateHeapPages 4 none)]).2.2.1
    1 _ _ _ _ _ _ ⟨rfl, hfirst⟩ hsecond
  exact ⟨image, b, mid, _, hreached, hfirst, hend⟩

end CapabilityBroker.Service
