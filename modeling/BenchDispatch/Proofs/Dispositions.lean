import BenchDispatch.Proofs.Custody
import BenchDispatch.Proofs.RegistryAnswers

/-! How the loop answers the deliveries it handles. A worker report is always acknowledged. An
event is left for redelivery exactly when it decodes, its target matches and processing its request
fails: without `admitAll` when admission lets the request be dispatched and the work queue refuses
it, under `admitAll` when its build is tracked in a state other than `requesting` or the work queue
refuses it. The deliveries the loop drops or refuses leave it exactly as it was, and an event left
because its send failed leaves only the record admission wrote, `requesting`. -/

set_option autoImplicit false

namespace BenchDispatch

open Broker

namespace ControlLoop

/-- The work queue refuses the job of a request. -/
def WorkQueueRefuses (loop : ControlLoop) (request : BuildRequest) : Prop :=
  ∃ cause, loop.hub.send loop.settings.workQueue (.text (encode request)) = .error cause

/-- A build tracked in a state other than `requesting`, which `admitAll` refuses to track again. -/
def Conflicts (loop : ControlLoop) (request : BuildRequest) : Prop :=
  ∃ state, state ≠ .requesting ∧ loop.registry.stateOf request.target request.id = some state

/-- Whether the work queue refuses a job depends on the hub and settings only. -/
theorem workQueueRefuses_with (loop : ControlLoop) (registry : BuildRegistry) (backlog : Backlog)
    (request : BuildRequest) :
    ({ loop with registry, backlog } : ControlLoop).WorkQueueRefuses request ↔ loop.WorkQueueRefuses request :=
  Iff.rfl

theorem dispatch_fails_iff (loop : ControlLoop) (request : BuildRequest) :
    (∃ error, (loop.dispatch request).1 = .error error) ↔ loop.WorkQueueRefuses request := by
  unfold WorkQueueRefuses
  cases sending : loop.hub.send loop.settings.workQueue (.text (encode request)) with
  | error cause => simp [dispatch_of_failed sending]
  | ok hub => simp [dispatch_of_sent sending]

/-- A dispatch fails only by the work queue's refusal, names the request's id, and then changes
nothing. -/
theorem dispatch_error {loop : ControlLoop} {request : BuildRequest} {error : OrchestratorError}
    (failed : (loop.dispatch request).1 = .error error) :
    (∃ cause, loop.WorkQueueRefuses request ∧ error = .dispatch request.id cause) ∧
      (loop.dispatch request).2 = loop := by
  cases sending : loop.hub.send loop.settings.workQueue (.text (encode request)) with
  | error cause =>
    rw [dispatch_of_failed sending, Except.error.injEq] at failed
    exact ⟨⟨cause, ⟨cause, sending⟩, failed.symm⟩, by rw [dispatch_of_failed sending]⟩
  | ok hub => simp [dispatch_of_sent sending] at failed

/-- An event is left for redelivery exactly when it decodes, its target matches and processing its
request fails. -/
theorem onEvent_fst_eq_leave_iff (loop : ControlLoop) (message : Message) :
    (loop.onEvent message).1 = .leave ↔
      ∃ summary, (decodeMessage? message : Option PushSummary) = some summary ∧
        loop.settings.matches (BuildRequest.ofSummary summary).target = true ∧
        ∃ error, (loop.processBuildRequest (BuildRequest.ofSummary summary)).1 = .error error := by
  unfold onEvent
  cases decoded : (decodeMessage? message : Option PushSummary) with
  | none => simp
  | some summary =>
    by_cases matched : loop.settings.matches (BuildRequest.ofSummary summary).target = true
    · simp only [matched, Bool.not_true, Bool.false_eq_true, if_false]
      rcases processing : loop.processBuildRequest (BuildRequest.ofSummary summary) with ⟨result, after⟩
      cases result <;> simp [processing, matched]
    · simp [matched]

/-! ## Admission before the dispatch -/

/-- The loop admission hands to `dispatch` differs from the loop only in the record of the
request's own build, which is `requesting`. -/
theorem admitted?_spec {loop ready : ControlLoop} {request : BuildRequest}
    (admitted : loop.admitted? request = some ready) :
    ready = { loop with registry := ready.registry } ∧
      ready.registry.stateOf request.target request.id = some .requesting ∧
      BuildRegistry.KeepsAllBut request.target request.id loop.registry ready.registry := by
  unfold admitted? at admitted
  cases queued : loop.settings.admitAll with
  | true =>
    obtain ⟨tracks, -, -, keeps⟩ := loop.registry.insert_spec request.target request .requesting
    rcases inserting : loop.registry.insert request.target request .requesting with ⟨tracked, registry⟩
    rw [inserting] at tracks keeps
    cases tracked
    · simp [queued, inserting] at admitted
    · simp only [queued, inserting, if_true, Option.some.injEq] at admitted
      subst admitted
      exact ⟨rfl, tracks.1 rfl, keeps⟩
  | false =>
    rcases BuildRegistry.admitRequest_cases loop.registry loop.backlog request.target request with
      ⟨state, tracked, admitting⟩ | ⟨-, -, admitting⟩ | ⟨-, -, -, admitting⟩ | ⟨-, -, -, admitting⟩
    · simp only [queued, admitting, Bool.false_eq_true, if_false] at admitted
      cases state
      case requesting =>
        simp only [Option.some.injEq] at admitted
        subst admitted
        exact ⟨rfl, tracked, .refl ..⟩
      all_goals simp at admitted
    · simp [queued, admitting] at admitted
    · simp [queued, admitting] at admitted
    · simp only [queued, admitting, Bool.false_eq_true, if_false, Option.some.injEq] at admitted
      subst admitted
      refine ⟨rfl, ?_, BuildRegistry.keepsAllBut_track ..⟩
      rw [BuildRegistry.stateOf_eq, BuildRegistry.recordOf_track_self]
      rfl

/-- A request admission does not let through is refused as a conflict under `admitAll`, and is
otherwise taken without being sent. -/
theorem processBuildRequest_fst_of_unadmitted {loop : ControlLoop} {request : BuildRequest}
    (unadmitted : loop.admitted? request = none) :
    (loop.processBuildRequest request).1 =
      if loop.settings.admitAll then .error (.registryConflict request.target request.id) else .ok () := by
  unfold admitted? at unadmitted
  unfold processBuildRequest
  cases queued : loop.settings.admitAll with
  | true =>
    rcases inserting : loop.registry.insert request.target request .requesting with ⟨tracked, registry⟩
    cases tracked <;> simp_all
  | false =>
    rcases admitting : loop.registry.admitRequest loop.backlog request.target request with
      ⟨admission, registry, backlog⟩
    simp only [queued, admitting, Bool.false_eq_true, if_false] at unadmitted ⊢
    cases admission with
    | admitted => cases unadmitted
    | backlogged => rfl
    | duplicate state =>
      cases state
      case requesting => cases unadmitted
      all_goals rfl

/-- Under `admitAll`, admission refuses exactly the requests whose build is tracked in a state other
than `requesting`. -/
theorem admitted?_eq_none_iff_of_admitAll {loop : ControlLoop} (all : loop.settings.admitAll = true)
    (request : BuildRequest) : loop.admitted? request = none ↔ loop.Conflicts request := by
  unfold admitted? Conflicts
  rcases BuildRegistry.insert_cases loop.registry request.target request .requesting with
    ⟨untracked, inserting⟩ | ⟨tracked, inserting⟩ | ⟨current, other, tracked, inserting⟩
  · simp [all, inserting, untracked]
  · simp [all, inserting, tracked]
  · simp only [all, inserting, if_true, true_iff]
    exact ⟨current, other, tracked⟩

/-- Without `admitAll`, admission lets a request through exactly when it admits it or finds its
build still `requesting`. -/
theorem admitted?_isSome_iff_of_coalescing {loop : ControlLoop} (queued : loop.settings.admitAll = false)
    (request : BuildRequest) :
    (loop.admitted? request).isSome ↔
      (loop.registry.admitRequest loop.backlog request.target request).1 = .admitted ∨
        (loop.registry.admitRequest loop.backlog request.target request).1 = .duplicate .requesting := by
  unfold admitted?
  rcases admitting : loop.registry.admitRequest loop.backlog request.target request with
    ⟨admission, registry, backlog⟩
  simp only [queued, Bool.false_eq_true, if_false]
  cases admission with
  | admitted => simp
  | backlogged => simp
  | duplicate state => cases state <;> simp

/-- Processing fails exactly when `admitAll` refuses the request as a conflict, or admission lets
it through and the work queue refuses its job. -/
theorem processBuildRequest_fails_iff (loop : ControlLoop) (request : BuildRequest) :
    (∃ error, (loop.processBuildRequest request).1 = .error error) ↔
      (loop.admitted? request = none ∧ loop.settings.admitAll = true) ∨
        ((loop.admitted? request).isSome ∧ loop.WorkQueueRefuses request) := by
  cases admitting : loop.admitted? request with
  | none =>
    rw [processBuildRequest_fst_of_unadmitted admitting]
    cases loop.settings.admitAll <;> simp
  | some ready =>
    rw [processBuildRequest_of_admitted admitting, dispatch_fails_iff, (admitted?_spec admitting).1]
    simp [workQueueRefuses_with]

/-- Without `admitAll`, processing fails exactly when admission lets the request be dispatched and
the work queue refuses it. -/
theorem processBuildRequest_fails_iff_of_coalescing {loop : ControlLoop} (queued : loop.settings.admitAll = false)
    (request : BuildRequest) :
    (∃ error, (loop.processBuildRequest request).1 = .error error) ↔
      ((loop.registry.admitRequest loop.backlog request.target request).1 = .admitted ∨
        (loop.registry.admitRequest loop.backlog request.target request).1 = .duplicate .requesting) ∧
      loop.WorkQueueRefuses request := by
  rw [processBuildRequest_fails_iff, ← admitted?_isSome_iff_of_coalescing queued, queued]
  simp

/-- Under `admitAll`, processing fails exactly when the build is tracked in a state other than
`requesting`, or the work queue refuses the request. -/
theorem processBuildRequest_fails_iff_of_admitAll {loop : ControlLoop} (all : loop.settings.admitAll = true)
    (request : BuildRequest) :
    (∃ error, (loop.processBuildRequest request).1 = .error error) ↔
      loop.Conflicts request ∨ loop.WorkQueueRefuses request := by
  rw [processBuildRequest_fails_iff, ← admitted?_eq_none_iff_of_admitAll all]
  cases loop.admitted? request with
  | none => simp [all]
  | some ready => simp

/-- Processing fails only with a registry conflict on the request's own build or with the work
queue's refusal of its job. -/
theorem processBuildRequest_error_cases {loop : ControlLoop} {request : BuildRequest} {error : OrchestratorError}
    (failed : (loop.processBuildRequest request).1 = .error error) :
    (loop.settings.admitAll = true ∧ loop.Conflicts request ∧
        error = .registryConflict request.target request.id) ∨
      ∃ cause, loop.WorkQueueRefuses request ∧ error = .dispatch request.id cause := by
  cases admitting : loop.admitted? request with
  | none =>
    rw [processBuildRequest_fst_of_unadmitted admitting] at failed
    cases all : loop.settings.admitAll
    · simp [all] at failed
    · simp only [all, if_true, Except.error.injEq] at failed
      exact .inl ⟨rfl, (admitted?_eq_none_iff_of_admitAll all request).1 admitting, failed.symm⟩
  | some ready =>
    rw [processBuildRequest_of_admitted admitting] at failed
    obtain ⟨⟨cause, refused, named⟩, -⟩ := dispatch_error failed
    rw [(admitted?_spec admitting).1, workQueueRefuses_with] at refused
    exact .inr ⟨cause, refused, named⟩

/-- An event left because its send failed leaves the loop as it was but for the record of its
request's build, which admission wrote as `requesting`. -/
theorem onEvent_of_refused_send {loop : ControlLoop} {message : Message} {summary : PushSummary}
    {cause : BrokerError} (decoded : (decodeMessage? message : Option PushSummary) = some summary)
    (matched : loop.settings.matches (BuildRequest.ofSummary summary).target = true)
    (failed : (loop.processBuildRequest (BuildRequest.ofSummary summary)).1 =
      .error (.dispatch (BuildRequest.ofSummary summary).id cause)) :
    (loop.onEvent message).1 = .leave ∧
      ∃ registry, (loop.onEvent message).2 = { loop with registry } ∧
        registry.stateOf (BuildRequest.ofSummary summary).target (BuildRequest.ofSummary summary).id =
          some .requesting ∧
        BuildRegistry.KeepsAllBut (BuildRequest.ofSummary summary).target (BuildRequest.ofSummary summary).id
          loop.registry registry := by
  have leave := (onEvent_fst_eq_leave_iff loop message).2 ⟨summary, decoded, matched, _, failed⟩
  -- a conflict is refused before admission lets the request through; a failed send comes after
  cases admitting : loop.admitted? (BuildRequest.ofSummary summary) with
  | none =>
    rw [processBuildRequest_fst_of_unadmitted admitting] at failed
    split at failed <;> simp at failed
  | some ready =>
    obtain ⟨shape, requesting, keeps⟩ := admitted?_spec admitting
    rw [processBuildRequest_of_admitted admitting] at failed
    refine ⟨leave, ready.registry, ?_, requesting, keeps⟩
    rw [onEvent_of_matched decoded matched, processBuildRequest_of_admitted admitting, (dispatch_error failed).2]
    exact shape

theorem onEvent_of_undecoded {loop : ControlLoop} {message : Message}
    (undecoded : (decodeMessage? message : Option PushSummary) = none) : loop.onEvent message = (.ack, loop) := by
  simp [onEvent, undecoded]

theorem onResult_of_undecoded {loop : ControlLoop} {message : Message}
    (undecoded : (decodeMessage? message : Option BuildResponse) = none) : loop.onResult message = (.ack, loop) := by
  simp [onResult, undecoded]

theorem onEvent_of_unmatched {loop : ControlLoop} {message : Message} {summary : PushSummary}
    (decoded : (decodeMessage? message : Option PushSummary) = some summary)
    (unmatched : loop.settings.matches (BuildRequest.ofSummary summary).target = false) :
    loop.onEvent message = (.ack, loop) := by
  simp [onEvent, decoded, unmatched]

/-- Without `admitAll`, a request that admission reports as a duplicate in a state other than
`requesting` is taken and changes nothing. -/
theorem processBuildRequest_of_duplicate {loop : ControlLoop} {request : BuildRequest} {state : BuildState}
    (queued : loop.settings.admitAll = false)
    (answered : (loop.registry.admitRequest loop.backlog request.target request).1 = .duplicate state)
    (other : state ≠ .requesting) : loop.processBuildRequest request = (.ok (), loop) := by
  have unchanged := (loop.registry.admitRequest_spec request.target request loop.backlog).2.2.2.1 state answered
  unfold processBuildRequest
  simp only [queued, Bool.false_eq_true, if_false]
  rcases admitting : loop.registry.admitRequest loop.backlog request.target request with
    ⟨answer, registry, backlog⟩
  rw [admitting] at answered unchanged
  simp only [Prod.mk.injEq] at answered unchanged
  subst answered
  obtain ⟨rfl, rfl⟩ := unchanged
  dsimp only
  cases state
  case requesting => exact absurd rfl other
  all_goals rfl

/-- Without `admitAll`, an event for a build tracked in a state other than `requesting`, or
untracked and remembered as finished, is acknowledged and changes nothing. -/
theorem onEvent_of_duplicate {loop : ControlLoop} {message : Message} {summary : PushSummary}
    (queued : loop.settings.admitAll = false) (decoded : (decodeMessage? message : Option PushSummary) = some summary)
    (duplicate : loop.Conflicts (BuildRequest.ofSummary summary) ∨
      (loop.registry.stateOf (BuildRequest.ofSummary summary).target (BuildRequest.ofSummary summary).id = none ∧
        (BuildRequest.ofSummary summary).id ∈
          (loop.registry.buildsOf (BuildRequest.ofSummary summary).target).finished)) :
    loop.onEvent message = (.ack, loop) := by
  cases matched : loop.settings.matches (BuildRequest.ofSummary summary).target
  case false => exact onEvent_of_unmatched decoded matched
  -- admission reports the duplicate in its state, or in `built` for a finished id
  have admission := (loop.registry.admitRequest_spec (BuildRequest.ofSummary summary).target
    (BuildRequest.ofSummary summary) loop.backlog).1
  obtain ⟨state, answered, other⟩ : ∃ state, (loop.registry.admitRequest loop.backlog
      (BuildRequest.ofSummary summary).target (BuildRequest.ofSummary summary)).1 = .duplicate state ∧
      state ≠ .requesting := by
    rcases duplicate with ⟨state, other, tracked⟩ | ⟨untracked, finished⟩
    · exact ⟨state, (admission state).2 (.inl tracked), other⟩
    · exact ⟨.built, (admission .built).2 (.inr ⟨untracked, finished, rfl⟩), by decide⟩
  simp [onEvent, decoded, matched, processBuildRequest_of_duplicate queued answered other]

/-- Under `admitAll`, an event for a build tracked in a state other than `requesting` is left for
redelivery and changes nothing. -/
theorem onEvent_of_conflict {loop : ControlLoop} {message : Message} {summary : PushSummary}
    (all : loop.settings.admitAll = true) (decoded : (decodeMessage? message : Option PushSummary) = some summary)
    (matched : loop.settings.matches (BuildRequest.ofSummary summary).target = true)
    (conflict : loop.Conflicts (BuildRequest.ofSummary summary)) : loop.onEvent message = (.leave, loop) := by
  obtain ⟨state, other, tracked⟩ := conflict
  have refused : loop.registry.insert (BuildRequest.ofSummary summary).target (BuildRequest.ofSummary summary)
      .requesting = (false, loop.registry) := by
    simp [BuildRegistry.insert, show (loop.registry.buildsOf _).stateOf _ = some state from tracked, other]
  simp [onEvent, decoded, matched, processBuildRequest, all, refused]

end ControlLoop

open ControlLoop in
/-- How the loop answers each delivery, from every state. A worker report is acknowledged. An event
is left for redelivery exactly when it decodes, its target matches and processing its request
fails: without `admitAll` when admission admits the request or finds its build still `requesting`
and the work queue refuses the job, under `admitAll` when the build is tracked in another state or
the work queue refuses the job; no other error arises. Undecodable deliveries, unmatched events,
duplicates, conflicts and reports in states other than `building` and `built` leave the loop as it
was, and an event left because its send failed leaves it as it was but for its build's record,
now `requesting`. -/
theorem events_left_exactly_when_their_dispatch_fails (loop : ControlLoop) (message : Message) :
    (loop.onResult message).1 = .ack ∧
    ((loop.onEvent message).1 = .leave ↔
      ∃ summary, (decodeMessage? message : Option PushSummary) = some summary ∧
        loop.settings.matches (BuildRequest.ofSummary summary).target = true ∧
        ∃ error, (loop.processBuildRequest (BuildRequest.ofSummary summary)).1 = .error error) ∧
    (∀ request, loop.settings.admitAll = false →
      ((∃ error, (loop.processBuildRequest request).1 = .error error) ↔
        ((loop.registry.admitRequest loop.backlog request.target request).1 = .admitted ∨
          (loop.registry.admitRequest loop.backlog request.target request).1 = .duplicate .requesting) ∧
        loop.WorkQueueRefuses request)) ∧
    (∀ request, loop.settings.admitAll = true →
      ((∃ error, (loop.processBuildRequest request).1 = .error error) ↔
        loop.Conflicts request ∨ loop.WorkQueueRefuses request)) ∧
    (∀ request error, (loop.processBuildRequest request).1 = .error error →
      (loop.settings.admitAll = true ∧ loop.Conflicts request ∧
          error = .registryConflict request.target request.id) ∨
        ∃ cause, loop.WorkQueueRefuses request ∧ error = .dispatch request.id cause) ∧
    ((decodeMessage? message : Option PushSummary) = none → loop.onEvent message = (.ack, loop)) ∧
    ((decodeMessage? message : Option BuildResponse) = none → loop.onResult message = (.ack, loop)) ∧
    (∀ response, (decodeMessage? message : Option BuildResponse) = some response →
      response.state ≠ .building → response.state ≠ .built → loop.onResult message = (.ack, loop)) ∧
    ∀ summary, (decodeMessage? message : Option PushSummary) = some summary →
      (loop.settings.matches (BuildRequest.ofSummary summary).target = false →
        loop.onEvent message = (.ack, loop)) ∧
      (loop.settings.admitAll = false →
        loop.Conflicts (BuildRequest.ofSummary summary) ∨
          (loop.registry.stateOf (BuildRequest.ofSummary summary).target (BuildRequest.ofSummary summary).id =
              none ∧
            (BuildRequest.ofSummary summary).id ∈
              (loop.registry.buildsOf (BuildRequest.ofSummary summary).target).finished) →
        loop.onEvent message = (.ack, loop)) ∧
      (loop.settings.admitAll = true → loop.settings.matches (BuildRequest.ofSummary summary).target = true →
        loop.Conflicts (BuildRequest.ofSummary summary) → loop.onEvent message = (.leave, loop)) ∧
      ∀ cause, loop.settings.matches (BuildRequest.ofSummary summary).target = true →
        (loop.processBuildRequest (BuildRequest.ofSummary summary)).1 =
          .error (.dispatch (BuildRequest.ofSummary summary).id cause) →
        (loop.onEvent message).1 = .leave ∧
          ∃ registry, (loop.onEvent message).2 = { loop with registry } ∧
            registry.stateOf (BuildRequest.ofSummary summary).target (BuildRequest.ofSummary summary).id =
              some .requesting ∧
            BuildRegistry.KeepsAllBut (BuildRequest.ofSummary summary).target
              (BuildRequest.ofSummary summary).id loop.registry registry :=
  ⟨onResult_ack loop message, onEvent_fst_eq_leave_iff loop message,
    fun _ queued => processBuildRequest_fails_iff_of_coalescing queued _,
    fun _ all => processBuildRequest_fails_iff_of_admitAll all _,
    fun _ _ failed => processBuildRequest_error_cases failed,
    onEvent_of_undecoded, onResult_of_undecoded,
    fun _ decoded notBuilding notBuilt => loop.onResult_of_untracked_state decoded notBuilding notBuilt,
    fun _ decoded => ⟨onEvent_of_unmatched decoded, fun queued duplicate => onEvent_of_duplicate queued decoded duplicate,
      fun all matched conflict => onEvent_of_conflict all decoded matched conflict,
      fun _ matched failed => onEvent_of_refused_send decoded matched failed⟩⟩

end BenchDispatch
