import BenchDispatch.Proofs.Coherence

/-! A target's builds go to workers one at a time. A request is in flight from the call that sends it
to the work queue until a `built` report for its target and id is processed; with `admitAll` off no
run ever has two requests of one target in flight. The invariant ties each request in flight to a
record `requested` or `building` and lets a `requesting` record exist only while its target has
nothing in flight, so each of the three ways a request is sent (admission of an idle target, retry
of a `requesting` duplicate, promotion by a completion) sends a target's one `requesting` build. -/

set_option autoImplicit false

namespace BenchDispatch

open Broker

/-- After `calls` from `loop`, the request for `target` with `id` is in flight: a call sent it to the
work queue and no later call processed a `built` report for it. -/
def InFlight (loop : ControlLoop) (calls : List Call) (target : BuildTarget) (id : BuildId) : Prop :=
  SentThen loop (fun _ call => call.completes ≠ some (target, id)) calls target id

/-- The requests in flight once a call that sends `sent` and reports `completes` finished is made. -/
def inFlightAfter (inFlight : BuildTarget → BuildId → Prop) (sent : Option BuildRequest)
    (completes : Option (BuildTarget × BuildId)) (target : BuildTarget) (id : BuildId) : Prop :=
  (inFlight target id ∧ completes ≠ some (target, id)) ∨
    ∃ request, sent = some request ∧ request.target = target ∧ request.id = id

theorem inFlight_append_singleton (loop : ControlLoop) (calls : List Call) (call : Call) (target : BuildTarget)
    (id : BuildId) :
    InFlight loop (calls ++ [call]) target id ↔
      inFlightAfter (InFlight loop calls) ((loop.run calls).sentBy call) call.completes target id :=
  sentThen_append_singleton loop _ calls call target id

theorem Dispatch.sent_eq {registry after : BuildRegistry} {request sentRequest : BuildRequest}
    {sent : Option BuildRequest} (dispatch : Dispatch registry request after sent) (sending : sent = some sentRequest) :
    sentRequest = request := by
  cases dispatch with
  | sent => exact (Option.some.inj sending).symm
  | failed => cases sending

/-- Each target has at most one request in flight, tracked `requested` or `building`, and has a
`requesting` build, at most one, only while nothing of it is in flight. -/
structure OneInFlight (registry : BuildRegistry) (inFlight : BuildTarget → BuildId → Prop) : Prop where
  tracked : ∀ target id, inFlight target id →
    registry.stateOf target id = some .requested ∨ registry.stateOf target id = some .building
  unique : ∀ target id other, inFlight target id → inFlight target other → id = other
  idle_of_requesting : ∀ target id other, registry.stateOf target id = some .requesting → ¬ inFlight target other
  requesting_unique : ∀ target id other, registry.stateOf target id = some .requesting →
    registry.stateOf target other = some .requesting → id = other

namespace OneInFlight

variable {registry : BuildRegistry} {inFlight : BuildTarget → BuildId → Prop}

theorem congr (flight : OneInFlight registry inFlight) {other : BuildTarget → BuildId → Prop}
    (same : ∀ target id, inFlight target id ↔ other target id) : OneInFlight registry other := by
  obtain ⟨tracked, unique, idle, requesting⟩ := flight
  exact ⟨fun target id flying => tracked target id ((same target id).2 flying),
    fun target id other' flying flying' => unique target id other' ((same target id).2 flying) ((same target other').2 flying'),
    fun target id other' state flying => idle target id other' state ((same target other').2 flying), requesting⟩

/-- Sending a target's `requesting` build puts it alone in flight, `requested`; a failed send
changes nothing. -/
theorem dispatch (flight : OneInFlight registry inFlight) {request : BuildRequest} {after : BuildRegistry}
    {sent : Option BuildRequest} (dispatch : Dispatch registry request after sent)
    (requesting : registry.stateOf request.target request.id = some .requesting) :
    OneInFlight after (inFlightAfter inFlight sent none) := by
  have idle : ∀ other, ¬ inFlight request.target other :=
    fun other => flight.idle_of_requesting request.target request.id other requesting
  have state := dispatch.stateOf_of_requesting requesting
  -- the only request that can newly be in flight is the one dispatched, at its own target
  have fresh : ∀ target id, inFlightAfter inFlight sent none target id →
      inFlight target id ∧ request.target ≠ target ∨ sent = some request ∧ request.target = target ∧ request.id = id := by
    rintro target id (⟨flying, -⟩ | ⟨sentRequest, sending, rfl, rfl⟩)
    · exact .inl ⟨flying, fun same => idle id (same ▸ flying)⟩
    · obtain rfl := dispatch.sent_eq sending
      exact .inr ⟨sending, rfl, rfl⟩
  refine ⟨?_, ?_, ?_, ?_⟩
  · intro target id flying
    rcases fresh target id flying with ⟨flying, apart⟩ | ⟨sending, rfl, rfl⟩
    · simpa [state, apart] using flight.tracked target id flying
    · simp [state, sending]
  · intro target id other flying flying'
    rcases fresh target id flying with ⟨flying, apart⟩ | ⟨-, here, rfl⟩ <;>
      rcases fresh target other flying' with ⟨flying', apart'⟩ | ⟨-, here', rfl⟩
    · exact flight.unique target id other flying flying'
    · exact absurd here' apart
    · exact absurd here apart'
    · rfl
  · intro target id other requested flying
    rw [state] at requested
    split at requested
    · cases requested
    · rename_i unsent
      rcases fresh target other flying with ⟨flying, -⟩ | ⟨sending, rfl, rfl⟩
      · exact flight.idle_of_requesting target id other requested flying
      · have same := flight.requesting_unique _ _ _ requested requesting
        exact unsent ⟨rfl, same.symm, sending⟩
  · intro target id other requested requested'
    rw [state] at requested requested'
    split at requested
    · cases requested
    · split at requested'
      · cases requested'
      · exact flight.requesting_unique target id other requested requested'

/-- An idle target has nothing in flight, so tracking a request of it `requesting` is allowed. -/
theorem track_idle (flight : OneInFlight registry inFlight) {request : BuildRequest}
    (idle : ∀ id, registry.stateOf request.target id = none) :
    OneInFlight (registry.setBuilds request.target ((registry.buildsOf request.target).track request .requesting))
      inFlight := by
  have away : ∀ target id, inFlight target id → request.target ≠ target := by
    rintro target id flying rfl
    rcases flight.tracked _ id flying with tracked | tracked <;> simp [idle id] at tracked
  have state := BuildRegistry.stateOf_setBuilds_track registry request .requesting
  refine ⟨?_, flight.unique, ?_, ?_⟩
  · intro target id flying
    simpa [state, away target id flying] using flight.tracked target id flying
  · intro target id other requested flying
    rw [state] at requested
    split at requested
    · exact away target other flying (by simp_all)
    · exact flight.idle_of_requesting target id other requested flying
  · intro target id other requested requested'
    rw [state] at requested requested'
    split at requested <;> split at requested'
    · simp_all
    · rename_i fresh _
      obtain ⟨rfl, -⟩ := fresh
      simp [idle other] at requested'
    · rename_i _ fresh
      obtain ⟨rfl, -⟩ := fresh
      simp [idle id] at requested
    · exact flight.requesting_unique target id other requested requested'

/-- A `building` report writes `building`, which is neither in flight's business nor `requesting`. -/
theorem update_building (flight : OneInFlight registry inFlight) (request : BuildRequest) :
    OneInFlight (registry.update request.target request .requested .building).2 inFlight := by
  have state := BuildRegistry.stateOf_update registry request.target request .requested .building
  refine ⟨?_, flight.unique, ?_, ?_⟩
  · intro target id flying
    rw [state]
    split
    · exact .inr rfl
    · exact flight.tracked target id flying
  · intro target id other requested flying
    rw [state] at requested
    split at requested
    · cases requested
    · exact flight.idle_of_requesting target id other requested flying
  · intro target id other requested requested'
    rw [state] at requested requested'
    split at requested
    · cases requested
    · split at requested'
      · cases requested'
      · exact flight.requesting_unique target id other requested requested'

/-- Completing a build takes it out of flight; a promoted request becomes the target's only build,
`requesting`, with nothing of the target in flight. -/
theorem complete (flight : OneInFlight registry inFlight) {backlog : Backlog} (coherent : Coherent registry backlog)
    {target : BuildTarget} {request : BuildRequest} {completion : Completion} {completed : BuildRegistry}
    {remaining : Backlog}
    (completing : registry.complete backlog target request .building = (completion, completed, remaining)) :
    OneInFlight completed (inFlightAfter inFlight none (some (target, request.id))) := by
  have retires := coherent.retires target request
  have state := BuildRegistry.stateOf_complete retires completing
  -- with a promotion, the target had no build but the finished one
  have idle : ∀ next, completion.next = some next → ∀ id, request.id ≠ id → registry.stateOf target id = none :=
    fun next promoted => (BuildRegistry.complete_promoted retires completing promoted).2
  have left : ∀ other id, inFlightAfter inFlight none (some (target, request.id)) other id →
      inFlight other id ∧ (target, request.id) ≠ (other, id) := by
    rintro other id (⟨flying, finished⟩ | ⟨_, nothing, -⟩)
    · exact ⟨flying, fun same => finished (by rw [same])⟩
    · cases nothing
  -- at the target, a `requesting` build afterwards is the promoted one or an old one left alone
  have requestingAfter : ∀ id, completed.stateOf target id = some .requesting →
      completion.next.map (·.id) = some id ∨ completion.next = none ∧ registry.stateOf target id = some .requesting := by
    intro id requested
    rw [state, if_pos rfl] at requested
    split at requested
    · exact .inl ‹_›
    · split at requested
      · cases requested
      · rename_i other'
        cases promoted : completion.next with
        | none => exact .inr ⟨rfl, requested⟩
        | some next => simp [idle next promoted id other'] at requested
  -- a request still in flight at the target is not the finished one, so nothing was promoted
  have unpromoted : ∀ id, inFlight target id → request.id ≠ id → completion.next = none := by
    intro id flying other'
    cases promoted : completion.next with
    | none => rfl
    | some next =>
      rcases flight.tracked target id flying with tracked | tracked <;> simp [idle next promoted id other'] at tracked
  refine ⟨?_, ?_, ?_, ?_⟩
  · intro other id flying
    obtain ⟨flying, apart⟩ := left other id flying
    by_cases here : target = other
    · subst here
      have other' : request.id ≠ id := fun same => apart (by rw [same])
      simpa [state, unpromoted id flying other', other'] using flight.tracked target id flying
    · simpa [state, here] using flight.tracked other id flying
  · intro other id id' flying flying'
    exact flight.unique other id id' (left other id flying).1 (left other id' flying').1
  · intro other id id' requested flying
    obtain ⟨flying, apart⟩ := left other id' flying
    by_cases here : target = other
    · subst here
      have other' : request.id ≠ id' := fun same => apart (by rw [same])
      rcases requestingAfter id requested with promoted | ⟨-, requested⟩
      · rw [unpromoted id' flying other'] at promoted
        cases promoted
      · exact flight.idle_of_requesting target id id' requested flying
    · rw [state, if_neg here] at requested
      exact flight.idle_of_requesting other id id' requested flying
  · intro other id id' requested requested'
    by_cases here : target = other
    · subst here
      rcases requestingAfter id requested with promoted | ⟨unpromoted, requested⟩ <;>
        rcases requestingAfter id' requested' with promoted' | ⟨unpromoted', requested'⟩
      · rw [promoted] at promoted'
        exact Option.some.inj promoted'
      · rw [unpromoted'] at promoted
        cases promoted
      · rw [unpromoted] at promoted'
        cases promoted'
      · exact flight.requesting_unique target id id' requested requested'
    · rw [state, if_neg here] at requested requested'
      exact flight.requesting_unique other id id' requested requested'

/-- One call with `admitAll` off keeps a target's requests one at a time. -/
theorem step {loop : ControlLoop} {registry : BuildRegistry} {backlog : Backlog} {sent : Option BuildRequest}
    {completes : Option (BuildTarget × BuildId)} (flight : OneInFlight loop.registry inFlight)
    (coherent : Coherent loop.registry loop.backlog) (queued : loop.settings.admitAll = false)
    (effect : Effect loop registry backlog sent completes) :
    OneInFlight registry (inFlightAfter inFlight sent completes) := by
  have unchanged : ∀ target id, inFlight target id ↔ inFlightAfter inFlight none none target id := by
    intro target id
    simp [inFlightAfter]
  cases effect with
  | idle => exact flight.congr unchanged
  | offer => exact flight.congr unchanged
  | launch request _ _ _ idle dispatch =>
    have untracked := (TargetBuilds.isEmpty_active_iff _).1 idle
    refine (flight.track_idle untracked).dispatch dispatch ?_
    simp [BuildRegistry.stateOf_setBuilds, TargetBuilds.stateOf_track]
  | retry request _ requesting dispatch => exact flight.dispatch dispatch requesting
  | insert request accepted _ _ => simp [queued] at accepted
  | advance request => exact (flight.update_building request).congr unchanged
  | finish request completing _ => exact flight.complete coherent completing
  | promote request next completing promoted dispatch =>
    obtain ⟨ownTarget, requesting⟩ := (coherent.complete completing).2 next promoted
    have sending := (flight.complete coherent completing).dispatch dispatch (by rw [ownTarget]; exact requesting)
    refine sending.congr fun target id => ?_
    simp only [inFlightAfter, ne_eq, reduceCtorEq, not_false_eq_true, and_true, false_and, exists_false, or_false]

end OneInFlight

theorem oneInFlight_run (settings : Settings) (hub : Hub) (queued : settings.admitAll = false) (calls : List Call) :
    OneInFlight ((ControlLoop.start settings hub).run calls).registry (InFlight (ControlLoop.start settings hub) calls) := by
  induction calls using List.reverseRecOn with
  | nil =>
    refine ⟨?_, ?_, ?_, ?_⟩ <;> intro target id
    · rintro ⟨before, call, after, -, split, -⟩
      simp at split
    · rintro other ⟨before, call, after, -, split, -⟩
      simp at split
    · intro other requested
      simp [ControlLoop.start, BuildRegistry.empty, BuildRegistry.stateOf, BuildRegistry.buildsOf,
        TargetBuilds.empty, TargetBuilds.stateOf] at requested
    · intro other requested
      simp [ControlLoop.start, BuildRegistry.empty, BuildRegistry.stateOf, BuildRegistry.buildsOf,
        TargetBuilds.empty, TargetBuilds.stateOf] at requested
  | append_singleton calls call flight =>
    rw [ControlLoop.run_append_singleton]
    have step := flight.step (coherent_run settings hub calls) (by simpa [ControlLoop.start] using queued)
      (ControlLoop.effect_apply _ call)
    exact step.congr fun target id => (inFlight_append_singleton _ calls call target id).symm

/-- With `admitAll` off, at every point of every run of a fresh loop (any messages, any pattern of
failing sends) each target has at most one request in flight. -/
theorem one_request_in_flight_per_target (settings : Settings) (hub : Hub) (queued : settings.admitAll = false)
    (calls : List Call) (target : BuildTarget) (id other : BuildId)
    (flying : InFlight (ControlLoop.start settings hub) calls target id)
    (flying' : InFlight (ControlLoop.start settings hub) calls target other) : id = other :=
  (oneInFlight_run settings hub queued calls).unique target id other flying flying'

/-- A fresh loop with `admitAll` off that processes two requests for one target: the second waits
in the backlog, and a `built` report on the first promotes and sends it, leaving it alone in flight. -/
theorem promoted_request_alone_in_flight :
    let settings : Settings := ⟨"events", "results", "work", "outputs", [], false, 1⟩
    let first : BuildRequest := ⟨"b1", ⟨0, 0, 0, by decide, by decide, by decide, by decide, by decide⟩,
      "repo", "main", "r1", "alice"⟩
    let second : BuildRequest := ⟨"b2", ⟨0, 1, 0, by decide, by decide, by decide, by decide, by decide⟩,
      "repo", "main", "r2", "alice"⟩
    let report := Message.text ("[\"x\", \"1970-01-01T00:00:02Z\", \"BUILT\", " ++
      "[\"b1\", \"1970-01-01T00:00:00Z\", \"repo\", \"main\", \"r1\", \"alice\"]]")
    let loop := ControlLoop.start settings (Hub.empty.declare "work")
    let calls := [Call.process first, .process second, .result report]
    settings.admitAll = false ∧ InFlight loop calls "main" "b2" ∧ ∀ id, InFlight loop calls "main" id → id = "b2" := by
  intro settings first second report loop calls
  -- the second request waits in the backlog until the report on the first promotes it
  have promoted : (loop.run [.process first, .process second]).sentBy (.result report) = some second := by
    decide +kernel
  have flying : InFlight loop calls "main" "b2" :=
    ⟨[.process first, .process second], .result report, [], second, rfl, promoted, rfl, rfl,
      fun middle later rest split => by simp at split⟩
  exact ⟨rfl, flying, fun id other => one_request_in_flight_per_target settings _ rfl calls "main" id "b2" other flying⟩

end BenchDispatch
