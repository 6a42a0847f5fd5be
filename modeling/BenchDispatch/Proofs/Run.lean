import Mathlib.Data.List.Induction
import BenchDispatch.Dispatch.ControlLoop
import BenchDispatch.Proofs.Registry

/-! Runs of the control loop. A run is the list of calls made to a loop one at a time: a handler on
a message from its queue, a request processed directly, or the broker changing between two calls
(sends to a queue made to fail or let through, queues declared or drained by workers). Each call
hands at most one request to `dispatch`; `Effect` says once, path by path through the handlers,
what a call does to the registry and the backlog, which request it sends to the work queue, and
which build it reports finished. -/

set_option autoImplicit false

namespace BenchDispatch

open Broker

/-- One call made to a control loop. -/
inductive Call where
  /-- `onEvent` on a message from the event queue. -/
  | event (message : Message)
  /-- `onResult` on a message from the result queue. -/
  | result (message : Message)
  /-- `processBuildRequest` called directly. -/
  | process (request : BuildRequest)
  /-- The broker as the next call finds it. -/
  | broker (hub : Hub)

/-- The build a call reports finished: a `built` report that `onResult` reads. -/
def Call.completes : Call → Option (BuildTarget × BuildId)
  | .result message =>
    match (decodeMessage? message : Option BuildResponse) with
    | some response =>
      if response.state = .built then some (response.request.target, response.request.id) else none
    | none => none
  | _ => none

namespace ControlLoop

/-- The loop after a call. -/
def apply (loop : ControlLoop) : Call → ControlLoop
  | .event message => (loop.onEvent message).2
  | .result message => (loop.onResult message).2
  | .process request => (loop.processBuildRequest request).2
  | .broker hub => { loop with hub }

/-- The loop after a run of calls. -/
def run (loop : ControlLoop) (calls : List Call) : ControlLoop :=
  calls.foldl apply loop

@[simp] theorem run_nil (loop : ControlLoop) : loop.run [] = loop := rfl

@[simp] theorem run_cons (loop : ControlLoop) (call : Call) (calls : List Call) :
    loop.run (call :: calls) = (loop.apply call).run calls := rfl

@[simp] theorem run_append_singleton (loop : ControlLoop) (calls : List Call) (call : Call) :
    loop.run (calls ++ [call]) = (loop.run calls).apply call :=
  List.foldl_append ..

theorem run_append (loop : ControlLoop) (calls more : List Call) :
    loop.run (calls ++ more) = (loop.run calls).run more :=
  List.foldl_append ..

/-- The request a dispatch sends to the work queue, when the send goes through. -/
def dispatched (loop : ControlLoop) (request : BuildRequest) : Option BuildRequest :=
  match (loop.dispatch request).1 with
  | .ok () => some request
  | .error _ => none

/-- The loop a processed request is dispatched from, when it is dispatched: under `admitAll` once it
is tracked in `requesting`, otherwise once admission admits it or finds it still `requesting`. -/
def admitted? (loop : ControlLoop) (request : BuildRequest) : Option ControlLoop :=
  if loop.settings.admitAll then
    match loop.registry.insert request.target request .requesting with
    | (true, registry) => some { loop with registry }
    | (false, _) => none
  else
    match loop.registry.admitRequest loop.backlog request.target request with
    | (.admitted, registry, backlog) => some { loop with registry, backlog }
    | (.duplicate .requesting, registry, backlog) => some { loop with registry, backlog }
    | _ => none

/-- The loop once a `built` report completed its build, before the promoted request is dispatched. -/
def completed (loop : ControlLoop) (request : BuildRequest) : Completion × ControlLoop :=
  let (completion, registry, backlog) := loop.registry.complete loop.backlog request.target request .building
  (completion, { loop with registry, backlog })

/-- The request a call sends to the work queue. -/
def sentBy (loop : ControlLoop) : Call → Option BuildRequest
  | .event message =>
    match (decodeMessage? message : Option PushSummary) with
    | some summary =>
      if loop.settings.matches (BuildRequest.ofSummary summary).target then
        (loop.admitted? (BuildRequest.ofSummary summary)).bind (·.dispatched (BuildRequest.ofSummary summary))
      else none
    | none => none
  | .result message =>
    match (decodeMessage? message : Option BuildResponse) with
    | some response =>
      if response.state = .built then
        let (completion, ready) := loop.completed response.request
        completion.next.bind ready.dispatched
      else none
    | none => none
  | .process request => (loop.admitted? request).bind (·.dispatched request)
  | .broker _ => none

end ControlLoop

/-- A dispatch from a registry: the send goes through and the build moves from `requesting` to
`requested`, or it fails and nothing changes. -/
inductive Dispatch (registry : BuildRegistry) (request : BuildRequest) : BuildRegistry → Option BuildRequest → Prop
  | sent : Dispatch registry request (registry.update request.target request .requesting .requested).2 (some request)
  | failed : Dispatch registry request registry none

/-- What a call does, path by path: the registry and backlog after it, the request it sends to the
work queue, and the build it reports finished. -/
inductive Effect (loop : ControlLoop) : BuildRegistry → Backlog → Option BuildRequest →
    Option (BuildTarget × BuildId) → Prop
  /-- Nothing changes: a message that does not decode, an unmatched target, a duplicate, a report
  in another state, a change of the broker. -/
  | idle : Effect loop loop.registry loop.backlog none none
  /-- A new request for a busy target goes to the backlog. -/
  | offer (request : BuildRequest) :
      loop.settings.admitAll = false → loop.registry.stateOf request.target request.id = none →
      (loop.registry.buildsOf request.target).isFinished request.id = false →
      (loop.registry.buildsOf request.target).active.isEmpty = false →
      Effect loop loop.registry (loop.backlog.offer request.target request).2 none none
  /-- A new request for an idle target is tracked in `requesting` and dispatched. -/
  | launch (request : BuildRequest) {registry : BuildRegistry} {sent : Option BuildRequest} :
      loop.settings.admitAll = false → loop.registry.stateOf request.target request.id = none →
      (loop.registry.buildsOf request.target).isFinished request.id = false →
      (loop.registry.buildsOf request.target).active.isEmpty = true →
      Dispatch (loop.registry.setBuilds request.target
        ((loop.registry.buildsOf request.target).track request .requesting)) request registry sent →
      Effect loop registry loop.backlog sent none
  /-- A request whose build is still `requesting` is dispatched again. -/
  | retry (request : BuildRequest) {registry : BuildRegistry} {sent : Option BuildRequest} :
      loop.settings.admitAll = false → loop.registry.stateOf request.target request.id = some .requesting →
      Dispatch loop.registry request registry sent → Effect loop registry loop.backlog sent none
  /-- Under `admitAll`, a request untracked or `requesting` is tracked so and dispatched. -/
  | insert (request : BuildRequest) {registry : BuildRegistry} {sent : Option BuildRequest} :
      loop.settings.admitAll = true →
      (loop.registry.stateOf request.target request.id = none ∨
        loop.registry.stateOf request.target request.id = some .requesting) →
      Dispatch (loop.registry.insert request.target request .requesting).2 request registry sent →
      Effect loop registry loop.backlog sent none
  /-- A `building` report moves its build from `requested` to `building`. -/
  | advance (request : BuildRequest) :
      Effect loop (loop.registry.update request.target request .requested .building).2 loop.backlog none none
  /-- A `built` report completes its build and promotes nothing. -/
  | finish (request : BuildRequest) {completion : Completion} {completed : BuildRegistry} {backlog : Backlog} :
      loop.registry.complete loop.backlog request.target request .building = (completion, completed, backlog) →
      completion.next = none → Effect loop completed backlog none (some (request.target, request.id))
  /-- A `built` report completes its build and dispatches the request it promotes. -/
  | promote (request next : BuildRequest) {completion : Completion} {completed registry : BuildRegistry}
      {backlog : Backlog} {sent : Option BuildRequest} :
      loop.registry.complete loop.backlog request.target request .building = (completion, completed, backlog) →
      completion.next = some next → Dispatch completed next registry sent →
      Effect loop registry backlog sent (some (request.target, request.id))

namespace ControlLoop

@[simp] theorem dispatch_backlog (loop : ControlLoop) (request : BuildRequest) :
    (loop.dispatch request).2.backlog = loop.backlog := by
  unfold dispatch
  split <;> rfl

@[simp] theorem dispatch_settings (loop : ControlLoop) (request : BuildRequest) :
    (loop.dispatch request).2.settings = loop.settings := by
  unfold dispatch
  split <;> rfl

theorem dispatch_effect (loop : ControlLoop) (request : BuildRequest) :
    Dispatch loop.registry request (loop.dispatch request).2.registry (loop.dispatched request) := by
  cases sending : loop.hub.send loop.settings.workQueue (.text (encode request)) with
  | error cause =>
    simp only [dispatch, dispatched, sending]
    exact .failed
  | ok hub =>
    simp only [dispatch, dispatched, sending]
    exact .sent

theorem dispatch_of_sent {loop : ControlLoop} {request : BuildRequest} {hub : Hub}
    (sent : loop.hub.send loop.settings.workQueue (.text (encode request)) = .ok hub) :
    loop.dispatch request =
      (.ok (), { loop with hub, registry := (loop.registry.update request.target request .requesting .requested).2 }) := by
  simp [dispatch, sent]

theorem dispatch_of_failed {loop : ControlLoop} {request : BuildRequest} {cause : BrokerError}
    (failed : loop.hub.send loop.settings.workQueue (.text (encode request)) = .error cause) :
    loop.dispatch request = (.error (.dispatch request.id cause), loop) := by
  simp [dispatch, failed]

theorem processBuildRequest_effect (loop : ControlLoop) (request : BuildRequest) :
    Effect loop (loop.processBuildRequest request).2.registry (loop.processBuildRequest request).2.backlog
      ((loop.admitted? request).bind (·.dispatched request)) none := by
  unfold processBuildRequest admitted?
  cases queued : loop.settings.admitAll with
  | true =>
    simp only [if_true]
    rcases BuildRegistry.insert_cases loop.registry request.target request .requesting with
      ⟨untracked, inserted⟩ | ⟨tracked, inserted⟩ | ⟨current, other, tracked, inserted⟩
    · have effect := Effect.insert request queued (.inl untracked) (dispatch_effect { loop with
        registry := (loop.registry.insert request.target request .requesting).2 } request)
      rw [inserted] at effect ⊢
      simpa using effect
    · have effect := Effect.insert request queued (.inr tracked) (dispatch_effect { loop with
        registry := (loop.registry.insert request.target request .requesting).2 } request)
      rw [inserted] at effect ⊢
      simpa using effect
    · rw [inserted]
      exact .idle
  | false =>
    simp only [Bool.false_eq_true, if_false]
    rcases BuildRegistry.admitRequest_cases loop.registry loop.backlog request.target request with
      ⟨state, tracked, admitted⟩ | ⟨untracked, finished, admitted⟩ | ⟨untracked, finished, busy, admitted⟩ |
        ⟨untracked, finished, idle, admitted⟩
    · rw [admitted]
      cases state
      case requesting =>
        simpa using Effect.retry request queued tracked (dispatch_effect loop request)
      all_goals exact .idle
    · rw [admitted]
      exact .idle
    · rw [admitted]
      exact .offer request queued untracked finished busy
    · rw [admitted]
      have sending := dispatch_effect { loop with
        registry := loop.registry.setBuilds request.target ((loop.registry.buildsOf request.target).track request .requesting) }
        request
      simpa using Effect.launch request queued untracked finished idle sending

/-- An event that decodes and matches is handled by processing its request, whatever comes of it. -/
theorem onEvent_of_matched {loop : ControlLoop} {message : Message} {summary : PushSummary}
    (decoded : (decodeMessage? message : Option PushSummary) = some summary)
    (matched : loop.settings.matches (BuildRequest.ofSummary summary).target = true) :
    (loop.onEvent message).2 = (loop.processBuildRequest (BuildRequest.ofSummary summary)).2 := by
  simp only [onEvent, decoded, matched, Bool.not_true, Bool.false_eq_true, if_false]
  cases loop.processBuildRequest (BuildRequest.ofSummary summary) with
  | mk result after => cases result <;> rfl

theorem event_effect (loop : ControlLoop) (message : Message) :
    Effect loop (loop.apply (.event message)).registry (loop.apply (.event message)).backlog
      (loop.sentBy (.event message)) none := by
  rcases Option.eq_none_or_eq_some (decodeMessage? message : Option PushSummary) with decoded | ⟨summary, decoded⟩
  · simp only [apply, sentBy, onEvent, decoded]
    exact .idle
  · by_cases matched : loop.settings.matches (BuildRequest.ofSummary summary).target = true
    · simp only [apply, sentBy, onEvent_of_matched decoded matched, decoded, matched, if_true]
      exact processBuildRequest_effect loop (BuildRequest.ofSummary summary)
    · simp only [apply, sentBy, onEvent, decoded, matched, Bool.not_false, if_true, Bool.false_eq_true, if_false]
      exact .idle

theorem result_effect (loop : ControlLoop) (message : Message) :
    Effect loop (loop.apply (.result message)).registry (loop.apply (.result message)).backlog
      (loop.sentBy (.result message)) (Call.result message).completes := by
  rcases Option.eq_none_or_eq_some (decodeMessage? message : Option BuildResponse) with decoded | ⟨response, decoded⟩
  · simp only [apply, sentBy, onResult, Call.completes, decoded]
    exact .idle
  · cases reported : response.state
    case building =>
      simp only [apply, sentBy, onResult, Call.completes, decoded, reported, reduceCtorEq, if_false]
      exact .advance response.request
    case built =>
      rcases completing : loop.registry.complete loop.backlog response.request.target response.request .building with
        ⟨completion, retired, backlog⟩
      simp only [apply, sentBy, onResult, completed, Call.completes, decoded, reported, completing, if_true]
      -- the report is forwarded last, and the forward changes only the broker
      cases promoted : completion.next with
      | none =>
        simp only [Option.bind_none]
        split <;> exact .finish response.request completing promoted
      | some next =>
        simp only [Option.bind_some]
        have sending := dispatch_effect { loop with registry := retired, backlog } next
        split <;> simpa using .promote response.request next completing promoted sending
    all_goals
      simp only [apply, sentBy, onResult, Call.completes, decoded, reported, reduceCtorEq, if_false]
      exact .idle

/-- Every call does one of the things `Effect` lists. -/
theorem effect_apply (loop : ControlLoop) (call : Call) :
    Effect loop (loop.apply call).registry (loop.apply call).backlog (loop.sentBy call) call.completes := by
  cases call with
  | event message => exact event_effect loop message
  | result message => exact result_effect loop message
  | process request => exact processBuildRequest_effect loop request
  | broker hub => exact .idle

@[simp] theorem processBuildRequest_settings (loop : ControlLoop) (request : BuildRequest) :
    (loop.processBuildRequest request).2.settings = loop.settings := by
  unfold processBuildRequest
  dsimp only
  split
  · split <;> simp
  · split <;> simp

/-- No call changes the settings. -/
@[simp] theorem apply_settings (loop : ControlLoop) (call : Call) : (loop.apply call).settings = loop.settings := by
  cases call with
  | event message =>
    rcases Option.eq_none_or_eq_some (decodeMessage? message : Option PushSummary) with decoded | ⟨summary, decoded⟩
    · simp [apply, onEvent, decoded]
    · by_cases matched : loop.settings.matches (BuildRequest.ofSummary summary).target = true
      · simp [apply, onEvent_of_matched decoded matched]
      · simp [apply, onEvent, decoded, matched]
  | result message =>
    simp only [apply, onResult]
    split
    · rfl
    · split
      · rfl
      · split <;> split <;> simp
      · rfl
  | process request => simp [apply]
  | broker hub => rfl

@[simp] theorem run_settings (loop : ControlLoop) (calls : List Call) : (loop.run calls).settings = loop.settings := by
  induction calls using List.reverseRecOn with
  | nil => rfl
  | append_singleton calls call ih => simp [ih]

end ControlLoop

/-! ## Histories of runs -/

/-- After `calls` from `loop`, some call sent the request for `target` with `id` to the work queue,
and every call after it satisfied `kept` in the loop it was made to. -/
def SentThen (loop : ControlLoop) (kept : ControlLoop → Call → Prop) (calls : List Call) (target : BuildTarget)
    (id : BuildId) : Prop :=
  ∃ before call after request, calls = before ++ call :: after ∧
    (loop.run before).sentBy call = some request ∧ request.target = target ∧ request.id = id ∧
    ∀ middle later rest, after = middle ++ later :: rest → kept (loop.run (before ++ call :: middle)) later

private theorem split_append_singleton {calls before after : List Call} {call last : Call}
    (split : calls ++ [last] = before ++ call :: after) :
    (before = calls ∧ call = last ∧ after = []) ∨ ∃ middle, after = middle ++ [last] ∧ calls = before ++ call :: middle := by
  rcases List.eq_nil_or_concat after with rfl | ⟨middle, final, rfl⟩
  · obtain ⟨same, single⟩ := List.append_inj' split rfl
    exact .inl ⟨same.symm, (List.singleton_inj.1 single).symm, rfl⟩
  · have regrouped : calls ++ [last] = (before ++ call :: middle) ++ [final] := by simpa using split
    obtain ⟨same, single⟩ := List.append_inj' regrouped rfl
    obtain rfl := List.singleton_inj.1 single
    exact .inr ⟨middle, by simp, same⟩

/-- One more call keeps a sent request's history when it satisfies `kept`, and starts one when it
sends the request. -/
theorem sentThen_append_singleton (loop : ControlLoop) (kept : ControlLoop → Call → Prop) (calls : List Call)
    (call : Call) (target : BuildTarget) (id : BuildId) :
    SentThen loop kept (calls ++ [call]) target id ↔
      (SentThen loop kept calls target id ∧ kept (loop.run calls) call) ∨
        ∃ request, (loop.run calls).sentBy call = some request ∧ request.target = target ∧ request.id = id := by
  constructor
  · rintro ⟨before, sending, after, request, split, sent, rfl, rfl, later⟩
    rcases split_append_singleton split with ⟨rfl, rfl, rfl⟩ | ⟨middle, rfl, rfl⟩
    · exact .inr ⟨request, sent, rfl, rfl⟩
    · refine .inl ⟨⟨before, sending, middle, request, rfl, sent, rfl, rfl, ?_⟩, ?_⟩
      · intro middle' later' rest split'
        exact later middle' later' (rest ++ [call]) (by simp [split'])
      · simpa using later middle call [] rfl
  · rintro (⟨⟨before, sending, after, request, rfl, sent, rfl, rfl, later⟩, last⟩ | ⟨request, sent, rfl, rfl⟩)
    · refine ⟨before, sending, after ++ [call], request, by simp, sent, rfl, rfl, ?_⟩
      intro middle later' rest split
      rcases List.eq_nil_or_concat rest with rfl | ⟨rest', final, rfl⟩
      · obtain ⟨rfl, single⟩ := List.append_inj' split rfl
        obtain rfl := List.singleton_inj.1 single
        simpa using last
      · have regrouped : after ++ [call] = (middle ++ later' :: rest') ++ [final] := by simpa using split
        obtain ⟨split', -⟩ := List.append_inj' regrouped rfl
        exact later middle later' rest' split'
    · exact ⟨calls, call, [], request, rfl, sent, rfl, rfl, by simp⟩

end BenchDispatch
