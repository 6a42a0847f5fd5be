import BenchDispatch.Proofs.Coherence
import BenchDispatch.Proofs.Newest

/-! Custody of the requests events bring in. Once the loop acknowledges an event whose request
passed admission, no message holds that request any more, so the loop must: from then on the
request has been sent to the work queue, waits as its target's backlog entry, or lost that entry
to a request at least as new. An event whose own dispatch fails is left for redelivery, and the
broker retries it. A `built` report is different: it is acknowledged whatever its sends do, so when
it drains the waiting request and cannot send it, nothing is left to retry the request. That is the
one way out of custody, and the main theorem names it. -/

set_option autoImplicit false

namespace BenchDispatch

open Broker

/-- The target's backlog entry holds another request, at least as new as `request`. -/
def Backlog.Superseded (backlog : Backlog) (request : BuildRequest) : Prop :=
  ∃ newer, backlog.peek request.target = some newer ∧ newer ≠ request ∧
    request.timestamp.isAfter newer.timestamp = false

instance (backlog : Backlog) (request : BuildRequest) : Decidable (backlog.Superseded request) :=
  decidable_of_iff ((backlog.peek request.target).any fun newer =>
      newer != request && !request.timestamp.isAfter newer.timestamp)
    (by cases peeked : backlog.peek request.target <;> simp [Backlog.Superseded, peeked])

/-- A split of a list around one of its elements is a position in it. -/
private theorem exists_split_iff_index {α : Type} (l : List α) (P : List α → α → Prop) :
    (∃ before x after, l = before ++ x :: after ∧ P before x) ↔ ∃ i : Fin l.length, P (l.take i) l[i] := by
  constructor
  · rintro ⟨before, x, after, rfl, holds⟩
    refine ⟨⟨before.length, by simp⟩, ?_⟩
    simpa [List.take_left'] using holds
  · rintro ⟨i, holds⟩
    refine ⟨l.take i, l[i], l.drop (i + 1), ?_, holds⟩
    have split := List.take_append_drop (i : Nat) l
    rw [List.drop_eq_getElem_cons i.isLt] at split
    exact split.symm

namespace ControlLoop

/-- The request a call tries to send to the work queue, whether the send goes through or not: the
request of a matching event or of a processed request, once admission lets it be dispatched, and
the request a `built` report promotes. -/
def attempted (loop : ControlLoop) : Call → Option BuildRequest
  | .event message =>
    match (decodeMessage? message : Option PushSummary) with
    | some summary =>
      if loop.settings.matches (BuildRequest.ofSummary summary).target then
        (loop.admitted? (BuildRequest.ofSummary summary)).map fun _ => BuildRequest.ofSummary summary
      else none
    | none => none
  | .result message =>
    match (decodeMessage? message : Option BuildResponse) with
    | some response => if response.state = .built then (loop.completed response.request).1.next else none
    | none => none
  | .process request => (loop.admitted? request).map fun _ => request
  | .broker _ => none

/-- How a call answers the delivery it handles; a direct call of `processBuildRequest` and a change
of the broker handle none. -/
def answer (loop : ControlLoop) : Call → Option Disposition
  | .event message => some (loop.onEvent message).1
  | .result message => some (loop.onResult message).1
  | .process _ => none
  | .broker _ => none

/-- An event that hands its request over to the loop: it decodes to `request`, its target matches,
the request's id is neither tracked nor finished for that target, and the loop acknowledges it. -/
def AcceptsEvent (loop : ControlLoop) (message : Message) (request : BuildRequest) : Prop :=
  (decodeMessage? message : Option PushSummary).map BuildRequest.ofSummary = some request ∧
    loop.settings.matches request.target = true ∧ loop.registry.stateOf request.target request.id = none ∧
    (loop.registry.buildsOf request.target).isFinished request.id = false ∧ (loop.onEvent message).1 = .ack

/-- Where a request handed over by the first of `calls` is after them: a call sent it to the work
queue, it is its target's backlog entry, or a call gave that entry to another request at least as
new, when the entry held it or at the hand-over. -/
def Keeps (loop : ControlLoop) (calls : List Call) (request : BuildRequest) : Prop :=
  (∃ before call after, calls = before ++ call :: after ∧ (loop.run before).sentBy call = some request) ∨
    (loop.run calls).backlog.peek request.target = some request ∨
    ∃ before call after, calls = before ++ call :: after ∧
      (before = [] ∨ (loop.run before).backlog.peek request.target = some request) ∧
      (loop.run (before ++ [call])).backlog.Superseded request

instance (loop : ControlLoop) (message : Message) (request : BuildRequest) :
    Decidable (loop.AcceptsEvent message request) :=
  inferInstanceAs (Decidable (_ ∧ _ ∧ _ ∧ _ ∧ _))

-- a split of the run is one of its positions, so custody on a given run can be computed
instance (loop : ControlLoop) (calls : List Call) (request : BuildRequest) : Decidable (loop.Keeps calls request) :=
  decidable_of_iff ((∃ i : Fin calls.length, (loop.run (calls.take i)).sentBy calls[i] = some request) ∨
      (loop.run calls).backlog.peek request.target = some request ∨
      ∃ i : Fin calls.length, (calls.take i = [] ∨
        (loop.run (calls.take i)).backlog.peek request.target = some request) ∧
        (loop.run (calls.take i ++ [calls[i]])).backlog.Superseded request)
    (by simp only [Keeps, exists_split_iff_index])

/-- A `built` report among `calls` drained the request to dispatch it, and could not send it. -/
def Drains (loop : ControlLoop) (calls : List Call) (request : BuildRequest) : Prop :=
  ∃ before message after, calls = before ++ .result message :: after ∧
    (loop.run before).attempted (.result message) = some request ∧
    (loop.run before).sentBy (.result message) = none

/-! ## Attempts and answers -/

theorem dispatched_cases (loop : ControlLoop) (request : BuildRequest) :
    loop.dispatched request = some request ∨ loop.dispatched request = none := by
  unfold dispatched
  split <;> simp

theorem processBuildRequest_of_admitted {loop ready : ControlLoop} {request : BuildRequest}
    (admitted : loop.admitted? request = some ready) : loop.processBuildRequest request = ready.dispatch request := by
  unfold admitted? at admitted
  unfold processBuildRequest
  cases queued : loop.settings.admitAll with
  | true =>
    rcases inserting : loop.registry.insert request.target request .requesting with ⟨tracked, registry⟩
    cases tracked <;> simp_all
  | false =>
    rcases admitting : loop.registry.admitRequest loop.backlog request.target request with
      ⟨admission, registry, backlog⟩
    simp only [queued, admitting, Bool.false_eq_true, if_false] at admitted ⊢
    split at admitted <;> simp_all

theorem sentBy_of_attempted {loop : ControlLoop} {call : Call} {request : BuildRequest}
    (tried : loop.attempted call = some request) : loop.sentBy call = some request ∨ loop.sentBy call = none := by
  cases call with
  | event message =>
    simp only [attempted] at tried
    simp only [sentBy]
    split at tried
    · split at tried
      · obtain ⟨ready, admitted, rfl⟩ := Option.map_eq_some_iff.1 tried
        simpa [*] using dispatched_cases ready _
      · cases tried
    · cases tried
  | result message =>
    simp only [attempted] at tried
    simp only [sentBy]
    split at tried
    · split at tried
      · simpa [*] using dispatched_cases (loop.completed _).2 request
      · cases tried
    · cases tried
  | process processed =>
    obtain ⟨ready, admitted, rfl⟩ := Option.map_eq_some_iff.1 tried
    simpa [sentBy, admitted] using dispatched_cases ready _
  | broker hub => cases tried

/-- An event whose attempted dispatch fails is left for the broker to deliver again. -/
theorem answer_of_failed_event {loop : ControlLoop} {message : Message} {request : BuildRequest}
    (tried : loop.attempted (.event message) = some request) (failed : loop.sentBy (.event message) = none) :
    loop.answer (.event message) = some .leave := by
  simp only [attempted] at tried
  split at tried
  · rename_i summary decoded
    split at tried
    · rename_i matched
      obtain ⟨ready, admitted, rfl⟩ := Option.map_eq_some_iff.1 tried
      simp only [sentBy, decoded, matched, admitted, if_true, Option.bind_some, dispatched] at failed
      simp only [answer, onEvent, decoded, matched, Bool.not_true, Bool.false_eq_true, if_false,
        processBuildRequest_of_admitted admitted]
      rcases dispatching : ready.dispatch (BuildRequest.ofSummary summary) with ⟨result, after⟩
      rw [dispatching] at failed
      cases result with
      | ok _ => simp at failed
      | error cause => rfl
    · cases tried
  · cases tried

/-- A worker report is acknowledged whatever its sends do. -/
theorem onResult_ack (loop : ControlLoop) (message : Message) : (loop.onResult message).1 = .ack := by
  unfold onResult
  split
  · rfl
  · split <;> rfl

/-! ## What a call does to a waiting request -/

theorem Effect.peek_of_unreported {loop : ControlLoop} {registry : BuildRegistry} {backlog : Backlog}
    {sent : Option BuildRequest} {request : BuildRequest} (effect : Effect loop registry backlog sent none)
    (waiting : loop.backlog.peek request.target = some request) :
    backlog.peek request.target = some request ∨ backlog.Superseded request := by
  cases effect
  case offer offered queued untracked unfinished busy =>
    by_cases here : offered.target = request.target
    · rw [← here] at waiting
      rcases Backlog.peek_offer_not_older loop.backlog offered.target offered waiting with kept | ⟨replaced, notOlder⟩
      · exact .inl (here ▸ kept)
      · by_cases same : offered = request
        · exact .inl (same ▸ here ▸ replaced)
        · exact .inr ⟨offered, here ▸ replaced, same, notOlder⟩
    · exact .inl (by rw [Backlog.peek_offer_of_ne _ _ here]; exact waiting)
  all_goals exact .inl waiting

theorem peek_apply_result {loop : ControlLoop} {request : BuildRequest}
    (coherent : Coherent loop.registry loop.backlog) (waiting : loop.backlog.peek request.target = some request)
    (message : Message) :
    (loop.apply (.result message)).backlog.peek request.target = some request ∨
      loop.attempted (.result message) = some request := by
  rcases Option.eq_none_or_eq_some (decodeMessage? message : Option BuildResponse) with decoded | ⟨response, decoded⟩
  · exact .inl (by simpa [apply, onResult, decoded] using waiting)
  · cases reported : response.state
    case built =>
      rcases completing : loop.registry.complete loop.backlog response.request.target response.request .building with
        ⟨completion, retired, remaining⟩
      -- the promoted dispatch and the forwarded report leave the backlog as completion made it
      have drained : (loop.apply (.result message)).backlog = remaining := by
        simp only [apply, onResult, decoded, reported, completing]
        split <;> split <;> simp
      have tried : loop.attempted (.result message) = completion.next := by
        simp [attempted, ControlLoop.completed, decoded, reported, completing]
      rw [drained, tried]
      obtain ⟨-, ⟨-, promoted, erased, -⟩ | ⟨-, -, kept, -⟩⟩ :=
        BuildRegistry.complete_cases (coherent.retires _ response.request) completing
      · by_cases here : response.request.target = request.target
        · exact .inr (by rw [promoted, here, waiting])
        · exact .inl (by rw [erased, Backlog.peek_erase, if_neg here, waiting])
      · exact .inl (kept ▸ waiting)
    all_goals exact .inl (by simpa [apply, onResult, decoded, reported] using waiting)

/-- What one call does to a waiting request: it stays, a request at least as new takes its place,
or a `built` report drains it to dispatch it. -/
theorem peek_apply {loop : ControlLoop} {request : BuildRequest} (coherent : Coherent loop.registry loop.backlog)
    (waiting : loop.backlog.peek request.target = some request) (call : Call) :
    (loop.apply call).backlog.peek request.target = some request ∨ (loop.apply call).backlog.Superseded request ∨
      ∃ message, call = .result message ∧ loop.attempted call = some request := by
  cases call with
  | event message =>
    have effect := event_effect loop message
    exact (Effect.peek_of_unreported effect waiting).imp_right .inl
  | result message =>
    exact (peek_apply_result coherent waiting message).imp_right fun tried => .inr ⟨message, rfl, tried⟩
  | process processed =>
    have effect := processBuildRequest_effect loop processed
    exact (Effect.peek_of_unreported effect waiting).imp_right .inl
  | broker hub => exact .inl waiting

/-! ## Custody over a run -/

/-- An accepted event leaves its request sent, waiting, or already superseded by a newer one. -/
theorem keeps_accepted {loop : ControlLoop} {message : Message} {request : BuildRequest}
    (queued : loop.settings.admitAll = false) (accepted : loop.AcceptsEvent message request) :
    loop.Keeps [.event message] request := by
  obtain ⟨decodes, matched, untracked, unfinished, acked⟩ := accepted
  obtain ⟨summary, decoded, rfl⟩ := Option.map_eq_some_iff.1 decodes
  rcases BuildRegistry.admitRequest_cases loop.registry loop.backlog (BuildRequest.ofSummary summary).target
      (BuildRequest.ofSummary summary) with
    ⟨state, tracked, -⟩ | ⟨-, finished, -⟩ | ⟨-, -, busy, admitting⟩ | ⟨-, -, idle, admitting⟩
  · rw [untracked] at tracked
    cases tracked
  · rw [unfinished] at finished
    cases finished
  · -- a busy target takes the request into its backlog entry, unless a newer one holds it
    have offered : (loop.apply (.event message)).backlog =
        (loop.backlog.offer (BuildRequest.ofSummary summary).target (BuildRequest.ofSummary summary)).2 := by
      simp [apply, onEvent_of_matched decoded matched, processBuildRequest, queued, admitting]
    rcases Backlog.peek_offer_self loop.backlog (BuildRequest.ofSummary summary).target
        (BuildRequest.ofSummary summary) with waiting | ⟨held, -, newer, kept⟩
    · exact .inr (.inl (by simpa [offered] using waiting))
    · refine .inr (.inr ⟨[], .event message, [], rfl, .inl rfl, held, by simpa [offered] using kept, ?_,
        Instant.isAfter_asymm newer⟩)
      rintro rfl
      rw [Instant.isAfter_irrefl] at newer
      cases newer
  · -- an idle target dispatches it, and the acknowledgement says the send went through
    have admitted : loop.admitted? (BuildRequest.ofSummary summary) = some { loop with
        registry := loop.registry.setBuilds (BuildRequest.ofSummary summary).target
          ((loop.registry.buildsOf (BuildRequest.ofSummary summary).target).track
            (BuildRequest.ofSummary summary) .requesting) } := by
      simp [admitted?, queued, admitting]
    simp only [onEvent, decoded, matched, Bool.not_true, Bool.false_eq_true, if_false,
      processBuildRequest_of_admitted admitted] at acked
    refine .inl ⟨[], .event message, [], rfl, ?_⟩
    simp only [run_nil, sentBy, decoded, matched, if_true, admitted, Option.bind_some, dispatched]
    rcases dispatching : ControlLoop.dispatch _ (BuildRequest.ofSummary summary) with ⟨result, after⟩
    rw [dispatching] at acked
    cases result with
    | ok _ => rfl
    | error cause => simp at acked

theorem Drains.append {loop : ControlLoop} {calls : List Call} {request : BuildRequest}
    (drains : loop.Drains calls request) (more : List Call) : loop.Drains (calls ++ more) request := by
  obtain ⟨before, message, after, split, tried, failed⟩ := drains
  exact ⟨before, message, after ++ more, by simp [split], tried, failed⟩

/-- One more call keeps a kept request, or drains it. -/
theorem Keeps.apply {loop : ControlLoop} {calls : List Call} {request : BuildRequest}
    (coherent : Coherent (loop.run calls).registry (loop.run calls).backlog) (keeps : loop.Keeps calls request)
    (call : Call) : loop.Keeps (calls ++ [call]) request ∨ loop.Drains (calls ++ [call]) request := by
  rcases keeps with ⟨before, sender, after, split, sent⟩ | waiting | ⟨before, replacing, after, split, held, superseded⟩
  · exact .inl (.inl ⟨before, sender, after ++ [call], by simp [split], sent⟩)
  · -- only a request still waiting can move
    rcases peek_apply coherent waiting call with stays | superseded | ⟨message, rfl, tried⟩
    · exact .inl (.inr (.inl (by simpa using stays)))
    · exact .inl (.inr (.inr ⟨calls, call, [], rfl, .inr waiting, by simpa using superseded⟩))
    · rcases sentBy_of_attempted tried with sent | failed
      · exact .inl (.inl ⟨calls, .result message, [], rfl, sent⟩)
      · exact .inr ⟨calls, message, [], rfl, tried, failed⟩
  · exact .inl (.inr (.inr ⟨before, replacing, after ++ [call], by simp [split], held, superseded⟩))

end ControlLoop

/-- With `admitAll` off, a request whose event the loop acknowledged after admission is, after any
later calls, sent to the work queue, waiting as its target's backlog entry, or superseded there by a
request at least as new, unless a `built` report drained it and could not send it; and an event
whose attempted dispatch fails is left for redelivery. -/
theorem acknowledged_request_kept_unless_drained (settings : Settings) (hub : Hub)
    (queued : settings.admitAll = false) (before : List Call) (message : Message) (request : BuildRequest)
    (accepted : ((ControlLoop.start settings hub).run before).AcceptsEvent message request) (later : List Call) :
    (((ControlLoop.start settings hub).run before).Keeps (.event message :: later) request ∨
      ((ControlLoop.start settings hub).run before).Drains (.event message :: later) request) ∧
    ∀ (loop : ControlLoop) (event : Message) (tried : BuildRequest), loop.attempted (.event event) = some tried →
      loop.sentBy (.event event) = none → loop.answer (.event event) = some .leave := by
  refine ⟨?_, fun loop event tried => ControlLoop.answer_of_failed_event⟩
  induction later using List.reverseRecOn with
  | nil => exact .inl (ControlLoop.keeps_accepted (by simpa [ControlLoop.start] using queued) accepted)
  | append_singleton later call held =>
    have coherent := coherent_run settings hub (before ++ .event message :: later)
    rw [ControlLoop.run_append] at coherent
    rw [← List.cons_append]
    rcases held with keeps | drains
    · exact keeps.apply coherent call
    · exact .inr (drains.append [call])

/-! ## A request lost to a failed promotion

A request `first` is sent while the work queue takes sends. A push for `second`, on the same
target, arrives while `first` builds and waits in the backlog; the event is acknowledged. Then the
work queue refuses sends, and the `built` report for `first` promotes `second`: its dispatch fails,
the report is acknowledged, and `second` is left `requesting` with no message to bring it back. -/

namespace LostPromotion

def settings : Settings := ⟨"events", "results", "work", "outputs", [], false, 1⟩

def hub : Hub := Hub.empty.declare "work"

def first : BuildRequest :=
  ⟨"e1", ⟨0, 0, 0, by decide, by decide, by decide, by decide, by decide⟩, "repo", "main", "r1", "alice"⟩

def second : BuildRequest :=
  ⟨"e2", ⟨0, 1, 0, by decide, by decide, by decide, by decide, by decide⟩, "repo", "main", "r2", "alice"⟩

/-- The push that asks for `second`. -/
def event : Message :=
  .text "\x7b\"id\":\"e2\",\"timestamp\":\"1970-01-01T00:00:01Z\",\"ref\":\"main\",\"before\":\"\",\"after\":\"r2\",\"repository\":\"repo\",\"pusher\":\"alice\",\"sender\":\"bob\"\x7d"

/-- The worker's report that `first` is built. -/
def report : Message :=
  .text "\x7b\"id\":\"x\",\"timestamp\":\"1970-01-01T00:00:02Z\",\"state\":\"BUILT\",\"request\":\x7b\"id\":\"e1\",\"timestamp\":\"1970-01-01T00:00:00Z\",\"source\":\"repo\",\"target\":\"main\",\"revision\":\"r1\",\"requester\":\"alice\"\x7d\x7d"

/-- The loop once `first` is sent. -/
def loop : ControlLoop := (ControlLoop.start settings hub).run [.process first]

/-- The calls from the push on: the push, the work queue refusing sends, the report. -/
def calls : List Call := [.event event, .broker (hub.failSends "work"), .result report]

end LostPromotion

open LostPromotion in
theorem promoted_request_lost :
    settings.admitAll = false ∧ loop.AcceptsEvent event second ∧ ¬ loop.Keeps calls second ∧
      (loop.run (calls.take 2)).attempted (.result report) = some second ∧
      (loop.run (calls.take 2)).sentBy (.result report) = none ∧
      (loop.run (calls.take 2)).answer (.result report) = some .ack := by
  decide +kernel

open LostPromotion in
theorem late_push_kept_unless_drained :
    settings.admitAll = false ∧ loop.AcceptsEvent event second ∧
      ((loop.Keeps (.event event :: calls.tail) second ∨ loop.Drains (.event event :: calls.tail) second) ∧
      ∀ (any : ControlLoop) (push : Message) (tried : BuildRequest), any.attempted (.event push) = some tried →
        any.sentBy (.event push) = none → any.answer (.event push) = some .leave) := by
  have accepted : loop.AcceptsEvent event second := by decide +kernel
  exact ⟨rfl, accepted, acknowledged_request_kept_unless_drained settings hub rfl [.process first] event second
    accepted calls.tail⟩

end BenchDispatch
