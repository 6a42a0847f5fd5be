import BenchDispatch.Proofs.Waiting
import BenchDispatch.Proofs.History
import BenchDispatch.Proofs.Hub

/-! Deliveries for different targets do not interfere. Everything a handler reads or writes for a
message is its target's: the builds the registry keeps for it, the request its backlog holds for
it, and the hub's shape, which decides whether a send goes through; its writes stay within that
target, and its sends only add messages at the back of queues. So a handler run on two loops that
agree on one target answers alike, leaves them agreeing there, changes nothing elsewhere, and sends
the same messages (`ControlLoop.deliver_parallel`); two deliveries for different targets then
commute, up to the order in which their messages land in each queue. -/

set_option autoImplicit false

namespace BenchDispatch

open Broker

/-- A message as a handler receives it, from the event queue or from the result queue. -/
inductive Delivery where
  | event (message : Message)
  | result (message : Message)

namespace Delivery

/-- The target of the request a delivery carries, when it decodes. -/
def target? : Delivery → Option BuildTarget
  | .event message => (decodeMessage? message : Option PushSummary).map fun summary =>
      (BuildRequest.ofSummary summary).target
  | .result message => (decodeMessage? message : Option BuildResponse).map (·.request.target)

/-- A delivery concerns a target when the request it carries, if it decodes, is for that target; one
that does not decode concerns every target. -/
def Concerns (delivery : Delivery) (target : BuildTarget) : Prop :=
  ∀ reported, delivery.target? = some reported → reported = target

/-- The call that hands a delivery to its handler. -/
def call : Delivery → Call
  | .event message => .event message
  | .result message => .result message

end Delivery

/-- Handles a delivery with the handler of its queue. -/
def ControlLoop.deliver (loop : ControlLoop) : Delivery → Disposition × ControlLoop
  | .event message => loop.onEvent message
  | .result message => loop.onResult message

theorem ControlLoop.deliver_snd (loop : ControlLoop) (delivery : Delivery) :
    (loop.deliver delivery).2 = loop.apply delivery.call := by
  cases delivery <;> rfl

/-- A message that carries a request for a target: a request sent as a job, or a report on one. -/
def Broker.Message.Carries (target : BuildTarget) (message : Message) : Prop :=
  (∃ request : BuildRequest, request.target = target ∧ message = .text (encode request)) ∨
    ∃ response : BuildResponse, (decodeMessage? message : Option BuildResponse) = some response ∧
      response.request.target = target

/-! ## Writes at one target -/

theorem Backlog.offer_agree {backlog other : Backlog} {target : BuildTarget}
    (waiting : backlog.peek target = other.peek target) (request : BuildRequest) :
    (backlog.offer target request).2.peek target = (other.offer target request).2.peek target := by
  unfold Backlog.offer
  rw [waiting]
  split
  · split <;> simp [Backlog.peek_put, waiting]
  · simp [Backlog.peek_put]

namespace BuildRegistry

variable {registry other : BuildRegistry} {target : BuildTarget}

/-- A registry written at most at one target, as every operation of the registry writes it. -/
def WrittenAt (target : BuildTarget) (registry after : BuildRegistry) : Prop :=
  after = registry ∨ ∃ builds, after = registry.setBuilds target builds

theorem WrittenAt.buildsOf {after : BuildRegistry} (written : WrittenAt target registry after) {elsewhere : BuildTarget}
    (apart : elsewhere ≠ target) : after.buildsOf elsewhere = registry.buildsOf elsewhere := by
  rcases written with rfl | ⟨builds, rfl⟩
  · rfl
  · simp [buildsOf_setBuilds, Ne.symm apart]

theorem insert_writtenAt (registry : BuildRegistry) (target : BuildTarget) (request : BuildRequest) (state : BuildState) :
    WrittenAt target registry (registry.insert target request state).2 := by
  unfold insert
  dsimp only
  split
  · exact .inr ⟨_, rfl⟩
  · exact .inl rfl

theorem update_writtenAt (registry : BuildRegistry) (target : BuildTarget) (request : BuildRequest)
    (source destination : BuildState) : WrittenAt target registry (registry.update target request source destination).2 := by
  rcases update_cases registry target request source destination with same | moved
  · exact .inl same
  · exact .inr ⟨_, moved⟩

theorem admitRequest_writtenAt (registry : BuildRegistry) (backlog : Backlog) (target : BuildTarget)
    (request : BuildRequest) : WrittenAt target registry (registry.admitRequest backlog target request).2.1 := by
  unfold admitRequest
  dsimp only
  split
  · exact .inl rfl
  · split
    · exact .inl rfl
    · split
      · exact .inl rfl
      · exact .inr ⟨_, rfl⟩

theorem complete_writtenAt (registry : BuildRegistry) (backlog : Backlog) (target : BuildTarget)
    (request : BuildRequest) (expected : BuildState) :
    WrittenAt target registry (registry.complete backlog target request expected).2.1 := by
  obtain ⟨builds, -, written⟩ := complete_setBuilds registry backlog target request expected
  exact .inr ⟨builds, written⟩

/-- Admission writes the backlog only at the request's target. -/
theorem admitRequest_peek_of_ne (registry : BuildRegistry) (backlog : Backlog) (target : BuildTarget)
    (request : BuildRequest) (elsewhere : BuildTarget) (apart : elsewhere ≠ target) :
    (registry.admitRequest backlog target request).2.2.peek elsewhere = backlog.peek elsewhere := by
  unfold admitRequest
  dsimp only
  split
  · rfl
  · split
    · rfl
    · split
      · exact Backlog.peek_offer_of_ne backlog request (Ne.symm apart)
      · rfl

/-- Completion drains the backlog only at its target. -/
theorem complete_peek_of_ne (registry : BuildRegistry) (backlog : Backlog) (target : BuildTarget)
    (request : BuildRequest) (expected : BuildState) (elsewhere : BuildTarget) (apart : elsewhere ≠ target) :
    (registry.complete backlog target request expected).2.2.peek elsewhere = backlog.peek elsewhere := by
  rcases complete_backlog registry backlog target request expected with erased | kept
  · rw [erased, Backlog.peek_erase, if_neg (Ne.symm apart)]
  · rw [kept]

/-- The request completion promotes is the one its target's backlog held. -/
theorem complete_next (registry : BuildRegistry) (backlog : Backlog) (target : BuildTarget) (request : BuildRequest)
    (expected : BuildState) (next : BuildRequest)
    (promoted : (registry.complete backlog target request expected).1.next = some next) :
    backlog.peek target = some next := by
  unfold complete at promoted
  simp only [Backlog.drain] at promoted
  cases waiting : backlog.peek target with
  | none =>
    simp only [waiting] at promoted
    split_ifs at promoted
  | some held =>
    simp only [waiting] at promoted
    split_ifs at promoted
    simp_all

theorem insert_agree (same : registry.buildsOf target = other.buildsOf target) (request : BuildRequest)
    (state : BuildState) :
    (registry.insert target request state).1 = (other.insert target request state).1 ∧
      (registry.insert target request state).2.buildsOf target = (other.insert target request state).2.buildsOf target := by
  unfold insert
  dsimp only
  rw [same]
  split <;> simp [buildsOf_setBuilds, same]

theorem update_agree (same : registry.buildsOf target = other.buildsOf target) (request : BuildRequest)
    (source destination : BuildState) :
    (registry.update target request source destination).1 = (other.update target request source destination).1 ∧
      (registry.update target request source destination).2.buildsOf target =
        (other.update target request source destination).2.buildsOf target := by
  unfold update
  dsimp only
  rw [same]
  split
  · split <;> simp [buildsOf_setBuilds, same]
  · split <;> simp [buildsOf_setBuilds, same]

theorem admitRequest_agree (same : registry.buildsOf target = other.buildsOf target) {backlog otherBacklog : Backlog}
    (waiting : backlog.peek target = otherBacklog.peek target) (request : BuildRequest) :
    let admitted := registry.admitRequest backlog target request
    let otherAdmitted := other.admitRequest otherBacklog target request
    admitted.1 = otherAdmitted.1 ∧ admitted.2.1.buildsOf target = otherAdmitted.2.1.buildsOf target ∧
      admitted.2.2.peek target = otherAdmitted.2.2.peek target := by
  unfold admitRequest
  dsimp only
  rw [same]
  split
  · simp [same, waiting]
  · split
    · simp [same, waiting]
    · split
      · exact ⟨rfl, same, Backlog.offer_agree waiting request⟩
      · simp [buildsOf_setBuilds, waiting]

theorem complete_agree (same : registry.buildsOf target = other.buildsOf target) {backlog otherBacklog : Backlog}
    (waiting : backlog.peek target = otherBacklog.peek target) (request : BuildRequest) (expected : BuildState) :
    let completed := registry.complete backlog target request expected
    let otherCompleted := other.complete otherBacklog target request expected
    completed.1 = otherCompleted.1 ∧ completed.2.1.buildsOf target = otherCompleted.2.1.buildsOf target ∧
      completed.2.2.peek target = otherCompleted.2.2.peek target := by
  unfold complete
  dsimp only
  rw [same]
  simp only [Backlog.drain, waiting]
  cases otherBacklog.peek target <;> split <;> split_ifs <;> simp [buildsOf_setBuilds, Backlog.peek_erase, waiting]

end BuildRegistry

/-! ## Loops seen from one target -/

/-- Two loops that look alike from one target: the same settings, hubs on which sends go through
alike, and the same builds and waiting request for that target. -/
structure AgreeOn (target : BuildTarget) (loop other : ControlLoop) : Prop where
  settings : loop.settings = other.settings
  shape : Hub.SameShape loop.hub other.hub
  builds : loop.registry.buildsOf target = other.registry.buildsOf target
  waiting : loop.backlog.peek target = other.backlog.peek target

/-- A loop changed at most at one target: the same settings, and the same builds and waiting
request for every other target. -/
structure OnlyAt (target : BuildTarget) (loop after : ControlLoop) : Prop where
  settings : after.settings = loop.settings
  builds : ∀ elsewhere, elsewhere ≠ target → after.registry.buildsOf elsewhere = loop.registry.buildsOf elsewhere
  waiting : ∀ elsewhere, elsewhere ≠ target → after.backlog.peek elsewhere = loop.backlog.peek elsewhere

/-- Steps from two loops that agree on a target, which that target cannot tell apart: the loops
after them agree on it, neither step changed anything elsewhere, and both put the same messages,
each carrying a request for the target, at the back of their hubs' queues. -/
structure Parallel (target : BuildTarget) (loop other after otherAfter : ControlLoop) : Prop where
  agree : AgreeOn target after otherAfter
  onlyAt : OnlyAt target loop after
  otherOnlyAt : OnlyAt target other otherAfter
  sends : ∃ sends : List (String × Message), after.hub = loop.hub.enqueueAll sends ∧
    otherAfter.hub = other.hub.enqueueAll sends ∧ ∀ send ∈ sends, send.2.Carries target

namespace AgreeOn

variable {target : BuildTarget} {loop other : ControlLoop}

theorem refl (target : BuildTarget) (loop : ControlLoop) : AgreeOn target loop loop :=
  ⟨rfl, .refl loop.hub, rfl, rfl⟩

theorem symm (agree : AgreeOn target loop other) : AgreeOn target other loop :=
  ⟨agree.settings.symm, agree.shape.symm, agree.builds.symm, agree.waiting.symm⟩

end AgreeOn

namespace OnlyAt

variable {target : BuildTarget} {loop middle after : ControlLoop}

theorem rfl' (loop : ControlLoop) (target : BuildTarget) : OnlyAt target loop loop :=
  ⟨rfl, fun _ _ => rfl, fun _ _ => rfl⟩

theorem trans (first : OnlyAt target loop middle) (second : OnlyAt target middle after) : OnlyAt target loop after :=
  ⟨second.settings.trans first.settings, fun elsewhere apart => (second.builds elsewhere apart).trans (first.builds elsewhere apart),
    fun elsewhere apart => (second.waiting elsewhere apart).trans (first.waiting elsewhere apart)⟩

/-- Sends leave what a loop holds for each target as it was. -/
theorem withHub (only : OnlyAt target loop after) (hub : Hub) : OnlyAt target loop { after with hub } :=
  ⟨only.settings, only.builds, only.waiting⟩

/-- A loop changed only at `target` agrees with the old one on any other target, once its hub has
the old one's shape. -/
theorem agreeOn (only : OnlyAt target loop after) (shape : Hub.SameShape loop.hub after.hub) {elsewhere : BuildTarget}
    (apart : elsewhere ≠ target) : AgreeOn elsewhere loop after :=
  ⟨only.settings.symm, shape, (only.builds elsewhere apart).symm, (only.waiting elsewhere apart).symm⟩

end OnlyAt

namespace Parallel

variable {target : BuildTarget} {loop other middle otherMiddle after otherAfter : ControlLoop}

theorem rfl' (agree : AgreeOn target loop other) : Parallel target loop other loop other :=
  ⟨agree, .rfl' loop target, .rfl' other target, ⟨[], rfl, rfl, by simp⟩⟩

theorem trans (first : Parallel target loop other middle otherMiddle)
    (second : Parallel target middle otherMiddle after otherAfter) : Parallel target loop other after otherAfter := by
  obtain ⟨sends, sent, otherSent, carried⟩ := first.sends
  obtain ⟨more, moreSent, otherMoreSent, moreCarried⟩ := second.sends
  refine ⟨second.agree, first.onlyAt.trans second.onlyAt, first.otherOnlyAt.trans second.otherOnlyAt,
    ⟨sends ++ more, ?_, ?_, ?_⟩⟩
  · rw [moreSent, sent, Hub.enqueueAll_append]
  · rw [otherMoreSent, otherSent, Hub.enqueueAll_append]
  · intro send member
    rcases List.mem_append.1 member with early | late
    · exact carried send early
    · exact moreCarried send late

/-- A step that only writes the registry and the backlog at the target, alike on both loops. -/
theorem of_state (agree : AgreeOn target loop other) {registry otherRegistry : BuildRegistry}
    {backlog otherBacklog : Backlog} (builds : registry.buildsOf target = otherRegistry.buildsOf target)
    (waiting : backlog.peek target = otherBacklog.peek target)
    (written : BuildRegistry.WrittenAt target loop.registry registry)
    (otherWritten : BuildRegistry.WrittenAt target other.registry otherRegistry)
    (drained : ∀ elsewhere, elsewhere ≠ target → backlog.peek elsewhere = loop.backlog.peek elsewhere)
    (otherDrained : ∀ elsewhere, elsewhere ≠ target → otherBacklog.peek elsewhere = other.backlog.peek elsewhere) :
    Parallel target loop other { loop with registry, backlog } { other with registry := otherRegistry, backlog := otherBacklog } :=
  ⟨⟨agree.settings, agree.shape, builds, waiting⟩, ⟨rfl, fun _ apart => written.buildsOf apart, drained⟩,
    ⟨rfl, fun _ apart => otherWritten.buildsOf apart, otherDrained⟩, ⟨[], rfl, rfl, by simp⟩⟩

/-- Sending one more message carrying a request for the target keeps two steps parallel: it goes
through on both hubs or on neither. -/
theorem send (parallel : Parallel target loop other after otherAfter) (name : String) {message : Message}
    (carries : message.Carries target) :
    Parallel target loop other
      (match after.hub.send name message with
        | .ok hub => { after with hub }
        | .error _ => after)
      (match otherAfter.hub.send name message with
        | .ok hub => { otherAfter with hub }
        | .error _ => otherAfter) := by
  rcases parallel.agree.shape.send name message with ⟨sent, otherSent⟩ | ⟨cause, failed, otherFailed⟩
  · simp only [sent, otherSent]
    obtain ⟨sends, early, otherEarly, carried⟩ := parallel.sends
    refine ⟨⟨parallel.agree.settings, parallel.agree.shape.enqueue name message, parallel.agree.builds,
      parallel.agree.waiting⟩, parallel.onlyAt.withHub _, parallel.otherOnlyAt.withHub _,
      ⟨sends ++ [(name, message)], ?_, ?_, ?_⟩⟩
    · simp [early, Hub.enqueueAll_append, Hub.enqueueAll_cons]
    · simp [otherEarly, Hub.enqueueAll_append, Hub.enqueueAll_cons]
    · intro send member
      rcases List.mem_append.1 member with before | last
      · exact carried send before
      · rw [List.mem_singleton.1 last]
        exact carries
  · simp only [failed, otherFailed]
    exact parallel

theorem shape (parallel : Parallel target loop other after otherAfter) : Hub.SameShape loop.hub after.hub := by
  obtain ⟨sends, sent, -, -⟩ := parallel.sends
  rw [sent]
  exact Hub.sameShape_enqueueAll loop.hub sends

/-- A step at one target leaves the loop as it was for every other target. -/
theorem agreeOn_elsewhere (parallel : Parallel target loop other after otherAfter) {elsewhere : BuildTarget}
    (apart : elsewhere ≠ target) : AgreeOn elsewhere loop after :=
  parallel.onlyAt.agreeOn parallel.shape apart

/-- Forwarding a message that carries a request for the target, each loop to its output queue. -/
theorem forward (parallel : Parallel target loop other after otherAfter) {message : Message}
    (carries : message.Carries target) :
    Parallel target loop other
      (match after.hub.send after.settings.outputQueue message with
        | .ok hub => { after with hub }
        | .error _ => after)
      (match otherAfter.hub.send otherAfter.settings.outputQueue message with
        | .ok hub => { otherAfter with hub }
        | .error _ => otherAfter) := by
  have queue : otherAfter.settings.outputQueue = after.settings.outputQueue := by rw [parallel.agree.settings]
  rw [queue]
  exact parallel.send after.settings.outputQueue carries

end Parallel

/-! ## Handlers, step by step -/

namespace ControlLoop

variable {target : BuildTarget} {loop other : ControlLoop}

theorem dispatch_parallel (agree : AgreeOn target loop other) (request : BuildRequest) (here : request.target = target) :
    (loop.dispatch request).1 = (other.dispatch request).1 ∧
      Parallel target loop other (loop.dispatch request).2 (other.dispatch request).2 := by
  subst here
  obtain ⟨otherSettings, otherRegistry, otherBacklog, otherHub⟩ := other
  obtain rfl : otherSettings = loop.settings := agree.settings.symm
  rcases agree.shape.send loop.settings.workQueue (.text (encode request)) with
    ⟨sent, otherSent⟩ | ⟨cause, failed, otherFailed⟩
  · rw [dispatch_of_sent sent, dispatch_of_sent otherSent]
    obtain ⟨-, builds⟩ := BuildRegistry.update_agree agree.builds request .requesting .requested
    refine ⟨rfl, ⟨⟨rfl, agree.shape.enqueue _ _, builds, agree.waiting⟩, ?_, ?_, ?_⟩⟩
    · exact ⟨rfl, fun _ apart => (BuildRegistry.update_writtenAt ..).buildsOf apart, fun _ _ => rfl⟩
    · exact ⟨rfl, fun _ apart => (BuildRegistry.update_writtenAt ..).buildsOf apart, fun _ _ => rfl⟩
    · refine ⟨[(loop.settings.workQueue, .text (encode request))], rfl, rfl, ?_⟩
      simp only [List.mem_singleton, forall_eq]
      exact .inl ⟨request, rfl, rfl⟩
  · rw [dispatch_of_failed failed, dispatch_of_failed otherFailed]
    exact ⟨rfl, .rfl' agree⟩

theorem processBuildRequest_parallel (agree : AgreeOn target loop other) (request : BuildRequest)
    (here : request.target = target) :
    (loop.processBuildRequest request).1 = (other.processBuildRequest request).1 ∧
      Parallel target loop other (loop.processBuildRequest request).2 (other.processBuildRequest request).2 := by
  subst here
  obtain ⟨otherSettings, otherRegistry, otherBacklog, otherHub⟩ := other
  obtain rfl : otherSettings = loop.settings := agree.settings.symm
  unfold processBuildRequest
  dsimp only
  split
  · -- under `admitAll` the request is inserted, then dispatched
    obtain ⟨tracked, builds⟩ := BuildRegistry.insert_agree agree.builds request .requesting
    have written := BuildRegistry.insert_writtenAt loop.registry request.target request .requesting
    have otherWritten := BuildRegistry.insert_writtenAt otherRegistry request.target request .requesting
    rcases inserted : loop.registry.insert request.target request .requesting with ⟨ok, registry⟩
    rcases otherInserted : otherRegistry.insert request.target request .requesting with ⟨otherOk, registry'⟩
    rw [inserted, otherInserted] at tracked builds
    rw [inserted] at written
    rw [otherInserted] at otherWritten
    obtain rfl : ok = otherOk := tracked
    have first := Parallel.of_state agree builds agree.waiting written otherWritten (fun _ _ => rfl) (fun _ _ => rfl)
    cases ok
    · exact ⟨rfl, .rfl' agree⟩
    · obtain ⟨result, sent⟩ := dispatch_parallel first.agree request rfl
      exact ⟨result, first.trans sent⟩
  · -- otherwise the request is admitted, and dispatched when admission allows it
    obtain ⟨admitted, builds, waiting⟩ := BuildRegistry.admitRequest_agree agree.builds agree.waiting request
    have written := BuildRegistry.admitRequest_writtenAt loop.registry loop.backlog request.target request
    have otherWritten := BuildRegistry.admitRequest_writtenAt otherRegistry otherBacklog request.target request
    have drained := BuildRegistry.admitRequest_peek_of_ne loop.registry loop.backlog request.target request
    have otherDrained := BuildRegistry.admitRequest_peek_of_ne otherRegistry otherBacklog request.target request
    rcases admission : loop.registry.admitRequest loop.backlog request.target request with
      ⟨decision, registry, backlog⟩
    rcases otherAdmission : otherRegistry.admitRequest otherBacklog request.target request with
      ⟨otherDecision, registry', backlog'⟩
    rw [admission, otherAdmission] at admitted builds waiting
    rw [admission] at written drained
    rw [otherAdmission] at otherWritten otherDrained
    obtain rfl : decision = otherDecision := admitted
    have first := Parallel.of_state agree builds waiting written otherWritten drained otherDrained
    have dispatched := dispatch_parallel first.agree request rfl
    cases decision with
    | admitted => exact ⟨dispatched.1, first.trans dispatched.2⟩
    | backlogged => exact ⟨rfl, first⟩
    | duplicate state =>
      cases state
      case requesting => exact ⟨dispatched.1, first.trans dispatched.2⟩
      all_goals exact ⟨rfl, first⟩

theorem onEvent_parallel (agree : AgreeOn target loop other) (message : Message)
    (concerns : (Delivery.event message).Concerns target) :
    (loop.onEvent message).1 = (other.onEvent message).1 ∧
      Parallel target loop other (loop.onEvent message).2 (other.onEvent message).2 := by
  obtain ⟨otherSettings, otherRegistry, otherBacklog, otherHub⟩ := other
  obtain rfl : otherSettings = loop.settings := agree.settings.symm
  unfold onEvent
  cases decoded : (decodeMessage? message : Option PushSummary) with
  | none => exact ⟨rfl, .rfl' agree⟩
  | some summary =>
    have here : (BuildRequest.ofSummary summary).target = target :=
      concerns _ (by simp [Delivery.target?, decoded])
    dsimp only
    split
    · exact ⟨rfl, .rfl' agree⟩
    · obtain ⟨result, parallel⟩ := processBuildRequest_parallel agree _ here
      rcases processed : loop.processBuildRequest (BuildRequest.ofSummary summary) with ⟨outcome, after⟩
      rcases otherProcessed : ControlLoop.processBuildRequest ⟨loop.settings, otherRegistry, otherBacklog, otherHub⟩
        (BuildRequest.ofSummary summary) with ⟨otherOutcome, otherAfter⟩
      rw [processed, otherProcessed] at result parallel
      obtain rfl : outcome = otherOutcome := result
      -- the answer follows the outcome alone: acknowledged when dispatched or held, left otherwise
      cases outcome <;> exact ⟨rfl, parallel⟩

theorem onResult_parallel (agree : AgreeOn target loop other)
    (waitingTarget : ∀ next, loop.backlog.peek target = some next → next.target = target) (message : Message)
    (concerns : (Delivery.result message).Concerns target) :
    (loop.onResult message).1 = (other.onResult message).1 ∧
      Parallel target loop other (loop.onResult message).2 (other.onResult message).2 := by
  obtain ⟨otherSettings, otherRegistry, otherBacklog, otherHub⟩ := other
  obtain rfl : otherSettings = loop.settings := agree.settings.symm
  unfold onResult
  cases decoded : (decodeMessage? message : Option BuildResponse) with
  | none => exact ⟨rfl, .rfl' agree⟩
  | some response =>
    have here : response.request.target = target := concerns _ (by simp [Delivery.target?, decoded])
    subst here
    have carries : message.Carries response.request.target := .inr ⟨response, decoded, rfl⟩
    dsimp only
    cases reported : response.state
    case building =>
      obtain ⟨-, builds⟩ := BuildRegistry.update_agree agree.builds response.request .requested .building
      exact ⟨rfl, .of_state agree builds agree.waiting (BuildRegistry.update_writtenAt ..)
        (BuildRegistry.update_writtenAt ..) (fun _ _ => rfl) (fun _ _ => rfl)⟩
    case built =>
      obtain ⟨completion, builds, waiting⟩ :=
        BuildRegistry.complete_agree agree.builds agree.waiting response.request .building
      have written := BuildRegistry.complete_writtenAt loop.registry loop.backlog response.request.target
        response.request .building
      have otherWritten := BuildRegistry.complete_writtenAt otherRegistry otherBacklog response.request.target
        response.request .building
      have drained := BuildRegistry.complete_peek_of_ne loop.registry loop.backlog response.request.target
        response.request .building
      have otherDrained := BuildRegistry.complete_peek_of_ne otherRegistry otherBacklog response.request.target
        response.request .building
      have promotedWaits := BuildRegistry.complete_next loop.registry loop.backlog response.request.target
        response.request .building
      rcases completing : loop.registry.complete loop.backlog response.request.target response.request .building with
        ⟨settled, registry, backlog⟩
      rcases otherCompleting : otherRegistry.complete otherBacklog response.request.target response.request .building with
        ⟨otherSettled, registry', backlog'⟩
      rw [completing, otherCompleting] at completion builds waiting
      rw [completing] at written drained promotedWaits
      rw [otherCompleting] at otherWritten otherDrained
      obtain rfl : settled = otherSettled := completion
      have first := Parallel.of_state agree builds waiting written otherWritten drained otherDrained
      -- the promoted request, if any, waited for this target, so its dispatch stays at the target
      cases promoted : settled.next with
      | none => exact ⟨rfl, first.forward carries⟩
      | some next =>
        have nextHere := waitingTarget next (promotedWaits next promoted)
        obtain ⟨-, sent⟩ := dispatch_parallel first.agree next nextHere
        exact ⟨rfl, (first.trans sent).forward carries⟩
    all_goals exact ⟨rfl, .rfl' agree⟩

/-- A handler run on two loops that agree on its delivery's target, each holding only requests for
their own targets in the backlog, answers alike and takes parallel steps. -/
theorem deliver_parallel (agree : AgreeOn target loop other)
    (waitingTarget : ∀ next, loop.backlog.peek target = some next → next.target = target) (delivery : Delivery)
    (concerns : delivery.Concerns target) :
    (loop.deliver delivery).1 = (other.deliver delivery).1 ∧
      Parallel target loop other (loop.deliver delivery).2 (other.deliver delivery).2 := by
  cases delivery with
  | event message => exact onEvent_parallel agree message concerns
  | result message => exact onResult_parallel agree waitingTarget message concerns

end ControlLoop

/-! ## Deliveries for different targets -/

/-- Under either setting of `admitAll`, in every loop a run reaches, two deliveries that concern
different targets can be handled in either order: each is answered alike, the registry and the
backlog end alike for every target, and every queue ends with the messages it held followed by what
the two handlers sent it, as two blocks in the order the handlers ran, each message of a block
carrying a request for its delivery's target. -/
theorem deliveries_for_different_targets_commute (settings : Settings) (hub : Hub) (calls : List Call)
    (first second : Delivery) (one two : BuildTarget) (apart : one ≠ two)
    (firstConcerns : first.Concerns one) (secondConcerns : second.Concerns two) :
    let loop := (ControlLoop.start settings hub).run calls
    let firstThen := (loop.deliver first).2.deliver second
    let secondThen := (loop.deliver second).2.deliver first
    (loop.deliver first).1 = secondThen.1 ∧ (loop.deliver second).1 = firstThen.1 ∧
      (∀ target, firstThen.2.registry.buildsOf target = secondThen.2.registry.buildsOf target) ∧
      (∀ target, firstThen.2.backlog.peek target = secondThen.2.backlog.peek target) ∧
      ∀ name, ∃ early late : List Message,
        firstThen.2.hub.readyMessages name = loop.hub.readyMessages name ++ early ++ late ∧
        secondThen.2.hub.readyMessages name = loop.hub.readyMessages name ++ late ++ early ∧
        (∀ message ∈ early, message.Carries one) ∧ (∀ message ∈ late, message.Carries two) := by
  intro loop firstThen secondThen
  -- in every loop a run reaches, the backlog holds only requests for their own targets
  have waits : ∀ more : List Call, ∀ target next,
      ((ControlLoop.start settings hub).run more).backlog.peek target = some next → next.target = target :=
    fun more => (coherent_run settings hub more).waiting_target
  have reached : ∀ delivery : Delivery,
      (loop.deliver delivery).2 = (ControlLoop.start settings hub).run (calls ++ [delivery.call]) := by
    intro delivery
    rw [ControlLoop.deliver_snd, ControlLoop.run_append_singleton]
  -- alone, each delivery changes the loop at its own target only
  obtain ⟨-, firstAlone⟩ := loop.deliver_parallel (.refl one loop) (waits calls one) first firstConcerns
  obtain ⟨-, secondAlone⟩ := loop.deliver_parallel (.refl two loop) (waits calls two) second secondConcerns
  -- so each finds its target, after the other, as it was, and is handled alike
  obtain ⟨firstAnswer, firstLate⟩ := ControlLoop.deliver_parallel
    (secondAlone.agreeOn_elsewhere apart).symm (by rw [reached]; exact waits _ one) first firstConcerns
  obtain ⟨secondAnswer, secondLate⟩ := ControlLoop.deliver_parallel
    (firstAlone.agreeOn_elsewhere (Ne.symm apart)).symm (by rw [reached]; exact waits _ two) second secondConcerns
  refine ⟨firstAnswer.symm, secondAnswer.symm, ?_, ?_, ?_⟩
  · intro target
    by_cases atOne : target = one
    · subst atOne
      rw [secondLate.onlyAt.builds target apart, firstLate.agree.builds]
    by_cases atTwo : target = two
    · subst atTwo
      rw [secondLate.agree.builds, firstLate.onlyAt.builds target atOne]
    rw [secondLate.onlyAt.builds target atTwo, firstAlone.onlyAt.builds target atOne,
      firstLate.onlyAt.builds target atOne, secondAlone.onlyAt.builds target atTwo]
  · intro target
    by_cases atOne : target = one
    · subst atOne
      rw [secondLate.onlyAt.waiting target apart, firstLate.agree.waiting]
    by_cases atTwo : target = two
    · subst atTwo
      rw [secondLate.agree.waiting, firstLate.onlyAt.waiting target atOne]
    rw [secondLate.onlyAt.waiting target atTwo, firstAlone.onlyAt.waiting target atOne,
      firstLate.onlyAt.waiting target atOne, secondAlone.onlyAt.waiting target atTwo]
  · intro name
    obtain ⟨firstSends, firstAfterSecond, firstHub, firstCarried⟩ := firstLate.sends
    obtain ⟨secondSends, secondAfterFirst, secondHub, secondCarried⟩ := secondLate.sends
    obtain ⟨early, late, inOrder, swapped, fromFirst, fromSecond⟩ :=
      Hub.readyMessages_enqueueAll_swap loop.hub firstSends secondSends name
    refine ⟨early, late, ?_, ?_, ?_, ?_⟩
    · rw [secondAfterFirst, firstHub, inOrder]
    · rw [firstAfterSecond, secondHub, swapped]
    · intro message member
      obtain ⟨send, sent, rfl⟩ := fromFirst message member
      exact firstCarried send sent
    · intro message member
      obtain ⟨send, sent, rfl⟩ := fromSecond message member
      exact secondCarried send sent

/-! ## A push and a report for different targets -/

namespace TwoTargets

def settings : Settings := ⟨"events", "results", "work", "outputs", [], false, 1⟩

def hub : Hub := (Hub.empty.declare "work").declare "outputs"

/-- A push to `main`, written as the array of its fields. -/
def push : Delivery :=
  .event (.text "[\"e1\",\"1970-01-01T00:00:00Z\",\"main\",\"\",\"r1\",\"repo\",\"alice\",\"bob\"]")

/-- A report that a build of `dev` is built, written as arrays of fields. -/
def report : Delivery :=
  .result (.text "[\"x\",\"1970-01-01T00:00:01Z\",\"BUILT\",[\"b1\",\"1970-01-01T00:00:00Z\",\"repo\",\"dev\",\"r2\",\"alice\"]]")

theorem push_concerns : push.Concerns "main" := by
  have decoded : push.target? = some "main" := by decide +kernel
  intro reported carried
  exact (Option.some.inj (decoded.symm.trans carried)).symm

theorem report_concerns : report.Concerns "dev" := by
  have decoded : report.target? = some "dev" := by decide +kernel
  intro reported carried
  exact (Option.some.inj (decoded.symm.trans carried)).symm

end TwoTargets

open TwoTargets in
/-- A fresh loop handles a push for `main` and a report on `dev` in either order alike. -/
theorem push_and_report_for_different_targets_commute :
    let loop := (ControlLoop.start settings hub).run []
    let firstThen := (loop.deliver push).2.deliver report
    let secondThen := (loop.deliver report).2.deliver push
    "main" ≠ "dev" ∧ push.Concerns "main" ∧ report.Concerns "dev" ∧
      ((loop.deliver push).1 = secondThen.1 ∧ (loop.deliver report).1 = firstThen.1 ∧
        (∀ target, firstThen.2.registry.buildsOf target = secondThen.2.registry.buildsOf target) ∧
        (∀ target, firstThen.2.backlog.peek target = secondThen.2.backlog.peek target) ∧
        ∀ name, ∃ early late : List Message,
          firstThen.2.hub.readyMessages name = loop.hub.readyMessages name ++ early ++ late ∧
          secondThen.2.hub.readyMessages name = loop.hub.readyMessages name ++ late ++ early ∧
          (∀ message ∈ early, message.Carries "main") ∧ (∀ message ∈ late, message.Carries "dev")) :=
  ⟨by decide, push_concerns, report_concerns, deliveries_for_different_targets_commute settings hub [] push report
    "main" "dev" (by decide) push_concerns report_concerns⟩

end BenchDispatch
