import Mathlib
import BenchDispatch.Proofs.Hub
import BenchDispatch.Proofs.RunResources

/-! Handing a run's waiting messages to its handlers. Receiving a message, handling it and
acknowledging it move messages between queues, record deliveries and change the orchestrator's
state, but they open and close nothing: the runner keeps its lifecycle, its handles, its settings,
its client objects and the count of open broker connections (`ServiceRunner.SameRuns`). Each step
keeps them, so the pump of one consumer does, and so does handing out everything waiting on a
run's queues. -/

set_option autoImplicit false

namespace BenchDispatch

open Broker

namespace Broker.Hub

@[simp] theorem openConnections_take (hub : Hub) (name : String) (connection : Nat) :
    (hub.take name connection).2.openConnections = hub.openConnections := by
  unfold take
  split
  · rfl
  · split
    · rfl
    · simp

theorem openConnections_send {hub after : Hub} {name : String} {message : Message}
    (sent : hub.send name message = .ok after) : after.openConnections = hub.openConnections := by
  rw [send_eq] at sent
  split at sent
  · cases sent
  · split at sent
    · cases sent
      unfold enqueue
      split <;> simp
    · cases sent

theorem openConnections_acknowledge {hub after : Hub} {name : String} {tag : UInt64}
    (acknowledged : hub.acknowledge name tag = .ok after) : after.openConnections = hub.openConnections := by
  unfold acknowledge at acknowledged
  split at acknowledged
  · split at acknowledged
    · cases acknowledged
      simp
    · cases acknowledged
  · cases acknowledged

end Broker.Hub

namespace ControlLoop

variable (loop : ControlLoop)

theorem openConnections_dispatch (request : BuildRequest) :
    (loop.dispatch request).2.hub.openConnections = loop.hub.openConnections := by
  unfold dispatch
  split
  · rfl
  · next sent => exact Hub.openConnections_send sent

theorem openConnections_processBuildRequest (request : BuildRequest) :
    (loop.processBuildRequest request).2.hub.openConnections = loop.hub.openConnections := by
  unfold processBuildRequest
  dsimp only
  -- every path either changes nothing on the broker or dispatches once
  split
  · split
    · exact openConnections_dispatch _ request
    · rfl
  · split <;> first | rfl | exact openConnections_dispatch _ request

theorem openConnections_onEvent (message : Message) :
    (loop.onEvent message).2.hub.openConnections = loop.hub.openConnections := by
  unfold onEvent
  split
  · rfl
  · next summary _ =>
    have kept := openConnections_processBuildRequest loop (BuildRequest.ofSummary summary)
    dsimp only
    split
    · rfl
    · split <;> simp_all

theorem openConnections_onResult (message : Message) :
    (loop.onResult message).2.hub.openConnections = loop.hub.openConnections := by
  unfold onResult
  split
  · rfl
  · split
    · rfl
    · -- the report is forwarded last, after any promoted request is dispatched
      dsimp only
      split
      · next sent =>
        dsimp only
        rw [Hub.openConnections_send sent]
        split <;> simp [openConnections_dispatch]
      · split <;> simp [openConnections_dispatch]
    · rfl

end ControlLoop

/-- Two clients with the same client objects and as many open broker connections. -/
structure Broker.Clients.SameObjects (c after : Clients) : Prop where
  openConnections : after.hub.openConnections = c.hub.openConnections
  connections : after.connections = c.connections
  sessions : after.sessions = c.sessions
  producers : after.producers = c.producers
  consumers : after.consumers = c.consumers

namespace Broker.Clients.SameObjects

theorem refl (c : Clients) : c.SameObjects c := ⟨rfl, rfl, rfl, rfl, rfl⟩

theorem trans {c middle after : Clients} (first : c.SameObjects middle) (second : middle.SameObjects after) :
    c.SameObjects after :=
  ⟨second.openConnections.trans first.openConnections, second.connections.trans first.connections,
    second.sessions.trans first.sessions, second.producers.trans first.producers,
    second.consumers.trans first.consumers⟩

end Broker.Clients.SameObjects

namespace Broker.Clients

variable (c : Clients)

theorem sameObjects_recv (index : Nat) : c.SameObjects (c.recv index).2 := by
  unfold recv
  split
  · exact .refl c
  · split
    · exact .refl c
    · -- a poll changes the hub through a take, and records what it received
      dsimp only
      split <;>
      · next taken =>
        have kept := congrArg (fun taken : Take × Hub => taken.2.openConnections) taken
        simp only [Hub.openConnections_take] at kept
        exact ⟨kept.symm, rfl, rfl, rfl, rfl⟩

theorem sameObjects_ack (index : Nat) : c.SameObjects (c.ack index).2 := by
  unfold ack
  split
  · exact .refl c
  · split
    · exact .refl c
    · dsimp only
      split
      · exact ⟨rfl, rfl, rfl, rfl, rfl⟩
      · next acknowledged => exact ⟨Hub.openConnections_acknowledge acknowledged, rfl, rfl, rfl, rfl⟩

end Broker.Clients

/-- Two runners with the same runs: the same settings, lifecycle and handles, and clients with the
same objects. -/
structure ServiceRunner.SameRuns (runner after : ServiceRunner) : Prop where
  settings : after.settings = runner.settings
  lifecycle : after.lifecycle = runner.lifecycle
  handles : after.handles = runner.handles
  clients : runner.clients.SameObjects after.clients

namespace ServiceRunner.SameRuns

theorem refl (runner : ServiceRunner) : runner.SameRuns runner := ⟨rfl, rfl, rfl, .refl _⟩

theorem trans {runner middle after : ServiceRunner} (first : runner.SameRuns middle) (second : middle.SameRuns after) :
    runner.SameRuns after :=
  ⟨second.settings.trans first.settings, second.lifecycle.trans first.lifecycle,
    second.handles.trans first.handles, first.clients.trans second.clients⟩

theorem withClients {runner : ServiceRunner} {c : Clients} (same : runner.clients.SameObjects c) :
    runner.SameRuns { runner with clients := c } :=
  ⟨rfl, rfl, rfl, same⟩

/-- A fold whose every step keeps the runs keeps them. -/
theorem foldl {α : Type} {runner : ServiceRunner} (step : ServiceRunner → α → ServiceRunner)
    (kept : ∀ (start : ServiceRunner) x, start.SameRuns (step start x)) :
    ∀ (xs : List α) {start : ServiceRunner}, runner.SameRuns start → runner.SameRuns (xs.foldl step start)
  | [], _, same => same
  | x :: xs, start, same => foldl step kept xs (same.trans (kept start x))

end ServiceRunner.SameRuns

namespace ServiceRunner

variable (runner : ServiceRunner)

theorem sameRuns_handleMessage (handler : Handler) (message : Message) :
    runner.SameRuns (runner.handleMessage handler message).2 := by
  unfold handleMessage
  -- the handler changes the orchestrator's state and, through its sends, only the queues
  refine ⟨rfl, rfl, rfl, ?_, rfl, rfl, rfl, rfl⟩
  cases handler
  · exact ControlLoop.openConnections_onEvent _ message
  · exact ControlLoop.openConnections_onResult _ message

/-- Feeding a consumer's messages to a handler, each received, handled and perhaps acknowledged,
keeps the runs. -/
theorem sameRuns_pump (handler : Handler) (consumer fuel : Nat) :
    runner.SameRuns (pump handler consumer fuel runner) := by
  induction fuel generalizing runner with
  | zero => exact .refl runner
  | succ fuel ih =>
    unfold pump
    have received := runner.clients.sameObjects_recv consumer
    split
    · next delivery message _ c polled =>
      rw [polled] at received
      have handled := sameRuns_handleMessage { runner with clients := c } handler message
      rcases handling : ({ runner with clients := c } : ServiceRunner).handleMessage handler message with
        ⟨disposition, after⟩
      rw [handling] at handled
      dsimp only
      refine (SameRuns.withClients received).trans (handled.trans ?_)
      -- a message the handler is done with is acknowledged before the next poll
      cases disposition
      · exact (SameRuns.withClients (Clients.sameObjects_ack _ _)).trans (ih _)
      · exact ih _
    · next c polled =>
      rw [polled] at received
      exact .withClients received

/-- Handing out everything waiting on a run's queues keeps the runs. -/
theorem sameRuns_deliverWaiting (index : Nat) : runner.SameRuns (runner.deliverWaiting index) := by
  unfold deliverWaiting
  split
  · -- one pump per consumer of the run, in order
    refine SameRuns.foldl _ (fun start consumer => ?_) _ (.refl runner)
    obtain ⟨handler, consumer⟩ := consumer
    exact sameRuns_pump _ _ _ _
  · exact .refl runner

end ServiceRunner

end BenchDispatch
