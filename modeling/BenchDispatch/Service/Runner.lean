import BenchDispatch.Service.Lifecycle
import BenchDispatch.Broker.Client
import BenchDispatch.Dispatch.ControlLoop

/-!
# Running the orchestrator as a service

A runner owns the orchestrator and its lifecycle. Starting it opens a run: it connects to the
broker, opens a session, declares the four queues, makes the producer, and subscribes a consumer
to the event queue and one to the result queue. A failing step is a startup error; whatever was
made is released and the runner is idle again. A handler concurrency more than a semaphore holds
aborts the start once the producer is made, keeping what was made. Each start hands out a
numbered handle for its run, which can close the run or begin awaiting its shutdown.

A run's resources are released once: the consumers newest first, then the producer, the
session and the connection. Handles only act on their own run; once a newer run has started,
an old handle sees its run as idle.
-/

set_option autoImplicit false

namespace BenchDispatch

open Broker

/-- The most permits a handler semaphore can hold. -/
def maxPermits : Nat := Nat.pow 2 61 - 1

/-- Errors of the lifecycle around a service. -/
inductive ServiceError where
  /-- The action is not allowed in the state the run is in. -/
  | illegalState (service action : String) (state : ServiceState)
  /-- A setup step failed. -/
  | startup (service step : String) (cause : BrokerError)
  deriving DecidableEq, Repr

/-- The text of a service error. -/
def ServiceError.message : ServiceError → String
  | .illegalState service action state => s!"{service} cannot {action} while {state.name}"
  | .startup service step cause => s!"{service} failed to start at '{step}': {cause.message}"

/-- The broker error behind a client error. Setup only uses objects it has just made, so the
other client errors cannot arise there; they read as a closed connection. -/
def Broker.ClientError.cause : ClientError → BrokerError
  | .broker e => e
  | _ => .closed "connection"

/-- Which handler a consumer feeds. -/
inductive Handler where
  | events
  | results
  deriving DecidableEq, Repr

/-- The broker objects of one run, by their client numbers. -/
structure Resources where
  connection : Option Nat
  session : Option Nat
  producer : Option Nat
  consumers : List (Handler × Nat)
  deriving DecidableEq, Repr

/-- A run's handle: its generation, and its resources until they are released. -/
structure RunHandle where
  generation : UInt64
  resources : Option Resources
  deriving DecidableEq, Repr

/-- What starting a run did. -/
inductive RunOutcome where
  /-- The run is going; its handle's number. -/
  | started (handle : Nat)
  /-- The run could not start. -/
  | failed (error : ServiceError)
  /-- The handler concurrency is more than a semaphore holds: starting aborts. -/
  | aborted
  deriving Repr

/-- The orchestrator service on a broker. -/
structure ServiceRunner where
  settings : Settings
  registry : BuildRegistry
  backlog : Backlog
  clients : Clients
  lifecycle : Lifecycle
  handles : List RunHandle

namespace ServiceRunner

/-- The service's name. -/
def name : String := "orchestrator"

/-- A runner with a fresh orchestrator on a hub. -/
def create (settings : Settings) (hub : Hub) : ServiceRunner :=
  { settings, registry := .empty, backlog := .empty, clients := .ofHub hub,
    lifecycle := .fresh, handles := [] }

/-- Every queue the service uses, declared before it subscribes. -/
def queues (runner : ServiceRunner) : List String :=
  [runner.settings.eventQueue, runner.settings.resultQueue, runner.settings.workQueue,
    runner.settings.outputQueue]

/-- The queues the service consumes, with their handlers. -/
def subscriptions (runner : ServiceRunner) : List (Handler × String) :=
  [(.events, runner.settings.eventQueue), (.results, runner.settings.resultQueue)]

/-- Release a run's resources: consumers newest first, then producer, session, connection.
Closing never fails. -/
def release (c : Clients) (r : Resources) : Clients :=
  let c := r.consumers.reverse.foldl (fun c (_, index) => (c.closeConsumer index).2) c
  let c := match r.producer with
    | some index => (c.closeProducer index).2
    | none => c
  let c := match r.session with
    | some index => (c.closeSession index).2
    | none => c
  match r.connection with
  | some index => (c.closeConnection index).2
  | none => c

/-- A setup step that failed: what was made so far, and the error. -/
structure SetupFailure where
  resources : Resources
  error : ServiceError

/-- A setup step that failed, with what was made so far. -/
def SetupFailure.atStep {α : Type} (r : Resources) (step : String) (e : ClientError) : Except SetupFailure α :=
  .error ⟨r, .startup name step e.cause⟩

/-- Declare queues in order through a session, up to the first that fails. -/
def declareQueues (session : Nat) : List String → Clients → Step Unit
  | [], c => (.ok (), c)
  | queue :: rest, c =>
    match c.declareQueue session queue with
    | (.ok (), c) => declareQueues session rest c
    | failed => failed

/-- The setup steps before the handler semaphore: connect, open a session, declare every queue
and make the producer. What was made, and the session's number. -/
def prepare (runner : ServiceRunner) (c : Clients) : Except SetupFailure (Resources × Nat) × Clients :=
  let none₀ : Resources := ⟨none, none, none, []⟩
  match c.connect with
  | (.error e, c) => (SetupFailure.atStep none₀ "connect" e, c)
  | (.ok connection, c) =>
    let r := { none₀ with connection := some connection }
    match c.openSession connection with
    | (.error e, c) => (SetupFailure.atStep r "open session" e, c)
    | (.ok session, c) =>
      let r := { r with session := some session }
      match declareQueues session runner.queues c with
      | (.error e, c) => (SetupFailure.atStep r "declare queue" e, c)
      | (.ok (), c) =>
        match c.producer session with
        | (.error e, c) => (SetupFailure.atStep r "create producer" e, c)
        | (.ok producer, c) => (.ok ({ r with producer := some producer }, session), c)

/-- Subscribe a consumer of each queue in order through a session, up to the first that fails. -/
def subscribeAll (session : Nat) :
    List (Handler × String) → Resources → Clients → Except SetupFailure Resources × Clients
  | [], r, c => (.ok r, c)
  | (handler, queue) :: rest, r, c =>
    match c.consumer session queue with
    | (.error e, c) => (SetupFailure.atStep r "subscribe" e, c)
    | (.ok consumer, c) => subscribeAll session rest { r with consumers := r.consumers ++ [(handler, consumer)] } c

/-- The setup of a run, and the clients afterwards. There is no result when the handler semaphore
cannot be made: that panics after the connection, session, queues and producer are made, and
nothing releases them. -/
def setup (runner : ServiceRunner) (c : Clients) : Option (Except SetupFailure Resources) × Clients :=
  match runner.prepare c with
  | (.error failure, c) => (some (.error failure), c)
  | (.ok (r, session), c) =>
    if max 1 runner.settings.handlerConcurrency > maxPermits then (none, c)
    else
      let (result, c) := subscribeAll session runner.subscriptions r c
      (some result, c)

/-- Start a run. A start whose setup panics keeps the objects setup made and leaves the run
going with no handle. -/
def runAsync (runner : ServiceRunner) : RunOutcome × ServiceRunner :=
  match runner.lifecycle.start with
  | (.error state, _) => (.failed (.illegalState name "start" state), runner)
  | (.ok generation, lifecycle) =>
    let runner := { runner with lifecycle }
    match runner.setup runner.clients with
    | (none, c) => (.aborted, { runner with clients := c })
    | (some (.error failure), c) =>
      (.failed failure.error,
        { runner with clients := release c failure.resources, lifecycle := lifecycle.reset generation })
    | (some (.ok resources), c) =>
      (.started runner.handles.length,
        { runner with clients := c, handles := runner.handles ++ [⟨generation, some resources⟩] })

/-- The handle with a number. -/
def handle? (runner : ServiceRunner) (index : Nat) : Option RunHandle :=
  runner.handles[index]?

/-- The state of a handle's run. -/
def handleState (runner : ServiceRunner) (h : RunHandle) : ServiceState :=
  runner.lifecycle.stateOf h.generation

/-- Release a handle's resources if nobody has yet. -/
def releaseHandle (runner : ServiceRunner) (index : Nat) : ServiceRunner :=
  match runner.handles[index]? with
  | some ⟨generation, some resources⟩ =>
    { runner with
      clients := release runner.clients resources
      handles := runner.handles.set index ⟨generation, none⟩ }
  | _ => runner

/-- Close the run of a handle: allowed while it runs or awaits shutdown. Its resources are
released and the runner is idle afterwards. -/
def close (runner : ServiceRunner) (index : Nat) (h : RunHandle) :
    Except ServiceError Unit × ServiceRunner :=
  let moved : Except ServiceState Unit × Lifecycle :=
    match runner.lifecycle.transition h.generation .running .shuttingDown with
    | (.ok (), l) => (.ok (), l)
    | (.error _, l) => l.transition h.generation .awaitingShutdown .shuttingDown
  match moved with
  | (.error state, _) => (.error (.illegalState name "close" state), runner)
  | (.ok (), lifecycle) =>
    let runner := releaseHandle { runner with lifecycle } index
    (.ok (), { runner with lifecycle := runner.lifecycle.reset h.generation })

/-- Begin awaiting the shutdown of a handle's run; allowed only while it runs. The wait
itself lasts until the run is closed. -/
def awaitShutdown (runner : ServiceRunner) (h : RunHandle) :
    Except ServiceError Unit × ServiceRunner :=
  match runner.lifecycle.transition h.generation .running .awaitingShutdown with
  | (.error state, _) => (.error (.illegalState name "await shutdown" state), runner)
  | (.ok (), lifecycle) => (.ok (), { runner with lifecycle })

/-- Handle one message with a handler, against the runner's orchestrator. -/
def handleMessage (runner : ServiceRunner) (handler : Handler) (message : Message) :
    Disposition × ServiceRunner :=
  let loop : ControlLoop :=
    { settings := runner.settings, registry := runner.registry, backlog := runner.backlog,
      hub := runner.clients.hub }
  let (disposition, loop) := match handler with
    | .events => loop.onEvent message
    | .results => loop.onResult message
  (disposition, { runner with
    registry := loop.registry, backlog := loop.backlog
    clients := { runner.clients with hub := loop.hub } })

/-- Feed a consumer's waiting messages to its handler, one at a time, acknowledging those the
handler is done with; at most `fuel` of them. -/
def pump (handler : Handler) (consumer : Nat) : Nat → ServiceRunner → ServiceRunner
  | 0, runner => runner
  | fuel + 1, runner =>
    match runner.clients.recv consumer with
    | (.ok (.received delivery message _), c) =>
      let (disposition, runner) := handleMessage { runner with clients := c } handler message
      let runner := match disposition with
        | .ack => { runner with clients := (runner.clients.ack delivery).2 }
        | .leave => runner
      pump handler consumer fuel runner
    | (_, c) => { runner with clients := c }

/-- Hand every message waiting on a run's subscribed queues to the handlers, queue by queue. -/
def deliverWaiting (runner : ServiceRunner) (index : Nat) : ServiceRunner :=
  match runner.handles[index]? with
  | some ⟨_, some resources⟩ =>
    resources.consumers.foldl (fun runner (handler, consumer) =>
      let waiting := match runner.clients.consumers[consumer]? with
        | some c => runner.clients.hub.readyLength c.queue
        | none => 0
      pump handler consumer waiting runner) runner
  | _ => runner

end ServiceRunner

end BenchDispatch
