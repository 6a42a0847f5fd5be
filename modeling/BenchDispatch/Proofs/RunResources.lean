import BenchDispatch.Proofs.ClientCalls
import BenchDispatch.Service.Runner

/-! The broker objects of a service run. A run whose broker accepts its connection gets every
object it asks for: the connection, a session on it, the four queues, a producer, and a consumer of
each of its two subscribed queues. Releasing a run whose objects are all open closes each of them
once, the consumers newest first, then the producer, the session and the connection; closing the
connection puts back every message its consumers left unacknowledged. -/

set_option autoImplicit false

namespace BenchDispatch

open Broker

namespace Broker.Hub

variable (hub : Hub)

@[simp] theorem openConnections_record (event : String) : (hub.record event).openConnections = hub.openConnections := rfl

@[simp] theorem refusing_record (event : String) : (hub.record event).refusing = hub.refusing := rfl

@[simp] theorem openConnections_setQueue (name : String) (q : QueueState) :
    (hub.setQueue name q).openConnections = hub.openConnections := by
  unfold setQueue
  split <;> rfl

@[simp] theorem refusing_setQueue (name : String) (q : QueueState) : (hub.setQueue name q).refusing = hub.refusing := by
  unfold setQueue
  split <;> rfl

@[simp] theorem openConnections_declare (name : String) : (hub.declare name).openConnections = hub.openConnections := by
  unfold declare
  split <;> simp

@[simp] theorem refusing_declare (name : String) : (hub.declare name).refusing = hub.refusing := by
  unfold declare
  split <;> simp

@[simp] theorem queue?_record (event name : String) : (hub.record event).queue? name = hub.queue? name := rfl

@[simp] theorem connectionsMade_record (event : String) : (hub.record event).connectionsMade = hub.connectionsMade := rfl

@[simp] theorem openConnections_closeConnection (id : Nat) :
    (hub.closeConnection id).openConnections = hub.openConnections - 1 := rfl

@[simp] theorem refusing_closeConnection (id : Nat) : (hub.closeConnection id).refusing = hub.refusing := rfl

@[simp] theorem readyOf_record (event name : String) : (hub.record event).readyOf name = hub.readyOf name := rfl

@[simp] theorem unackedOf_record (event name : String) : (hub.record event).unackedOf name = hub.unackedOf name := rfl

@[simp] theorem events_record (event : String) : (hub.record event).events = hub.events ++ [event] := rfl

theorem events_closeConnection (id : Nat) :
    (hub.closeConnection id).events = hub.events ++ ["close connection " ++ toString id] := rfl

/-- A declared queue stays declared, and declaring a name declares it. -/
theorem isSome_queue?_declare (name other : String) (declared : name = other ∨ (hub.queue? other).isSome) :
    ((hub.declare name).queue? other).isSome := by
  unfold declare
  cases found : hub.queue? name with
  | some q =>
    rcases declared with rfl | declared
    · simp [found]
    · exact declared
  | none =>
    rw [queue?_setQueue]
    split
    · rfl
    · next apart => exact declared.resolve_left apart

/-- A hub that accepts connections opens one, numbered after those made before. -/
theorem connect_of_accepting (accepting : hub.refusing = false) :
    ∃ opened, hub.connect = .ok (hub.connectionsMade + 1, opened) ∧
      opened.openConnections = hub.openConnections + 1 ∧ opened.refusing = false := by
  simp [connect, accepting]

theorem connect_of_refusing (refusing : hub.refusing = true) : hub.connect = .error (.connect "connections refused") := by
  simp [connect, refusing]

end Broker.Hub

/-- The client numbers of a started run's objects: its connection, session and producer, and the
consumer of the event queue, the result queue's being the next one; and the hub's number for its
connection. -/
structure RunObjects where
  connection : Nat
  session : Nat
  producer : Nat
  events : Nat
  id : Nat

namespace RunObjects

/-- The resources a run with these objects holds. -/
def resources (o : RunObjects) : Resources :=
  ⟨some o.connection, some o.session, some o.producer, [(.events, o.events), (.results, o.events + 1)]⟩

/-- Every object of the run is open. -/
structure Opened (o : RunObjects) (settings : Settings) (c : Clients) : Prop where
  connection : c.connections[o.connection]? = some ⟨o.id, false⟩
  session : c.sessions[o.session]? = some ⟨o.connection, false⟩
  producer : c.producers[o.producer]? = some ⟨false⟩
  eventConsumer : c.consumers[o.events]? = some ⟨settings.eventQueue, o.connection, false⟩
  resultConsumer : c.consumers[o.events + 1]? = some ⟨settings.resultQueue, o.connection, false⟩

/-- The objects a setup makes on clients, numbered after those there. -/
def next (c : Clients) : RunObjects :=
  ⟨c.connections.length, c.sessions.length, c.producers.length, c.consumers.length, c.hub.connectionsMade + 1⟩

/-- The clients once a setup has made the run's connection, its session and its producer, with the
broker then at `hub`. -/
def prepared (c : Clients) (hub : Hub) : Clients :=
  { c with
    hub
    connections := c.connections ++ [⟨c.hub.connectionsMade + 1, false⟩]
    sessions := c.sessions ++ [⟨c.connections.length, false⟩]
    producers := c.producers ++ [⟨false⟩] }

section Prepared

variable (c : Clients) (hub : Hub)

@[simp] theorem hub_prepared : (prepared c hub).hub = hub := rfl

@[simp] theorem connections_prepared :
    (prepared c hub).connections = c.connections ++ [⟨c.hub.connectionsMade + 1, false⟩] := rfl

@[simp] theorem sessions_prepared : (prepared c hub).sessions = c.sessions ++ [⟨c.connections.length, false⟩] := rfl

@[simp] theorem producers_prepared : (prepared c hub).producers = c.producers ++ [⟨false⟩] := rfl

@[simp] theorem consumers_prepared : (prepared c hub).consumers = c.consumers := rfl

@[simp] theorem deliveries_prepared : (prepared c hub).deliveries = c.deliveries := rfl

/-- The run's session is open on its open connection, whatever the broker did meanwhile. -/
theorem openSession?_prepared :
    (prepared c hub).openSession? c.sessions.length = .ok ⟨c.connections.length, false⟩ :=
  (prepared c hub).openSession?_of_open (by simp) rfl (by simp [Clients.connectionClosed])

end Prepared

end RunObjects

namespace ServiceRunner

/-- The record releasing a run leaves, in order: its consumers newest first, its producer, its
session, its connection. -/
def releaseEvents (settings : Settings) (id : Nat) : List String :=
  ["close consumer " ++ settings.resultQueue, "close consumer " ++ settings.eventQueue, "close producer",
    "close session", "close connection " ++ toString id]

theorem release_none (c : Clients) : release c ⟨none, none, none, []⟩ = c := rfl

/-- Releasing a run whose objects are open closes each of them. -/
theorem release_opened {o : RunObjects} {settings : Settings} {c : Clients} (opened : o.Opened settings c) :
    release c o.resources = { c with
      hub := ((((c.hub.record ("close consumer " ++ settings.resultQueue)).record
        ("close consumer " ++ settings.eventQueue)).record "close producer").record "close session").closeConnection o.id
      connections := c.connections.set o.connection ⟨o.id, true⟩
      sessions := c.sessions.set o.session ⟨o.connection, true⟩
      producers := c.producers.set o.producer ⟨true⟩
      consumers := (c.consumers.set (o.events + 1) ⟨settings.resultQueue, o.connection, true⟩).set o.events
        ⟨settings.eventQueue, o.connection, true⟩ } := by
  have events : (c.consumers.set (o.events + 1) ⟨settings.resultQueue, o.connection, true⟩)[o.events]? =
      some ⟨settings.eventQueue, o.connection, false⟩ := by
    rw [List.getElem?_set_ne (by omega)]
    exact opened.eventConsumer
  -- the consumers close newest first; each close leaves the objects not yet closed open
  simp [release, RunObjects.resources, Clients.closeConsumer, Clients.closeProducer, Clients.closeSession,
    Clients.closeConnection, Clients.find, opened.resultConsumer, events, opened.producer, opened.session,
    opened.connection]
  rfl

section Released

variable {o : RunObjects} {settings : Settings} {c : Clients} (opened : o.Opened settings c)
include opened

/-- Releasing an open run records its five closes, in order. -/
theorem events_release_opened : (release c o.resources).hub.events = c.hub.events ++ releaseEvents settings o.id := by
  rw [release_opened opened]
  simp [Hub.events_closeConnection, releaseEvents]

theorem openConnections_release_opened :
    (release c o.resources).hub.openConnections = c.hub.openConnections - 1 := by
  rw [release_opened opened]
  simp

/-- Releasing an open run puts back, flagged redelivered, what its connection left unacknowledged. -/
theorem readyOf_release_opened (queue : String) :
    (release c o.resources).hub.readyOf queue = c.hub.readyOf queue ++ requeued (Hub.parkedBy o.id (c.hub.unackedOf queue)) := by
  rw [release_opened opened]
  simp [Hub.readyOf_closeConnection]

theorem unackedOf_release_opened (queue : String) :
    (release c o.resources).hub.unackedOf queue = (c.hub.unackedOf queue).filter fun entry => !(o.id == entry.2.connection) := by
  rw [release_opened opened]
  simp [Hub.unackedOf_closeConnection]

end Released

/-! ### Setting up a run -/

/-- Through an open session every queue is declared, in order. -/
theorem declareQueues_of_open {c : Clients} {session : Nat} {s : Session} (usable : c.openSession? session = .ok s)
    (queues : List String) : declareQueues session queues c = (.ok (), { c with hub := queues.foldl Hub.declare c.hub }) := by
  induction queues generalizing c with
  | nil => rfl
  | cons queue rest ih =>
    rw [declareQueues, c.declareQueue_of_open usable]
    -- declaring changes only the hub, which a session's state does not read
    exact ih usable

theorem isSome_queue?_foldl_declare (queues : List String) (hub : Hub) {queue : String}
    (declared : queue ∈ queues ∨ (hub.queue? queue).isSome) : ((queues.foldl Hub.declare hub).queue? queue).isSome := by
  induction queues generalizing hub with
  | nil => simpa using declared
  | cons first rest ih =>
    apply ih
    rcases declared with member | present
    · rcases List.mem_cons.1 member with rfl | later
      · exact .inr (hub.isSome_queue?_declare _ _ (.inl rfl))
      · exact .inl later
    · exact .inr (hub.isSome_queue?_declare _ _ (.inr present))

@[simp] theorem openConnections_foldl_declare (queues : List String) (hub : Hub) :
    (queues.foldl Hub.declare hub).openConnections = hub.openConnections := by
  induction queues generalizing hub <;> simp [*]

@[simp] theorem refusing_foldl_declare (queues : List String) (hub : Hub) :
    (queues.foldl Hub.declare hub).refusing = hub.refusing := by
  induction queues generalizing hub <;> simp [*]

/-- On a broker that accepts the connection, the steps before the semaphore make the connection,
a session on it, the four queues and the producer, numbered after the objects there. -/
theorem prepare_of_accepting (runner : ServiceRunner) (c : Clients) (accepting : c.hub.refusing = false) :
    ∃ hub, runner.prepare c =
        (.ok (⟨some c.connections.length, some c.sessions.length, some c.producers.length, []⟩, c.sessions.length),
          RunObjects.prepared c hub) ∧
      (∀ queue ∈ runner.queues, (hub.queue? queue).isSome) ∧
      hub.openConnections = c.hub.openConnections + 1 ∧ hub.refusing = false := by
  obtain ⟨opened, connecting, counted, stillAccepting⟩ := c.hub.connect_of_accepting accepting
  let connected : Clients := { c with hub := opened, connections := c.connections ++ [⟨c.hub.connectionsMade + 1, false⟩] }
  let withSession : Clients :=
    { connected with hub := opened.record "open session", sessions := c.sessions ++ [⟨c.connections.length, false⟩] }
  have connect : c.connect = (.ok c.connections.length, connected) := by simp [Clients.connect, connecting, connected]
  have session : connected.openSession c.connections.length = (.ok c.sessions.length, withSession) :=
    connected.openSession_of_open
      (show connected.connections[c.connections.length]? = some ⟨c.hub.connectionsMade + 1, false⟩ by simp [connected]) rfl
  have usable : withSession.openSession? c.sessions.length = .ok ⟨c.connections.length, false⟩ :=
    withSession.openSession?_of_open (by simp [withSession]) rfl
      (by simp [withSession, connected, Clients.connectionClosed])
  have producing := Clients.producer_of_open { withSession with hub := runner.queues.foldl Hub.declare withSession.hub }
    usable
  refine ⟨(runner.queues.foldl Hub.declare withSession.hub).record "open producer", ?_, ?_, ?_, ?_⟩
  · simp only [prepare, connect, session, declareQueues_of_open usable, producing]
    rfl
  · intro queue member
    simpa using isSome_queue?_foldl_declare runner.queues withSession.hub (.inl member)
  · simp [withSession, counted]
  · simp [withSession, stillAccepting]

theorem setup_of_accepting (runner : ServiceRunner) (c : Clients) (accepting : c.hub.refusing = false)
    (valid : max 1 runner.settings.handlerConcurrency ≤ maxPermits) :
    ∃ after, runner.setup c = (some (.ok (RunObjects.next c).resources), after) ∧
      (RunObjects.next c).Opened runner.settings after ∧
      after.hub.openConnections = c.hub.openConnections + 1 ∧ after.hub.refusing = false ∧
      after.deliveries = c.deliveries := by
  obtain ⟨hub, preparing, declared, counted, stillAccepting⟩ := runner.prepare_of_accepting c accepting
  let prepared := RunObjects.prepared c hub
  have usable := RunObjects.openSession?_prepared c hub
  have notTooMany : ¬ (max 1 runner.settings.handlerConcurrency > maxPermits) := Nat.not_lt.2 valid
  -- both subscribed queues are among the four declared before subscribing
  have events := declared runner.settings.eventQueue (by simp [queues])
  have results := declared runner.settings.resultQueue (by simp [queues])
  let subscribed : Clients :=
    { prepared with
      hub := prepared.hub.record ("open consumer " ++ runner.settings.eventQueue)
      consumers := prepared.consumers ++ [⟨runner.settings.eventQueue, c.connections.length, false⟩] }
  have first := prepared.consumer_of_open usable events
  have second := subscribed.consumer_of_open usable
    (show (subscribed.hub.queue? runner.settings.resultQueue).isSome by simpa [subscribed, prepared] using results)
  refine ⟨{ subscribed with
      hub := subscribed.hub.record ("open consumer " ++ runner.settings.resultQueue)
      consumers := subscribed.consumers ++ [⟨runner.settings.resultQueue, c.connections.length, false⟩] },
    ?_, ⟨?_, ?_, ?_, ?_, ?_⟩, by simp [subscribed, prepared, counted], by simp [subscribed, prepared, stillAccepting], rfl⟩
  · -- one consumer for the event queue, then one for the result queue
    simp only [setup, preparing, notTooMany, subscriptions, ↓reduceIte]
    rw [subscribeAll, first]
    simp only
    rw [subscribeAll, second]
    simp [subscribeAll, subscribed, prepared, RunObjects.next, RunObjects.resources]
  all_goals simp [subscribed, prepared, RunObjects.next]

/-- A setup whose handler concurrency is more than a semaphore holds panics once the producer is
made: the connection, session, queues and producer stay as they were made. -/
theorem setup_of_oversized (runner : ServiceRunner) (c : Clients) (accepting : c.hub.refusing = false)
    (oversized : maxPermits < max 1 runner.settings.handlerConcurrency) :
    ∃ hub, runner.setup c = (none, RunObjects.prepared c hub) ∧
      (∀ queue ∈ runner.queues, (hub.queue? queue).isSome) ∧
      hub.openConnections = c.hub.openConnections + 1 ∧ hub.refusing = false := by
  obtain ⟨hub, preparing, declared, counted, stillAccepting⟩ := runner.prepare_of_accepting c accepting
  refine ⟨hub, ?_, declared, counted, stillAccepting⟩
  simp only [setup, preparing, gt_iff_lt, oversized, ↓reduceIte]

/-- A setup on a broker that refuses connections makes nothing. -/
theorem setup_of_refusing (runner : ServiceRunner) (c : Clients) (refusing : c.hub.refusing = true) :
    runner.setup c = (some (.error ⟨⟨none, none, none, []⟩, .startup name "connect" (.connect "connections refused")⟩), c) := by
  simp [setup, prepare, Clients.connect, c.hub.connect_of_refusing refusing, SetupFailure.atStep, ClientError.cause]

end ServiceRunner

end BenchDispatch
