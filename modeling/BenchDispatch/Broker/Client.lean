import BenchDispatch.Broker.Hub

/-!
# Connections, sessions, consumers and producers

A client reaches the hub through a connection, opens sessions on it, and from a session makes
consumers of a queue and producers. Every object it holds is numbered from 0 in creation order,
each kind on its own; a session or consumer sees its connection's closing. Each message a
consumer receives is a delivery that can be acknowledged once.
-/

set_option autoImplicit false

namespace BenchDispatch.Broker

/-- A connection: the hub's number for it, and whether it is closed. -/
structure Connection where
  id : Nat
  closed : Bool
  deriving Repr

/-- A session on the connection with a given index. -/
structure Session where
  connection : Nat
  closed : Bool
  deriving Repr

/-- A consumer of a queue, on the connection with a given index. -/
structure Consumer where
  queue : String
  connection : Nat
  closed : Bool
  deriving Repr

/-- A producer. -/
structure Producer where
  closed : Bool
  deriving Repr

/-- A message received by a consumer: its queue and tag, and whether it was acknowledged. -/
structure Delivery where
  queue : String
  tag : UInt64
  settled : Bool
  deriving Repr

/-- Why a client operation did nothing. -/
inductive ClientError where
  /-- The broker refused it. -/
  | broker (error : BrokerError)
  /-- No object of that kind has that number. -/
  | noHandle (kind : String) (index : Nat)
  /-- The delivery was already acknowledged once. -/
  | alreadyAcknowledged
  deriving Repr

/-- The text of a client error. -/
def ClientError.message : ClientError → String
  | .broker error => error.message
  | .noHandle kind index => s!"no {kind} #{index}"
  | .alreadyAcknowledged => "delivery already acknowledged"

/-- What one poll of a consumer found. -/
inductive Poll where
  /-- No message is waiting. -/
  | pending
  /-- The consumer, its connection or its queue is gone. -/
  | closed
  /-- A message, received as the delivery with this number. -/
  | received (delivery : Nat) (message : Message) (redelivered : Bool)
  deriving Repr

/-- A hub and the objects a client holds on it. -/
structure Clients where
  hub : Hub
  connections : List Connection
  sessions : List Session
  consumers : List Consumer
  producers : List Producer
  deliveries : List Delivery
  deriving Repr

/-- A client step: its answer and the clients afterwards. -/
abbrev Step (α : Type) := Except ClientError α × Clients

namespace Clients

/-- A hub with no client objects. -/
def ofHub (hub : Hub) : Clients :=
  { hub, connections := [], sessions := [], consumers := [], producers := [], deliveries := [] }

/-- The object with an index, or the error naming it. -/
def find {α : Type} (kind : String) (xs : List α) (index : Nat) : Except ClientError α :=
  match xs[index]? with
  | some x => .ok x
  | none => .error (.noHandle kind index)

/-- Whether the connection with an index is closed. -/
def connectionClosed (c : Clients) (index : Nat) : Bool :=
  (c.connections[index]?.map (·.closed)).getD true

/-- Connect; the new connection's index. -/
def connect (c : Clients) : Step Nat :=
  match c.hub.connect with
  | .error e => (.error (.broker e), c)
  | .ok (id, hub) =>
    (.ok c.connections.length, { c with hub, connections := c.connections ++ [⟨id, false⟩] })

/-- Close a connection; a second close does nothing. -/
def closeConnection (c : Clients) (index : Nat) : Step Unit :=
  match find "connection" c.connections index with
  | .error e => (.error e, c)
  | .ok connection =>
    if connection.closed then (.ok (), c)
    else
      (.ok (), { c with
        hub := c.hub.closeConnection connection.id
        connections := c.connections.set index { connection with closed := true } })

/-- Open a session on a connection; the new session's index. -/
def openSession (c : Clients) (index : Nat) : Step Nat :=
  match find "connection" c.connections index with
  | .error e => (.error e, c)
  | .ok connection =>
    if connection.closed then (.error (.broker (.closed "connection")), c)
    else
      (.ok c.sessions.length,
        { c with hub := c.hub.record "open session", sessions := c.sessions ++ [⟨index, false⟩] })

/-- The session with an index, if it and its connection are open. -/
def openSession? (c : Clients) (index : Nat) : Except ClientError Session := do
  let session ← find "session" c.sessions index
  if session.closed || c.connectionClosed session.connection then
    throw (.broker (.closed "session"))
  return session

/-- Close a session; a second close does nothing. -/
def closeSession (c : Clients) (index : Nat) : Step Unit :=
  match find "session" c.sessions index with
  | .error e => (.error e, c)
  | .ok session =>
    if session.closed then (.ok (), c)
    else
      (.ok (), { c with
        hub := c.hub.record "close session"
        sessions := c.sessions.set index { session with closed := true } })

/-- Declare a queue through a session. -/
def declareQueue (c : Clients) (index : Nat) (queue : String) : Step Unit :=
  match c.openSession? index with
  | .error e => (.error e, c)
  | .ok _ => (.ok (), { c with hub := c.hub.declare queue })

/-- Make a consumer of a declared queue; the new consumer's index. -/
def consumer (c : Clients) (index : Nat) (queue : String) : Step Nat :=
  match c.openSession? index with
  | .error e => (.error e, c)
  | .ok session =>
    match c.hub.queue? queue with
    | none => (.error (.broker (.unknownQueue queue)), c)
    | some _ =>
      (.ok c.consumers.length, { c with
        hub := c.hub.record s!"open consumer {queue}"
        consumers := c.consumers ++ [⟨queue, session.connection, false⟩] })

/-- Close a consumer; a second close does nothing. -/
def closeConsumer (c : Clients) (index : Nat) : Step Unit :=
  match find "consumer" c.consumers index with
  | .error e => (.error e, c)
  | .ok consumer =>
    if consumer.closed then (.ok (), c)
    else
      (.ok (), { c with
        hub := c.hub.record s!"close consumer {consumer.queue}"
        consumers := c.consumers.set index { consumer with closed := true } })

/-- Make a producer; the new producer's index. -/
def producer (c : Clients) (index : Nat) : Step Nat :=
  match c.openSession? index with
  | .error e => (.error e, c)
  | .ok _ =>
    (.ok c.producers.length,
      { c with hub := c.hub.record "open producer", producers := c.producers ++ [⟨false⟩] })

/-- Close a producer; a second close does nothing. -/
def closeProducer (c : Clients) (index : Nat) : Step Unit :=
  match find "producer" c.producers index with
  | .error e => (.error e, c)
  | .ok producer =>
    if producer.closed then (.ok (), c)
    else
      (.ok (), { c with
        hub := c.hub.record "close producer"
        producers := c.producers.set index ⟨true⟩ })

/-- Send a message through a producer. -/
def send (c : Clients) (index : Nat) (queue : String) (message : Message) : Step Unit :=
  match find "producer" c.producers index with
  | .error e => (.error e, c)
  | .ok producer =>
    if producer.closed then (.error (.broker (.closed "producer")), c)
    else
      match c.hub.send queue message with
      | .error e => (.error (.broker e), c)
      | .ok hub => (.ok (), { c with hub })

/-- Poll a consumer once. -/
def recv (c : Clients) (index : Nat) : Step Poll :=
  match find "consumer" c.consumers index with
  | .error e => (.error e, c)
  | .ok consumer =>
    if consumer.closed || c.connectionClosed consumer.connection then (.ok .closed, c)
    else
      let id := ((c.connections[consumer.connection]?).map (·.id)).getD 0
      match c.hub.take consumer.queue id with
      | (.missing, hub) => (.ok .closed, { c with hub })
      | (.empty, hub) => (.ok .pending, { c with hub })
      | (.delivered tag message redelivered, hub) =>
        (.ok (.received c.deliveries.length message redelivered), { c with
          hub
          deliveries := c.deliveries ++ [⟨consumer.queue, tag, false⟩] })

/-- Acknowledge a delivery. The delivery is used up even when the broker refuses it. -/
def ack (c : Clients) (index : Nat) : Step Unit :=
  match find "delivery" c.deliveries index with
  | .error e => (.error e, c)
  | .ok delivery =>
    if delivery.settled then (.error .alreadyAcknowledged, c)
    else
      let c := { c with deliveries := c.deliveries.set index { delivery with settled := true } }
      match c.hub.acknowledge delivery.queue delivery.tag with
      | .error e => (.error (.broker e), c)
      | .ok hub => (.ok (), { c with hub })

end Clients

end BenchDispatch.Broker
