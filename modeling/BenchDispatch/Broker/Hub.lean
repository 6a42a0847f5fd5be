/-!
# The in-process message hub

Named FIFO queues with explicit acknowledgement. A message handed to a consumer is parked
under a delivery tag until it is acknowledged; recovering its queue, or closing the connection
that received it, puts it back at the tail of the queue flagged as redelivered.

Besides the queues, the hub numbers connections and delivery tags, counts the connections that
are open, keeps the ordered record of resources opened and closed, can refuse new connections,
and can make every send to a queue fail. Delivery tags come from one 64-bit counter that wraps, and
each queue keeps its unacknowledged messages as a map from tag to message: a message parked under
a tag that is already taken replaces the one parked there.
-/

set_option autoImplicit false

namespace BenchDispatch.Broker

/-- A message body: text, or raw bytes. -/
inductive Message where
  | text (body : String)
  | binary (bytes : List UInt8)
  deriving DecidableEq, Repr, Inhabited

/-- Errors the broker reports. -/
inductive BrokerError where
  /-- A connection could not be made. -/
  | connect (reason : String)
  /-- The queue was never declared. -/
  | unknownQueue (queue : String)
  /-- The broker refused a send. -/
  | send (queue reason : String)
  /-- An acknowledgement named a delivery that is not outstanding. -/
  | ack (detail : String)
  /-- The resource used was closed. -/
  | closed (resource : String)
  deriving DecidableEq, Repr

/-- The text the broker gives for an error. -/
def BrokerError.message : BrokerError → String
  | .connect reason => s!"connection failed: {reason}"
  | .unknownQueue queue => s!"queue '{queue}' does not exist"
  | .send queue reason => s!"send to '{queue}' failed: {reason}"
  | .ack detail => s!"acknowledge failed: {detail}"
  | .closed resource => s!"{resource} is closed"

/-- A message held by a queue: whether it was handed out before, and the connection that last
received it (0 for none). -/
structure Parked where
  message : Message
  redelivered : Bool
  connection : Nat
  deriving DecidableEq, Repr

/-- One queue: the messages waiting, oldest first, and those handed out but not acknowledged,
by ascending delivery tag. -/
structure QueueState where
  ready : List Parked
  unacked : List (UInt64 × Parked)
  deriving Repr

/-- A queue with nothing in it. -/
def QueueState.empty : QueueState := ⟨[], []⟩

/-- What taking the next message from a queue found. -/
inductive Take where
  /-- There is no such queue. -/
  | missing
  /-- The queue has no message waiting. -/
  | empty
  /-- The next message, now parked under `tag`. -/
  | delivered (tag : UInt64) (message : Message) (redelivered : Bool)
  deriving DecidableEq, Repr

/-- The state of the broker. -/
structure Hub where
  queues : List (String × QueueState)
  failingSends : List String
  refusing : Bool
  nextTag : UInt64
  connectionsMade : Nat
  openConnections : Nat
  events : List String
  deriving Repr

namespace QueueState

/-- The tag-ordered entries with a message parked under `tag`, in place of any message parked there
before. -/
def park : List (UInt64 × Parked) → UInt64 → Parked → List (UInt64 × Parked)
  | [], tag, parked => [(tag, parked)]
  | (other, held) :: rest, tag, parked =>
    if tag < other then (tag, parked) :: (other, held) :: rest
    else if tag = other then (tag, parked) :: rest
    else (other, held) :: park rest tag parked

/-- Put the unacknowledged messages received on `only` (or all of them) back at the tail,
flagged as redelivered, in tag order; also how many moved. -/
def requeue (q : QueueState) (only : Option Nat) : Nat × QueueState :=
  let chosen := fun (entry : UInt64 × Parked) => only.all (· == entry.2.connection)
  let moved := q.unacked.filter chosen
  let kept := q.unacked.filter fun entry => !chosen entry
  (moved.length,
    { ready := q.ready ++ moved.map fun entry => { entry.2 with redelivered := true },
      unacked := kept })

end QueueState

namespace Hub

/-- A broker with no queues. -/
def empty : Hub :=
  { queues := [], failingSends := [], refusing := false, nextTag := 0, connectionsMade := 0,
    openConnections := 0, events := [] }

/-- The queue of a name. -/
def queue? (hub : Hub) (name : String) : Option QueueState :=
  hub.queues.lookup name

/-- The hub with the queue of a name replaced (or added last). -/
def setQueue (hub : Hub) (name : String) (q : QueueState) : Hub :=
  if hub.queues.any (·.1 == name) then
    { hub with queues := hub.queues.map fun entry => if entry.1 == name then (name, q) else entry }
  else { hub with queues := hub.queues ++ [(name, q)] }

/-- Append to the record of resources opened and closed. -/
def record (hub : Hub) (event : String) : Hub :=
  { hub with events := hub.events ++ [event] }

/-- Create a queue if it does not exist. -/
def declare (hub : Hub) (name : String) : Hub :=
  match hub.queue? name with
  | some _ => hub
  | none => hub.setQueue name .empty

/-- Enqueue a message from outside any connection, creating the queue if needed. -/
def publish (hub : Hub) (name : String) (message : Message) : Hub :=
  let q := (hub.queue? name).getD .empty
  hub.setQueue name { q with ready := q.ready ++ [⟨message, false, 0⟩] }

/-- Remove and return every waiting message of a queue. -/
def drain (hub : Hub) (name : String) : List Message × Hub :=
  match hub.queue? name with
  | none => ([], hub)
  | some q => (q.ready.map (·.message), hub.setQueue name { q with ready := [] })

/-- How many messages of a queue wait to be handed out. -/
def readyLength (hub : Hub) (name : String) : Nat :=
  ((hub.queue? name).map (·.ready.length)).getD 0

/-- How many messages of a queue are handed out and not acknowledged. -/
def unackedLength (hub : Hub) (name : String) : Nat :=
  ((hub.queue? name).map (·.unacked.length)).getD 0

/-- Put every unacknowledged message of a queue back up for delivery; how many there were. -/
def recover (hub : Hub) (name : String) : Nat × Hub :=
  match hub.queue? name with
  | none => (0, hub)
  | some q =>
    let (count, q) := q.requeue none
    (count, hub.setQueue name q)

/-- Make every send to a queue fail. -/
def failSends (hub : Hub) (name : String) : Hub :=
  if hub.failingSends.contains name then hub
  else { hub with failingSends := hub.failingSends ++ [name] }

/-- Let sends to a queue through again. -/
def restoreSends (hub : Hub) (name : String) : Hub :=
  { hub with failingSends := hub.failingSends.filter (· != name) }

/-- Refuse (or accept again) new connections. -/
def refuseConnections (hub : Hub) (refuse : Bool) : Hub :=
  { hub with refusing := refuse }

/-- Open a connection; its number counts from 1. -/
def connect (hub : Hub) : Except BrokerError (Nat × Hub) :=
  if hub.refusing then .error (.connect "connections refused")
  else
    let id := hub.connectionsMade + 1
    .ok (id, { hub with connectionsMade := id, openConnections := hub.openConnections + 1 }
      |>.record s!"open connection {id}")

/-- Close an open connection: everything it received and did not acknowledge goes back to its
queue. -/
def closeConnection (hub : Hub) (id : Nat) : Hub :=
  let queues := hub.queues.map fun (name, q) => (name, (q.requeue (some id)).2)
  { hub with queues, openConnections := hub.openConnections - 1 }
    |>.record s!"close connection {id}"

/-- Hand the next waiting message of a queue to a consumer on connection `connection`. -/
def take (hub : Hub) (name : String) (connection : Nat) : Take × Hub :=
  match hub.queue? name with
  | none => (.missing, hub)
  | some q =>
    match q.ready with
    | [] => (.empty, hub)
    | parked :: rest =>
      let tag := hub.nextTag
      let q := { ready := rest, unacked := QueueState.park q.unacked tag { parked with connection } }
      (.delivered tag parked.message parked.redelivered,
        { hub.setQueue name q with nextTag := tag + 1 })

/-- Acknowledge the delivery `tag` of a queue: its message leaves the queue for good. -/
def acknowledge (hub : Hub) (name : String) (tag : UInt64) : Except BrokerError Hub :=
  match hub.queue? name with
  | some q =>
    if q.unacked.any (·.1 == tag) then
      .ok (hub.setQueue name { q with unacked := q.unacked.filter (·.1 != tag) })
    else .error (.ack s!"delivery {tag} on '{name}' is no longer outstanding")
  | none => .error (.ack s!"delivery {tag} on '{name}' is no longer outstanding")

/-- Accept a message for a declared queue, unless sends to it are made to fail. -/
def send (hub : Hub) (name : String) (message : Message) : Except BrokerError Hub :=
  if hub.failingSends.contains name then .error (.send name "send rejected by broker")
  else
    match hub.queue? name with
    | none => .error (.unknownQueue name)
    | some q => .ok (hub.setQueue name { q with ready := q.ready ++ [⟨message, false, 0⟩] })

end Hub

end BenchDispatch.Broker
