import BenchDispatch.Proofs.HubQueues
import BenchDispatch.Broker.Client

/-! Broker runs: the operations a run makes on the hub and through the objects a client holds,
and what each one does to the queues. Most keep every queue's entries, the tag counter and the
deliveries; a publish or an accepted send adds at the tail of a queue, a drain empties one, a
recover or the first close of a connection puts parked entries back, a poll that finds an entry
waiting takes it as a new delivery, and an acknowledgement settles its delivery and, when the
broker still holds it, removes its entry. -/

set_option autoImplicit false

namespace BenchDispatch.Broker

/-- One operation of a broker run, on the hub itself or through a client object. Client objects
are numbered from 0 in creation order, each kind on its own. Queries change nothing and are left
out. -/
inductive BrokerCall where
  | declare (queue : String)
  | publish (queue : String) (message : Message)
  | drain (queue : String)
  | recover (queue : String)
  | failSends (queue : String)
  | restoreSends (queue : String)
  | refuse (value : Bool)
  | connect
  | closeConnection (connection : Nat)
  | openSession (connection : Nat)
  | closeSession (session : Nat)
  | declareQueue (session : Nat) (queue : String)
  | consumer (session : Nat) (queue : String)
  | closeConsumer (consumer : Nat)
  | producer (session : Nat)
  | closeProducer (producer : Nat)
  | send (producer : Nat) (queue : String) (message : Message)
  | recv (consumer : Nat)
  | ack (delivery : Nat)
  deriving Repr

/-- The clients after a call; a call that fails leaves what the operation leaves. -/
def BrokerCall.perform : BrokerCall → Clients → Clients
  | .declare queue, c => { c with hub := c.hub.declare queue }
  | .publish queue message, c => { c with hub := c.hub.publish queue message }
  | .drain queue, c => { c with hub := (c.hub.drain queue).2 }
  | .recover queue, c => { c with hub := (c.hub.recover queue).2 }
  | .failSends queue, c => { c with hub := c.hub.failSends queue }
  | .restoreSends queue, c => { c with hub := c.hub.restoreSends queue }
  | .refuse value, c => { c with hub := c.hub.refuseConnections value }
  | .connect, c => c.connect.2
  | .closeConnection index, c => (c.closeConnection index).2
  | .openSession index, c => (c.openSession index).2
  | .closeSession index, c => (c.closeSession index).2
  | .declareQueue index queue, c => (c.declareQueue index queue).2
  | .consumer index queue, c => (c.consumer index queue).2
  | .closeConsumer index, c => (c.closeConsumer index).2
  | .producer index, c => (c.producer index).2
  | .closeProducer index, c => (c.closeProducer index).2
  | .send index queue message, c => (c.send index queue message).2
  | .recv index, c => (c.recv index).2
  | .ack index, c => (c.ack index).2

namespace Hub

theorem send_eq_ok {hub accepted : Hub} {name : String} {message : Message}
    (sending : hub.send name message = .ok accepted) :
    (hub.queue? name).isSome ∧ accepted = hub.enqueue name message := by
  rw [send_eq] at sending
  split at sending
  · cases sending
  · split at sending
    · next declared => cases sending; exact ⟨declared, rfl⟩
    · cases sending

end Hub

namespace Clients

variable (c : Clients)

/-- A step that keeps every queue's entries, the tag counter and the deliveries. -/
structure Framed (after : Clients) : Prop where
  queues : c.hub.SameQueues after.hub
  deliveries : after.deliveries = c.deliveries

theorem Framed.refl : c.Framed c := ⟨.refl c.hub, rfl⟩

/-- A step that only appends to the hub's record of resources. -/
theorem framed_record (event : String) {after : Clients} (hub : after.hub = c.hub.record event)
    (deliveries : after.deliveries = c.deliveries) : c.Framed after :=
  ⟨hub ▸ c.hub.sameQueues_record event, deliveries⟩

/-! ### Opening and closing client objects -/

theorem framed_connect : c.Framed c.connect.2 := by
  unfold connect
  split
  · exact .refl c
  · next connecting => exact ⟨c.hub.sameQueues_connect connecting, rfl⟩

theorem framed_openSession (index : Nat) : c.Framed (c.openSession index).2 := by
  unfold openSession
  split
  · exact .refl c
  · split
    · exact .refl c
    · exact c.framed_record _ rfl rfl

theorem framed_closeSession (index : Nat) : c.Framed (c.closeSession index).2 := by
  unfold closeSession
  split
  · exact .refl c
  · split
    · exact .refl c
    · exact c.framed_record _ rfl rfl

theorem framed_declareQueue (index : Nat) (queue : String) : c.Framed (c.declareQueue index queue).2 := by
  unfold declareQueue
  split
  · exact .refl c
  · exact ⟨c.hub.sameQueues_declare queue, rfl⟩

theorem framed_consumer (index : Nat) (queue : String) : c.Framed (c.consumer index queue).2 := by
  unfold consumer
  split
  · exact .refl c
  · split
    · exact .refl c
    · exact c.framed_record _ rfl rfl

theorem framed_closeConsumer (index : Nat) : c.Framed (c.closeConsumer index).2 := by
  unfold closeConsumer
  split
  · exact .refl c
  · split
    · exact .refl c
    · exact c.framed_record _ rfl rfl

theorem framed_producer (index : Nat) : c.Framed (c.producer index).2 := by
  unfold producer
  split
  · exact .refl c
  · exact c.framed_record _ rfl rfl

theorem framed_closeProducer (index : Nat) : c.Framed (c.closeProducer index).2 := by
  unfold closeProducer
  split
  · exact .refl c
  · split
    · exact .refl c
    · exact c.framed_record _ rfl rfl

/-! ### Making and closing objects that are open -/

theorem openSession_of_open {index : Nat} {connection : Connection}
    (found : c.connections[index]? = some connection) (opened : connection.closed = false) :
    c.openSession index =
      (.ok c.sessions.length,
        { c with hub := c.hub.record "open session", sessions := c.sessions ++ [⟨index, false⟩] }) := by
  simp [openSession, find, found, opened]

theorem openSession?_of_open {index : Nat} {session : Session} (found : c.sessions[index]? = some session)
    (opened : session.closed = false) (connected : c.connectionClosed session.connection = false) :
    c.openSession? index = .ok session := by
  simp [openSession?, find, found, opened, connected, bind, Except.bind, pure, Except.pure]

theorem declareQueue_of_open {index : Nat} {session : Session} (usable : c.openSession? index = .ok session)
    (queue : String) : c.declareQueue index queue = (.ok (), { c with hub := c.hub.declare queue }) := by
  simp [declareQueue, usable]

theorem producer_of_open {index : Nat} {session : Session} (usable : c.openSession? index = .ok session) :
    c.producer index =
      (.ok c.producers.length, { c with hub := c.hub.record "open producer", producers := c.producers ++ [⟨false⟩] }) := by
  simp [producer, usable]

theorem consumer_of_open {index : Nat} {session : Session} (usable : c.openSession? index = .ok session)
    {queue : String} (declared : (c.hub.queue? queue).isSome) :
    c.consumer index queue =
      (.ok c.consumers.length, { c with
        hub := c.hub.record ("open consumer " ++ queue)
        consumers := c.consumers ++ [⟨queue, session.connection, false⟩] }) := by
  obtain ⟨q, found⟩ := Option.isSome_iff_exists.1 declared
  simp only [consumer, usable, found]
  rfl

theorem closeConsumer_of_open {index : Nat} {consumer : Consumer} (found : c.consumers[index]? = some consumer)
    (opened : consumer.closed = false) :
    (c.closeConsumer index).2 =
      { c with
        hub := c.hub.record ("close consumer " ++ consumer.queue)
        consumers := c.consumers.set index { consumer with closed := true } } := by
  simp only [closeConsumer, find, found, opened]
  rfl

theorem closeProducer_of_open {index : Nat} (found : c.producers[index]? = some ⟨false⟩) :
    (c.closeProducer index).2 =
      { c with hub := c.hub.record "close producer", producers := c.producers.set index ⟨true⟩ } := by
  simp [closeProducer, find, found]

theorem closeSession_of_open {index : Nat} {session : Session} (found : c.sessions[index]? = some session)
    (opened : session.closed = false) :
    (c.closeSession index).2 =
      { c with hub := c.hub.record "close session", sessions := c.sessions.set index { session with closed := true } } := by
  simp [closeSession, find, found, opened]

/-- Only the first close of a connection that exists puts anything back. -/
theorem closeConnection_of_open {index : Nat} {connection : Connection}
    (found : c.connections[index]? = some connection) (opened : connection.closed = false) :
    (c.closeConnection index).2 =
      { c with
        hub := c.hub.closeConnection connection.id
        connections := c.connections.set index { connection with closed := true } } := by
  simp [closeConnection, find, found, opened]

theorem closeConnection_of_not_open {index : Nat}
    (shut : ∀ connection, c.connections[index]? = some connection → connection.closed = true) :
    (c.closeConnection index).2 = c := by
  cases found : c.connections[index]? with
  | none => simp [closeConnection, find, found]
  | some connection => simp [closeConnection, find, found, shut connection found]

theorem deliveries_closeConnection (index : Nat) : (c.closeConnection index).2.deliveries = c.deliveries := by
  unfold closeConnection
  split
  · rfl
  · split <;> rfl

/-! ### Sending, polling and acknowledging -/

/-- A send either fails and changes nothing, or goes to a declared queue and adds its message at
the tail. -/
theorem send_cases (index : Nat) (queue : String) (message : Message) :
    (∃ error, c.send index queue message = (.error error, c)) ∨
      ((c.hub.queue? queue).isSome ∧
        c.send index queue message = (.ok (), { c with hub := c.hub.enqueue queue message })) := by
  unfold send
  split
  · exact .inl ⟨_, rfl⟩
  · split
    · exact .inl ⟨_, rfl⟩
    · split
      · exact .inl ⟨_, rfl⟩
      · next accepted sending =>
        obtain ⟨declared, rfl⟩ := Hub.send_eq_ok sending
        exact .inr ⟨declared, rfl⟩

/-- The hub's number for the connection a consumer polls on, 0 when it has none. -/
def connectionId (consumer : Consumer) : Nat :=
  ((c.connections[consumer.connection]?).map (·.id)).getD 0

/-- A poll hands out a delivery exactly when its consumer and connection are open and its queue
has an entry waiting: the head of the queue, under the next tag, as the next delivery. Every other
poll changes nothing. -/
theorem recv_cases (index : Nat) :
    ((∀ delivery message redelivered, (c.recv index).1 ≠ .ok (.received delivery message redelivered)) ∧
        (c.recv index).2 = c) ∨
      ∃ consumer head rest, c.consumers[index]? = some consumer ∧
        c.hub.readyOf consumer.queue = head :: rest ∧
        c.recv index = (.ok (.received c.deliveries.length head.message head.redelivered),
          { c with
            hub := (c.hub.take consumer.queue (c.connectionId consumer)).2
            deliveries := c.deliveries ++ [⟨consumer.queue, c.hub.nextTag, false⟩] }) := by
  cases found : c.consumers[index]? with
  | none => exact .inl ⟨fun _ _ _ => by simp [recv, find, found], by simp [recv, find, found]⟩
  | some consumer =>
    by_cases shut : (consumer.closed || c.connectionClosed consumer.connection) = true
    · exact .inl ⟨fun _ _ _ => by simp [recv, find, found, shut], by simp [recv, find, found, shut]⟩
    cases waiting : c.hub.readyOf consumer.queue with
    | nil =>
      obtain ⟨same, nothing⟩ := c.hub.take_of_readyOf_nil waiting (c.connectionId consumer)
      -- the poll matches on the take's answer: every answer but a delivery leaves the hub as it was
      refine .inl ⟨fun delivery message redelivered => ?_, ?_⟩ <;>
        simp only [recv, find, found, shut, Bool.false_eq_true, ite_false] <;>
        generalize taking : c.hub.take consumer.queue _ = taken at same nothing <;>
        obtain ⟨answer, hub⟩ := taken <;> cases answer <;> simp_all [connectionId]
    | cons head rest =>
      obtain ⟨answer, -, -, -⟩ := c.hub.take_of_readyOf_cons waiting (c.connectionId consumer)
      refine .inr ⟨consumer, head, rest, rfl, waiting, ?_⟩
      simp only [recv, find, found, shut, Bool.false_eq_true, ite_false]
      generalize taking : c.hub.take consumer.queue _ = taken at answer
      obtain ⟨taken, hub⟩ := taken
      simp only at answer
      subst answer
      simp_all [connectionId]

theorem deliveries_send (index : Nat) (queue : String) (message : Message) :
    (c.send index queue message).2.deliveries = c.deliveries := by
  rcases c.send_cases index queue message with ⟨_, sending⟩ | ⟨_, sending⟩ <;> rw [sending]

theorem length_deliveries_recv (index : Nat) : c.deliveries.length ≤ (c.recv index).2.deliveries.length := by
  rcases c.recv_cases index with ⟨-, same⟩ | ⟨_, _, _, _, _, receiving⟩
  · simp [same]
  · simp [receiving]

theorem length_deliveries_ack (index : Nat) : (c.ack index).2.deliveries.length = c.deliveries.length := by
  unfold ack
  split
  · rfl
  · split
    · rfl
    · dsimp only
      split <;> simp

theorem ack_of_missing {index : Nat} (missing : c.deliveries[index]? = none) :
    c.ack index = (.error (.noHandle "delivery" index), c) := by
  simp [ack, find, missing]

theorem ack_of_settled {index : Nat} {delivery : Delivery} (found : c.deliveries[index]? = some delivery)
    (settled : delivery.settled = true) : c.ack index = (.error .alreadyAcknowledged, c) := by
  simp [ack, find, found, settled]

/-- Acknowledging a delivery the hub still holds settles it and removes its entry. -/
theorem ack_of_acknowledged {index : Nat} {delivery : Delivery} (found : c.deliveries[index]? = some delivery)
    (unsettled : delivery.settled = false) {hub : Hub}
    (acknowledging : c.hub.acknowledge delivery.queue delivery.tag = .ok hub) :
    c.ack index =
      (.ok (), { c with hub, deliveries := c.deliveries.set index { delivery with settled := true } }) := by
  simp [ack, find, found, unsettled, acknowledging]

/-- An acknowledgement the hub refuses still uses the delivery up, and leaves the hub alone. -/
theorem ack_of_refused {index : Nat} {delivery : Delivery} (found : c.deliveries[index]? = some delivery)
    (unsettled : delivery.settled = false) {error : BrokerError}
    (refusing : c.hub.acknowledge delivery.queue delivery.tag = .error error) :
    c.ack index =
      (.error (.broker error), { c with deliveries := c.deliveries.set index { delivery with settled := true } }) := by
  simp [ack, find, found, unsettled, refusing]

end Clients

end BenchDispatch.Broker
