import Mathlib
import BenchDispatch.Proofs.ClientCalls

/-! What a broker run does with every message. Beside the run a ledger records, for each queue,
what its callers saw: the messages published or accepted by a send, those a drain returned, those
whose acknowledgement went through, and the order in which entries became ready and left the
ready list, each with its flag. Main statement: over every run that hands out at most 2^64
deliveries, every accepted message is acknowledged, drained, ready or parked exactly once;
consumers see each queue's entries in the order they became ready, flagged as redelivered exactly
when a requeue put them there; deliveries have distinct tags; and an acknowledgement goes through
exactly when its entry is still parked, once per delivery, never after the entry was put back.

Delivery tags come from a 64-bit counter, and delivery `i` is tagged `i`; the statement needs the
bound because the next delivery reuses tag 0 and parks over whatever delivery 0 left
(`wrapped_tag_parks_over_first_delivery`). -/

set_option autoImplicit false

namespace BenchDispatch.Broker

/-- An entry as a consumer sees it: its message, and whether it comes flagged as redelivered. -/
def Parked.view (entry : Parked) : Message × Bool := (entry.message, entry.redelivered)

@[simp] theorem map_view_requeued (entries : List (UInt64 × Parked)) :
    (requeued entries).map Parked.view = entries.map fun entry => (entry.2.message, true) := by
  simp [requeued, Parked.view]

/-- A log kept for each queue, extended at the end of one queue's entries. -/
def addTo {α : Type} (log : String → List α) (queue : String) (entries : List α) : String → List α :=
  fun name => if queue = name then log name ++ entries else log name

@[simp] theorem addTo_self {α : Type} (log : String → List α) (queue : String) (entries : List α) :
    addTo log queue entries queue = log queue ++ entries := by
  simp [addTo]

@[simp] theorem addTo_of_ne {α : Type} (log : String → List α) {queue name : String} (entries : List α)
    (other : queue ≠ name) : addTo log queue entries name = log name := by
  simp [addTo, other]

/-! ### Parked entries by ascending tag -/

section Entries

variable {entries : List (UInt64 × Parked)}

/-- In a list of entries by ascending tag, a tag is held by at most one entry. -/
theorem filter_tag_eq_singleton (ascending : (entries.map (·.1)).Pairwise (· < ·)) {tag : UInt64}
    {entry : Parked} (member : (tag, entry) ∈ entries) : entries.filter (·.1 == tag) = [(tag, entry)] := by
  induction entries with
  | nil => cases member
  | cons head rest ih =>
    obtain ⟨key, held⟩ := head
    simp only [List.map_cons, List.pairwise_cons, List.mem_map] at ascending
    rcases List.mem_cons.1 member with same | later
    · -- the head holds the tag, and every later tag is above it
      cases same
      have none : rest.filter (·.1 == tag) = [] :=
        List.filter_eq_nil_iff.2 fun other member same => by
          have above := ascending.1 other.1 ⟨other, member, rfl⟩
          simp only [beq_iff_eq] at same
          exact UInt64.lt_irrefl _ (same ▸ above)
      simp [none]
    · have below : key < tag := ascending.1 tag ⟨(tag, entry), later, rfl⟩
      have apart : (key == tag) = false := by
        simpa using fun same : key = tag => UInt64.lt_irrefl tag (same ▸ below)
      simp [apart, ih ascending.2 later]

theorem entry_eq_of_tag_eq (ascending : (entries.map (·.1)).Pairwise (· < ·)) {tag : UInt64}
    {entry other : Parked} (first : (tag, entry) ∈ entries) (second : (tag, other) ∈ entries) : entry = other := by
  have same := (filter_tag_eq_singleton ascending first).symm.trans (filter_tag_eq_singleton ascending second)
  simpa using same

/-- Taking out the entries of one tag keeps the others. -/
theorem perm_filter_tag (tag : UInt64) :
    (entries.filter (·.1 != tag) ++ entries.filter (·.1 == tag)).Perm entries := by
  have split := List.filter_append_perm (·.1 != tag) entries
  simpa [bne] using split

theorem map_message_perm_filter (select : UInt64 × Parked → Bool) :
    (entries.map (·.2.message)).Perm
      ((entries.filter select).map (·.2.message) ++ (entries.filter fun entry => !select entry).map (·.2.message)) := by
  rw [← List.map_append]
  exact ((List.filter_append_perm select entries).map _).symm

end Entries

/-- A delivery list's entry, after one more is added at the end. -/
theorem getElem?_concat_eq_some {α : Type} {xs : List α} {last found : α} {index : Nat}
    (finding : (xs ++ [last])[index]? = some found) :
    xs[index]? = some found ∨ (index = xs.length ∧ last = found) := by
  rcases Nat.lt_or_ge index xs.length with inside | outside
  · exact .inl (by rwa [List.getElem?_append_left inside] at finding)
  · rw [List.getElem?_append_right outside] at finding
    cases gap : index - xs.length with
    | zero =>
      simp only [gap, List.getElem?_cons_zero, Option.some.injEq] at finding
      exact .inr ⟨by omega, finding⟩
    | succ beyond => simp [gap] at finding

/-- A delivery list with one entry replaced. -/
theorem getElem?_set_of_getElem? {α : Type} {xs : List α} {index : Nat} {old new : α}
    (found : xs[index]? = some old) (other : Nat) :
    (xs.set index new)[other]? = if index = other then some new else xs[other]? := by
  simp [List.getElem?_set, (List.getElem?_eq_some_iff.1 found).1]

/-! ### The ledger -/

/-- What a broker run has done with each queue's messages, as the run's callers saw it. -/
structure Ledger where
  /-- Messages published to the queue or accepted by a send to it. -/
  accepted : String → List Message
  /-- Messages of deliveries from the queue whose acknowledgement went through. -/
  acked : String → List Message
  /-- Messages a drain of the queue returned. -/
  drained : String → List Message
  /-- Messages as they became ready on the queue, each with whether a requeue put it there. -/
  arrived : String → List (Message × Bool)
  /-- Messages as they left the queue's ready list: received, with the flag the consumer saw, or
  drained. -/
  departed : String → List (Message × Bool)
  /-- The message of each delivery, by delivery number. -/
  received : List Message
  /-- The deliveries whose acknowledgement went through, in order. -/
  acknowledged : List Nat
  /-- The deliveries whose entry a recover or a connection's close put back. -/
  putBack : Nat → Prop

namespace Ledger

/-- The ledger of a run that has not started. -/
def empty : Ledger :=
  { accepted := fun _ => [], acked := fun _ => [], drained := fun _ => [], arrived := fun _ => [],
    departed := fun _ => [], received := [], acknowledged := [], putBack := fun _ => False }

variable (l : Ledger)

/-- A message published to a queue, or accepted by a send to it. -/
def accept (queue : String) (message : Message) : Ledger :=
  { l with
    accepted := addTo l.accepted queue [message]
    arrived := addTo l.arrived queue [(message, false)] }

/-- A drain of a queue that held these entries ready. -/
def drain (queue : String) (entries : List Parked) : Ledger :=
  { l with
    drained := addTo l.drained queue (entries.map (·.message))
    departed := addTo l.departed queue (entries.map Parked.view) }

/-- A requeue that puts back, on each queue of the hub, the parked entries a test selects. -/
def requeue (hub : Hub) (select : String → UInt64 × Parked → Bool) : Ledger :=
  { l with
    arrived := fun name =>
      l.arrived name ++ ((hub.unackedOf name).filter (select name)).map fun entry => (entry.2.message, true)
    putBack := fun index => l.putBack index ∨
      ∃ name entry, entry ∈ (hub.unackedOf name).filter (select name) ∧ entry.1.toNat = index }

/-- A poll that received a message from a queue as the next delivery. -/
def receive (queue : String) (message : Message) (redelivered : Bool) : Ledger :=
  { l with
    received := l.received ++ [message]
    departed := addTo l.departed queue [(message, redelivered)] }

/-- An acknowledgement of a delivery from a queue that went through. -/
def acknowledge (queue : String) (index : Nat) (message : Message) : Ledger :=
  { l with
    acked := addTo l.acked queue [message]
    acknowledged := l.acknowledged ++ [index] }

end Ledger

namespace BrokerCall

/-- The ledger after a call: what the call answered, and where the answer does not say it (which
entries a drain or a requeue moved), what the hub held before the call. -/
def record : BrokerCall → Clients → Ledger → Ledger
  | .publish queue message, _, l => l.accept queue message
  | .drain queue, c, l => l.drain queue (c.hub.readyOf queue)
  | .recover queue, c, l => l.requeue c.hub fun name _ => queue == name
  | .closeConnection index, c, l =>
    match c.connections[index]? with
    | some connection =>
      if connection.closed then l
      else l.requeue c.hub fun _ entry => connection.id == entry.2.connection
    | none => l
  | .send index queue message, c, l =>
    match (c.send index queue message).1 with
    | .ok () => l.accept queue message
    | .error _ => l
  | .recv index, c, l =>
    match (c.recv index).1, c.consumers[index]? with
    | .ok (.received _ message redelivered), some held => l.receive held.queue message redelivered
    | _, _ => l
  | .ack index, c, l =>
    match (c.ack index).1, c.deliveries[index]?, l.received[index]? with
    | .ok (), some delivery, some message => l.acknowledge delivery.queue index message
    | _, _, _ => l
  | _, _, l => l

/-- The clients and the ledger after each call of a run in turn. -/
def runFrom : Clients × Ledger → List BrokerCall → Clients × Ledger
  | state, [] => state
  | (c, l), call :: calls => runFrom (call.perform c, call.record c l) calls

/-- A run on a fresh broker. -/
def run (calls : List BrokerCall) : Clients × Ledger :=
  runFrom (Clients.ofHub Hub.empty, Ledger.empty) calls

theorem runFrom_append (state : Clients × Ledger) (calls more : List BrokerCall) :
    runFrom state (calls ++ more) = runFrom (runFrom state calls) more := by
  induction calls generalizing state with
  | nil => rfl
  | cons call calls ih => exact ih _

theorem run_append (calls more : List BrokerCall) : run (calls ++ more) = runFrom (run calls) more :=
  runFrom_append _ calls more

end BrokerCall

/-! ### Outstanding deliveries -/

namespace Clients

variable (c : Clients)

/-- Delivery `index` is not acknowledged and its queue still parks an entry under its tag. -/
def Outstanding (index : Nat) : Prop :=
  ∃ delivery, c.deliveries[index]? = some delivery ∧ delivery.settled = false ∧
    ∃ entry, (delivery.tag, entry) ∈ c.hub.unackedOf delivery.queue

theorem any_tag_iff {entries : List (UInt64 × Parked)} {tag : UInt64} :
    entries.any (·.1 == tag) = true ↔ ∃ entry, (tag, entry) ∈ entries := by
  simp only [List.any_eq_true, beq_iff_eq]
  constructor
  · rintro ⟨⟨key, entry⟩, member, rfl⟩
    exact ⟨entry, member⟩
  · rintro ⟨entry, member⟩
    exact ⟨_, member, rfl⟩

/-- Acknowledging a delivery whose entry is parked settles it and removes the entry. -/
theorem ack_of_held {index : Nat} {delivery : Delivery} (found : c.deliveries[index]? = some delivery)
    (unsettled : delivery.settled = false) (held : (c.hub.unackedOf delivery.queue).any (·.1 == delivery.tag)) :
    c.ack index =
      (.ok (), { c with
        hub := c.hub.setQueue delivery.queue
          { ready := c.hub.readyOf delivery.queue
            unacked := (c.hub.unackedOf delivery.queue).filter (·.1 != delivery.tag) }
        deliveries := c.deliveries.set index { delivery with settled := true } }) := by
  have acknowledging := c.hub.acknowledge_eq delivery.queue delivery.tag
  rw [if_pos held] at acknowledging
  exact c.ack_of_acknowledged found unsettled acknowledging

/-- Acknowledging a delivery whose entry is gone fails with an acknowledgement error, and only uses
the delivery up. -/
theorem ack_of_not_held {index : Nat} {delivery : Delivery} (found : c.deliveries[index]? = some delivery)
    (unsettled : delivery.settled = false)
    (gone : (c.hub.unackedOf delivery.queue).any (·.1 == delivery.tag) = false) :
    ∃ detail, c.ack index =
      (.error (.broker (.ack detail)), { c with deliveries := c.deliveries.set index { delivery with settled := true } }) := by
  have acknowledging := c.hub.acknowledge_eq delivery.queue delivery.tag
  rw [gone, if_neg Bool.false_ne_true] at acknowledging
  exact ⟨_, c.ack_of_refused found unsettled acknowledging⟩

/-- An acknowledgement goes through exactly when its delivery is outstanding. -/
theorem ack_eq_ok_iff (index : Nat) : (c.ack index).1 = .ok () ↔ c.Outstanding index := by
  cases found : c.deliveries[index]? with
  | none =>
    have missing : ¬ c.Outstanding index := fun ⟨_, found', _⟩ => by simp [found] at found'
    simp [c.ack_of_missing found, missing]
  | some delivery =>
    cases settled : delivery.settled with
    | true =>
      have done : ¬ c.Outstanding index := fun ⟨_, found', unsettled, _⟩ => by
        simp only [found, Option.some.injEq] at found'
        subst found'
        simp [settled] at unsettled
      simp [c.ack_of_settled found settled, done]
    | false =>
      cases held : (c.hub.unackedOf delivery.queue).any (·.1 == delivery.tag) with
      | true =>
        have outstanding : c.Outstanding index := ⟨delivery, found, settled, any_tag_iff.1 held⟩
        simp [c.ack_of_held found settled held, outstanding]
      | false =>
        obtain ⟨detail, acking⟩ := c.ack_of_not_held found settled held
        have gone : ¬ c.Outstanding index := fun ⟨_, found', _, parked⟩ => by
          simp only [found, Option.some.injEq] at found'
          subst found'
          simp [any_tag_iff.2 parked] at held
        simp [acking, gone]

end Clients

/-! ### The bookkeeping every bounded run keeps -/

/-- The bookkeeping that holds after every run with at most 2^64 deliveries. -/
structure Accounted (c : Clients) (l : Ledger) : Prop where
  received : l.received.length = c.deliveries.length
  /-- Delivery `i` is tagged `i`. -/
  numbered : ∀ (index : Nat) (delivery : Delivery), c.deliveries[index]? = some delivery → delivery.tag.toNat = index
  counter : c.hub.nextTag.toNat = c.deliveries.length % 2 ^ 64
  /-- Each parked entry is an unsettled delivery from its queue, of the message received. -/
  parked : ∀ (name : String) (tag : UInt64) (entry : Parked), (tag, entry) ∈ c.hub.unackedOf name →
    c.deliveries[tag.toNat]? = some ⟨name, tag, false⟩ ∧ l.received[tag.toNat]? = some entry.message
  ascending : ∀ name, ((c.hub.unackedOf name).map (·.1)).Pairwise (· < ·)
  /-- No parked entry belongs to a delivery that was put back. -/
  fresh : ∀ (name : String) (tag : UInt64) (entry : Parked), (tag, entry) ∈ c.hub.unackedOf name → ¬ l.putBack tag.toNat
  putBack_lt : ∀ index, l.putBack index → index < c.deliveries.length
  settled : ∀ index ∈ l.acknowledged, ∃ delivery : Delivery, c.deliveries[index]? = some delivery ∧ delivery.settled = true
  once : l.acknowledged.Nodup
  /-- Every message accepted by a queue is acknowledged, drained, ready or parked, once. -/
  conserved : ∀ name, (l.accepted name).Perm
    (l.acked name ++ l.drained name ++ (c.hub.readyOf name).map (·.message) ++ (c.hub.unackedOf name).map (·.2.message))
  /-- What left a queue's ready list, then what is on it, is what arrived there, in order. -/
  inOrder : ∀ name, l.arrived name = l.departed name ++ (c.hub.readyOf name).map Parked.view

namespace Accounted

theorem empty : Accounted (Clients.ofHub Hub.empty) Ledger.empty := by
  have ready : ∀ name, (Clients.ofHub Hub.empty).hub.readyOf name = [] := fun _ => rfl
  have unacked : ∀ name, (Clients.ofHub Hub.empty).hub.unackedOf name = [] := fun _ => rfl
  refine ⟨rfl, fun _ _ found => ?_, rfl, fun _ _ _ member => ?_, fun _ => ?_, fun _ _ _ member => ?_,
    fun _ never => never.elim, fun _ member => ?_, List.nodup_nil, fun _ => ?_, fun _ => ?_⟩
  all_goals simp_all [Clients.ofHub, Ledger.empty]

variable {c after : Clients} {l : Ledger} (inv : Accounted c l)
include inv

/-- Two parked entries of one delivery are one entry of one queue. -/
theorem entry_unique {name other : String} {tag tag' : UInt64} {entry entry' : Parked}
    (first : (tag, entry) ∈ c.hub.unackedOf name) (second : (tag', entry') ∈ c.hub.unackedOf other)
    (same : tag.toNat = tag'.toNat) : name = other ∧ tag = tag' ∧ entry = entry' := by
  have delivered := (inv.parked name tag entry first).1
  rw [same, (inv.parked other tag' entry' second).1] at delivered
  simp only [Option.some.injEq, Delivery.mk.injEq] at delivered
  obtain ⟨rfl, rfl, -⟩ := delivered
  exact ⟨rfl, rfl, (entry_eq_of_tag_eq (inv.ascending _) second first).symm⟩

/-- A change to the waiting entries alone, with the ledger's delivery records kept. -/
theorem of_ready {l' : Ledger} (unacked : ∀ name, after.hub.unackedOf name = c.hub.unackedOf name)
    (nextTag : after.hub.nextTag = c.hub.nextTag) (deliveries : after.deliveries = c.deliveries)
    (received : l'.received = l.received) (acknowledged : l'.acknowledged = l.acknowledged)
    (putBack : l'.putBack = l.putBack)
    (conserved : ∀ name, (l'.accepted name).Perm (l'.acked name ++ l'.drained name ++
      (after.hub.readyOf name).map (·.message) ++ (after.hub.unackedOf name).map (·.2.message)))
    (inOrder : ∀ name, l'.arrived name = l'.departed name ++ (after.hub.readyOf name).map Parked.view) :
    Accounted after l' where
  received := by rw [received, deliveries]; exact inv.received
  numbered := by rw [deliveries]; exact inv.numbered
  counter := by rw [nextTag, deliveries]; exact inv.counter
  parked name := by rw [unacked, deliveries, received]; exact inv.parked name
  ascending name := by rw [unacked]; exact inv.ascending name
  fresh name := by rw [unacked, putBack]; exact inv.fresh name
  putBack_lt := by rw [putBack, deliveries]; exact inv.putBack_lt
  settled := by rw [acknowledged, deliveries]; exact inv.settled
  once := by rw [acknowledged]; exact inv.once
  conserved := conserved
  inOrder := inOrder

theorem framed (framed : c.Framed after) : Accounted after l :=
  inv.of_ready framed.queues.unacked framed.queues.nextTag framed.deliveries rfl rfl rfl
    (fun name => by rw [framed.queues.ready, framed.queues.unacked]; exact inv.conserved name)
    (fun name => by rw [framed.queues.ready]; exact inv.inOrder name)

/-- A message added at the tail of a queue. -/
theorem accept {queue : String} {message : Message}
    (ready : ∀ name, after.hub.readyOf name =
      if queue = name then c.hub.readyOf name ++ [⟨message, false, 0⟩] else c.hub.readyOf name)
    (unacked : ∀ name, after.hub.unackedOf name = c.hub.unackedOf name)
    (nextTag : after.hub.nextTag = c.hub.nextTag) (deliveries : after.deliveries = c.deliveries) :
    Accounted after (l.accept queue message) := by
  refine inv.of_ready unacked nextTag deliveries rfl rfl rfl (fun name => ?_) (fun name => ?_)
  · rw [ready, unacked]
    by_cases same : queue = name
    · subst same
      refine List.perm_iff_count.2 fun held => ?_
      have counted := (inv.conserved queue).count_eq held
      simp only [Ledger.accept, addTo_self, if_true, List.map_append, List.map_cons, List.map_nil,
        List.count_append] at counted ⊢
      omega
    · simpa [Ledger.accept, same] using inv.conserved name
  · rw [ready]
    by_cases same : queue = name
    · subst same
      simp [Ledger.accept, inv.inOrder queue, Parked.view]
    · simpa [Ledger.accept, same] using inv.inOrder name

/-- The ready entries of a queue handed to a drain. -/
theorem drain {queue : String} (ready : ∀ name, after.hub.readyOf name = if queue = name then [] else c.hub.readyOf name)
    (unacked : ∀ name, after.hub.unackedOf name = c.hub.unackedOf name)
    (nextTag : after.hub.nextTag = c.hub.nextTag) (deliveries : after.deliveries = c.deliveries) :
    Accounted after (l.drain queue (c.hub.readyOf queue)) := by
  refine inv.of_ready unacked nextTag deliveries rfl rfl rfl (fun name => ?_) (fun name => ?_)
  · rw [ready, unacked]
    by_cases same : queue = name
    · subst same
      simpa [Ledger.drain, List.append_assoc] using inv.conserved queue
    · simpa [Ledger.drain, same] using inv.conserved name
  · rw [ready]
    by_cases same : queue = name
    · subst same
      simp [Ledger.drain, inv.inOrder queue]
    · simpa [Ledger.drain, same] using inv.inOrder name

/-- The parked entries a test selects, put back at the tail of their queues. -/
theorem requeue (select : String → UInt64 × Parked → Bool)
    (ready : ∀ name, after.hub.readyOf name = c.hub.readyOf name ++ requeued ((c.hub.unackedOf name).filter (select name)))
    (unacked : ∀ name, after.hub.unackedOf name = (c.hub.unackedOf name).filter fun entry => !select name entry)
    (nextTag : after.hub.nextTag = c.hub.nextTag) (deliveries : after.deliveries = c.deliveries) :
    Accounted after (l.requeue c.hub select) where
  received := by rw [deliveries]; exact inv.received
  numbered := by rw [deliveries]; exact inv.numbered
  counter := by rw [nextTag, deliveries]; exact inv.counter
  parked name tag entry member := by
    rw [unacked] at member
    rw [deliveries]
    exact inv.parked name tag entry ((List.mem_filter.1 member).1)
  ascending name := by
    rw [unacked]
    exact (inv.ascending name).sublist (List.filter_sublist.map _)
  fresh name tag entry member := by
    rw [unacked] at member
    rintro (old | ⟨other, ⟨movedTag, moved⟩, chosen, same⟩)
    · exact inv.fresh name tag entry (List.mem_filter.1 member).1 old
    · -- the moved entry of this delivery is this very entry, which the test kept
      have kept := (List.mem_filter.1 member).2
      obtain ⟨movedMember, selected⟩ := List.mem_filter.1 chosen
      obtain ⟨rfl, rfl, rfl⟩ := inv.entry_unique movedMember (List.mem_filter.1 member).1 same
      simp [selected] at kept
  putBack_lt index := by
    rintro (old | ⟨other, moved, chosen, rfl⟩)
    · rw [deliveries]
      exact inv.putBack_lt index old
    · have found := (inv.parked other moved.1 moved.2 ((List.mem_filter.1 chosen).1)).1
      rw [deliveries]
      exact (List.getElem?_eq_some_iff.1 found).1
  settled := by rw [deliveries]; exact inv.settled
  once := inv.once
  conserved name := by
    rw [ready, unacked]
    have account := inv.conserved name
    have split := (@map_message_perm_filter (c.hub.unackedOf name) (select name)).count_eq
    rw [List.perm_iff_count] at account ⊢
    intro message
    have counted := account message
    have parts := split message
    simp only [Ledger.requeue, List.map_append, map_message_requeued, List.count_append] at counted parts ⊢
    omega
  inOrder name := by
    simp [Ledger.requeue, ready, inv.inOrder name]

/-- The head of a queue taken as the next delivery, while fewer than 2^64 were handed out. -/
theorem receive {queue : String} {head : Parked} {rest : List Parked} {connection : Nat}
    (waiting : c.hub.readyOf queue = head :: rest)
    (ready : ∀ name, after.hub.readyOf name = if queue = name then rest else c.hub.readyOf name)
    (unacked : ∀ name, after.hub.unackedOf name =
      if queue = name then QueueState.park (c.hub.unackedOf queue) c.hub.nextTag { head with connection }
      else c.hub.unackedOf name)
    (nextTag : after.hub.nextTag = c.hub.nextTag + 1)
    (deliveries : after.deliveries = c.deliveries ++ [⟨queue, c.hub.nextTag, false⟩])
    (room : c.deliveries.length < 2 ^ 64) :
    Accounted after (l.receive queue head.message head.redelivered) := by
  have tagged : c.hub.nextTag.toNat = c.deliveries.length := by
    rw [inv.counter]
    exact Nat.mod_eq_of_lt room
  have below : ∀ name tag entry, (tag, entry) ∈ c.hub.unackedOf name → tag.toNat < c.deliveries.length :=
    fun name tag entry member => (List.getElem?_eq_some_iff.1 (inv.parked name tag entry member).1).1
  have above : ∀ entry ∈ c.hub.unackedOf queue, entry.1 < c.hub.nextTag := fun entry member => by
    rw [UInt64.lt_iff_toNat_lt, tagged]
    exact below queue entry.1 entry.2 member
  -- the new entry goes last, so the entries of each queue are the old ones and perhaps the new one
  have parkedAt : ∀ name tag entry, (tag, entry) ∈ after.hub.unackedOf name →
      (tag, entry) ∈ c.hub.unackedOf name ∨ (queue = name ∧ tag = c.hub.nextTag ∧ entry = { head with connection }) := by
    intro name tag entry member
    rw [unacked] at member
    by_cases same : queue = name
    · subst same
      rw [if_pos rfl, QueueState.park_of_lt above] at member
      simpa using member
    · rw [if_neg same] at member
      exact .inl member
  have old : ∀ index, index < c.deliveries.length →
      after.deliveries[index]? = c.deliveries[index]? ∧
        (l.receive queue head.message head.redelivered).received[index]? = l.received[index]? :=
    fun index lt => ⟨by rw [deliveries, List.getElem?_append_left lt],
      List.getElem?_append_left (inv.received ▸ lt)⟩
  refine ⟨?_, fun index delivery found => ?_, ?_, fun name tag entry member => ?_, fun name => ?_,
    fun name tag entry member putBack => ?_, fun index putBack => ?_, fun index member => ?_, inv.once,
    fun name => ?_, fun name => ?_⟩
  · simp [Ledger.receive, deliveries, inv.received]
  · rw [deliveries] at found
    rcases getElem?_concat_eq_some found with found | ⟨rfl, rfl⟩
    · exact inv.numbered index delivery found
    · exact tagged
  · rw [nextTag, deliveries, UInt64.toNat_add, tagged]
    simp
  · rcases parkedAt name tag entry member with member | ⟨rfl, rfl, rfl⟩
    · rw [(old _ (below _ _ _ member)).1, (old _ (below _ _ _ member)).2]
      exact inv.parked name tag entry member
    · simp [deliveries, Ledger.receive, tagged, inv.received]
  · rw [unacked]
    by_cases same : queue = name
    · subst same
      rw [if_pos rfl, QueueState.park_of_lt above, List.map_append, List.pairwise_append]
      refine ⟨inv.ascending queue, List.pairwise_singleton _ _, fun tag member newer newest => ?_⟩
      obtain ⟨entry, parked, rfl⟩ := List.mem_map.1 member
      simp only [List.map_cons, List.map_nil, List.mem_singleton] at newest
      exact newest ▸ above entry parked
    · rw [if_neg same]
      exact inv.ascending name
  · rcases parkedAt name tag entry member with member | ⟨-, rfl, -⟩
    · exact inv.fresh name tag entry member putBack
    · have := inv.putBack_lt _ putBack
      omega
  · rw [deliveries, List.length_append]
    exact Nat.lt_succ_of_lt (inv.putBack_lt index putBack)
  · obtain ⟨delivery, found, settled⟩ := inv.settled index member
    exact ⟨delivery, (old index (List.getElem?_eq_some_iff.1 found).1).1.trans found, settled⟩
  · rw [ready, unacked]
    by_cases same : queue = name
    · subst same
      rw [if_pos rfl, if_pos rfl, QueueState.park_of_lt above]
      refine List.perm_iff_count.2 fun held => ?_
      have counted := (inv.conserved queue).count_eq held
      rw [waiting] at counted
      simp only [Ledger.receive, List.map_append, List.map_cons, List.map_nil, List.count_append,
        List.count_cons, List.count_nil] at counted ⊢
      omega
    · simpa [Ledger.receive, same] using inv.conserved name
  · rw [ready]
    by_cases same : queue = name
    · subst same
      simp [Ledger.receive, inv.inOrder queue, waiting, Parked.view]
    · simpa [Ledger.receive, same] using inv.inOrder name

/-- Changing a delivery that no given parked entry carries keeps that entry's delivery. -/
theorem parked_set {index : Nat} (changed : Delivery) {name : String} {tag : UInt64} {entry : Parked}
    (member : (tag, entry) ∈ c.hub.unackedOf name) (apart : tag.toNat ≠ index) :
    (c.deliveries.set index changed)[tag.toNat]? = some ⟨name, tag, false⟩ := by
  rw [List.getElem?_set_ne (Ne.symm apart)]
  exact (inv.parked name tag entry member).1

/-! #### Settling a delivery -/

section Settling

variable {index : Nat} {delivery : Delivery} (found : c.deliveries[index]? = some delivery)
include found

/-- The entry parked under a delivery's number is that delivery's. -/
theorem eq_of_parked {name : String} {tag : UInt64} {entry : Parked} (member : (tag, entry) ∈ c.hub.unackedOf name)
    (numbered : tag.toNat = index) : name = delivery.queue ∧ tag = delivery.tag := by
  have delivered := (inv.parked name tag entry member).1
  rw [numbered, found, Option.some.injEq] at delivered
  subst delivered
  exact ⟨rfl, rfl⟩

theorem numbered_set : ∀ (other : Nat) (settledOne : Delivery),
    (c.deliveries.set index { delivery with settled := true })[other]? = some settledOne →
      settledOne.tag.toNat = other := by
  intro other settledOne finding
  rw [getElem?_set_of_getElem? found] at finding
  split at finding
  · next same =>
    cases finding
    exact same ▸ inv.numbered index delivery found
  · exact inv.numbered other settledOne finding

theorem settled_set : ∀ other ∈ l.acknowledged, ∃ settledOne : Delivery,
    (c.deliveries.set index { delivery with settled := true })[other]? = some settledOne ∧
      settledOne.settled = true := by
  intro other member
  obtain ⟨held, found', settled⟩ := inv.settled other member
  rw [getElem?_set_of_getElem? found]
  split
  · exact ⟨_, rfl, rfl⟩
  · exact ⟨held, found', settled⟩

/-- An acknowledgement the hub refuses: the delivery is settled and nothing else changes. -/
theorem settle (gone : ∀ entry, (delivery.tag, entry) ∉ c.hub.unackedOf delivery.queue)
    (queues : c.hub.SameQueues after.hub)
    (deliveries : after.deliveries = c.deliveries.set index { delivery with settled := true }) :
    Accounted after l := by
  have apart : ∀ name tag entry, (tag, entry) ∈ c.hub.unackedOf name → tag.toNat ≠ index := by
    intro name tag entry member numbered
    obtain ⟨rfl, rfl⟩ := inv.eq_of_parked found member numbered
    exact gone entry member
  refine ⟨?_, ?_, ?_, fun name tag entry member => ?_, fun name => ?_, fun name tag entry member => ?_, ?_, ?_,
    inv.once, fun name => ?_, fun name => ?_⟩
  · rw [deliveries, List.length_set]
    exact inv.received
  · rw [deliveries]
    exact inv.numbered_set found
  · rw [queues.nextTag, deliveries, List.length_set]
    exact inv.counter
  · rw [queues.unacked] at member
    rw [deliveries]
    exact ⟨inv.parked_set _ member (apart name tag entry member), (inv.parked name tag entry member).2⟩
  · rw [queues.unacked]
    exact inv.ascending name
  · rw [queues.unacked] at member
    exact inv.fresh name tag entry member
  · rw [deliveries, List.length_set]
    exact inv.putBack_lt
  · rw [deliveries]
    exact inv.settled_set found
  · rw [queues.ready, queues.unacked]
    exact inv.conserved name
  · rw [queues.ready]
    exact inv.inOrder name

/-- An acknowledgement of a parked delivery: it is settled and its entry leaves its queue. -/
theorem acknowledge {message : Message} {entry : Parked} (unsettled : delivery.settled = false)
    (receivedAs : l.received[index]? = some message) (held : (delivery.tag, entry) ∈ c.hub.unackedOf delivery.queue)
    (ready : ∀ name, after.hub.readyOf name = c.hub.readyOf name)
    (unacked : ∀ name, after.hub.unackedOf name =
      if delivery.queue = name then (c.hub.unackedOf delivery.queue).filter (·.1 != delivery.tag)
      else c.hub.unackedOf name)
    (nextTag : after.hub.nextTag = c.hub.nextTag)
    (deliveries : after.deliveries = c.deliveries.set index { delivery with settled := true }) :
    Accounted after (l.acknowledge delivery.queue index message) := by
  -- every entry left is an old one, of another delivery
  have remaining : ∀ name tag entry, (tag, entry) ∈ after.hub.unackedOf name →
      (tag, entry) ∈ c.hub.unackedOf name ∧ tag.toNat ≠ index := by
    intro name tag entry member
    rw [unacked] at member
    by_cases same : delivery.queue = name
    · subst same
      rw [if_pos rfl] at member
      obtain ⟨member, kept⟩ := List.mem_filter.1 member
      refine ⟨member, fun numbered => ?_⟩
      obtain ⟨-, rfl⟩ := inv.eq_of_parked found member numbered
      simp at kept
    · rw [if_neg same] at member
      exact ⟨member, fun numbered => same (inv.eq_of_parked found member numbered).1.symm⟩
  refine ⟨?_, ?_, ?_, fun name tag entry member => ?_, fun name => ?_, fun name tag entry member => ?_, ?_,
    fun other member => ?_, ?_, fun name => ?_, fun name => ?_⟩
  · rw [deliveries, List.length_set]
    exact inv.received
  · rw [deliveries]
    exact inv.numbered_set found
  · rw [nextTag, deliveries, List.length_set]
    exact inv.counter
  · obtain ⟨member, apart⟩ := remaining name tag entry member
    rw [deliveries]
    exact ⟨inv.parked_set _ member apart, (inv.parked name tag entry member).2⟩
  · rw [unacked]
    split
    · exact (inv.ascending delivery.queue).sublist (List.filter_sublist.map _)
    · exact inv.ascending name
  · exact inv.fresh name tag entry (remaining name tag entry member).1
  · rw [deliveries, List.length_set]
    exact inv.putBack_lt
  · rw [deliveries]
    rcases List.mem_append.1 member with member | newest
    · exact inv.settled_set found other member
    · rw [List.mem_singleton.1 newest, getElem?_set_of_getElem? found, if_pos rfl]
      exact ⟨_, rfl, rfl⟩
  · -- the delivery was unsettled, so it was not acknowledged before
    refine List.nodup_append.2 ⟨inv.once, List.pairwise_singleton _ index, fun other member newest now => ?_⟩
    rintro rfl
    rw [List.mem_singleton.1 now] at member
    obtain ⟨_, found', settled⟩ := inv.settled index member
    rw [found, Option.some.injEq] at found'
    subst found'
    simp [unsettled] at settled
  · rw [ready, unacked]
    by_cases same : delivery.queue = name
    · subst same
      rw [if_pos rfl]
      have split := @perm_filter_tag (c.hub.unackedOf delivery.queue) delivery.tag
      rw [filter_tag_eq_singleton (inv.ascending _) held] at split
      -- the removed entry carries the message received as this delivery
      have messageOf : entry.message = message := by
        have carried := (inv.parked _ _ _ held).2
        rw [inv.numbered index delivery found, receivedAs, Option.some.injEq] at carried
        exact carried.symm
      refine List.perm_iff_count.2 fun held => ?_
      have counted := (inv.conserved delivery.queue).count_eq held
      have parts := (split.map (·.2.message)).count_eq held
      simp only [Ledger.acknowledge, addTo_self, List.map_append, List.map_cons, List.map_nil,
        List.count_append, messageOf] at counted parts ⊢
      omega
    · rw [if_neg same]
      simpa [Ledger.acknowledge, same] using inv.conserved name
  · rw [ready]
    exact inv.inOrder name

end Settling

/-! #### One call, and a whole run -/

theorem recover (queue : String) :
    Accounted (BrokerCall.perform (.recover queue) c) (BrokerCall.record (.recover queue) c l) := by
  refine inv.requeue (fun name _ => queue == name) (fun name => ?_) (fun name => ?_) (c.hub.nextTag_recover queue) rfl
  · show (c.hub.recover queue).2.readyOf name = _
    rw [c.hub.readyOf_recover]
    by_cases same : queue = name
    · subst same
      rw [if_pos rfl, List.filter_eq_self.2 fun _ _ => beq_self_eq_true queue]
    · rw [if_neg same, List.filter_eq_nil_iff.2 fun _ _ => by simpa using same, requeued_nil, List.append_nil]
  · show (c.hub.recover queue).2.unackedOf name = _
    rw [c.hub.unackedOf_recover]
    by_cases same : queue = name
    · subst same
      rw [if_pos rfl]
      exact (List.filter_eq_nil_iff.2 fun _ _ => by simp).symm
    · rw [if_neg same]
      exact (List.filter_eq_self.2 fun _ _ => by simpa using same).symm

theorem closeConnection (index : Nat) :
    Accounted (BrokerCall.perform (.closeConnection index) c) (BrokerCall.record (.closeConnection index) c l) := by
  simp only [BrokerCall.perform, BrokerCall.record]
  cases found : c.connections[index]? with
  | none =>
    rw [c.closeConnection_of_not_open (by simp [found])]
    exact inv
  | some connection =>
    dsimp only
    cases opened : connection.closed with
    | true =>
      rw [c.closeConnection_of_not_open (by simp [found, opened]), if_pos rfl]
      exact inv
    | false =>
      rw [c.closeConnection_of_open found opened, if_neg Bool.false_ne_true]
      exact inv.requeue _ (c.hub.readyOf_closeConnection connection.id) (c.hub.unackedOf_closeConnection connection.id)
        rfl rfl

theorem send (index : Nat) (queue : String) (message : Message) :
    Accounted (BrokerCall.perform (.send index queue message) c) (BrokerCall.record (.send index queue message) c l) := by
  simp only [BrokerCall.perform, BrokerCall.record]
  rcases c.send_cases index queue message with ⟨error, sending⟩ | ⟨declared, sending⟩
  · rw [sending]
    exact inv
  · rw [sending]
    exact inv.accept (c.hub.readyOf_enqueue declared message) (c.hub.unackedOf_enqueue queue message)
      (c.hub.nextTag_enqueue queue message) rfl

theorem recv (index : Nat) (bounded : (BrokerCall.perform (.recv index) c).deliveries.length ≤ 2 ^ 64) :
    Accounted (BrokerCall.perform (.recv index) c) (BrokerCall.record (.recv index) c l) := by
  simp only [BrokerCall.perform, BrokerCall.record] at bounded ⊢
  rcases c.recv_cases index with ⟨quiet, same⟩ | ⟨consumer, head, rest, found, waiting, receiving⟩
  · -- a poll that received nothing records nothing
    have unrecorded : (match (c.recv index).1, c.consumers[index]? with
        | .ok (.received _ message redelivered), some held => l.receive held.queue message redelivered
        | _, _ => l) = l := by
      split
      · next answer _ => exact absurd answer (quiet _ _ _)
      · rfl
    rw [unrecorded, same]
    exact inv
  · rw [receiving] at bounded ⊢
    simp only [found]
    obtain ⟨-, ready, unacked, nextTag⟩ := c.hub.take_of_readyOf_cons waiting (c.connectionId consumer)
    have room : c.deliveries.length < 2 ^ 64 := by
      simp only [List.length_append, List.length_singleton] at bounded
      omega
    exact inv.receive waiting ready unacked nextTag rfl room

theorem ack (index : Nat) :
    Accounted (BrokerCall.perform (.ack index) c) (BrokerCall.record (.ack index) c l) := by
  simp only [BrokerCall.perform, BrokerCall.record]
  cases found : c.deliveries[index]? with
  | none =>
    rw [c.ack_of_missing found]
    exact inv
  | some delivery =>
    cases settled : delivery.settled with
    | true =>
      rw [c.ack_of_settled found settled]
      exact inv
    | false =>
      cases held : (c.hub.unackedOf delivery.queue).any (·.1 == delivery.tag) with
      | true =>
        obtain ⟨entry, parked⟩ := Clients.any_tag_iff.1 held
        obtain ⟨message, receivedAs⟩ : ∃ message, l.received[index]? = some message := by
          have inside : index < l.received.length := inv.received ▸ (List.getElem?_eq_some_iff.1 found).1
          exact ⟨_, List.getElem?_eq_getElem inside⟩
        rw [c.ack_of_held found settled held, receivedAs]
        refine inv.acknowledge found settled receivedAs parked (fun name => ?_) (fun name => ?_)
          (c.hub.nextTag_setQueue ..) rfl
        · show (c.hub.setQueue _ _).readyOf name = _
          rw [c.hub.readyOf_setQueue]
          split
          · next same => exact same ▸ rfl
          · rfl
        · exact c.hub.unackedOf_setQueue ..
      | false =>
        obtain ⟨detail, acking⟩ := c.ack_of_not_held found settled held
        rw [acking]
        exact inv.settle found (fun entry member => by simp [Clients.any_tag_iff.2 ⟨entry, member⟩] at held)
          (.refl _) rfl

/-- Every call keeps the bookkeeping, while the run has handed out at most 2^64 deliveries. -/
theorem perform (call : BrokerCall) (bounded : (call.perform c).deliveries.length ≤ 2 ^ 64) :
    Accounted (call.perform c) (call.record c l) := by
  cases call with
  | declare queue => exact inv.framed ⟨c.hub.sameQueues_declare queue, rfl⟩
  | publish queue message =>
    exact inv.accept (c.hub.readyOf_publish queue message) (c.hub.unackedOf_publish queue message)
      (c.hub.nextTag_publish queue message) rfl
  | drain queue =>
    exact inv.drain (c.hub.readyOf_drain queue) (c.hub.unackedOf_drain queue) (c.hub.nextTag_drain queue) rfl
  | recover queue => exact inv.recover queue
  | failSends queue => exact inv.framed ⟨c.hub.sameQueues_failSends queue, rfl⟩
  | restoreSends queue => exact inv.framed ⟨c.hub.sameQueues_restoreSends queue, rfl⟩
  | refuse value => exact inv.framed ⟨c.hub.sameQueues_refuseConnections value, rfl⟩
  | connect => exact inv.framed c.framed_connect
  | closeConnection index => exact inv.closeConnection index
  | openSession index => exact inv.framed (c.framed_openSession index)
  | closeSession index => exact inv.framed (c.framed_closeSession index)
  | declareQueue index queue => exact inv.framed (c.framed_declareQueue index queue)
  | consumer index queue => exact inv.framed (c.framed_consumer index queue)
  | closeConsumer index => exact inv.framed (c.framed_closeConsumer index)
  | producer index => exact inv.framed (c.framed_producer index)
  | closeProducer index => exact inv.framed (c.framed_closeProducer index)
  | send index queue message => exact inv.send index queue message
  | recv index => exact inv.recv index bounded
  | ack index => exact inv.ack index

end Accounted

/-- No call forgets a delivery. -/
theorem BrokerCall.length_deliveries_le_perform (c : Clients) (call : BrokerCall) :
    c.deliveries.length ≤ (call.perform c).deliveries.length := by
  have framed : ∀ {after : Clients}, c.Framed after → c.deliveries.length ≤ after.deliveries.length :=
    fun framed => Nat.le_of_eq (congrArg List.length framed.deliveries).symm
  cases call with
  | connect => exact framed c.framed_connect
  | closeConnection index => exact Nat.le_of_eq (congrArg List.length (c.deliveries_closeConnection index)).symm
  | openSession index => exact framed (c.framed_openSession index)
  | closeSession index => exact framed (c.framed_closeSession index)
  | declareQueue index queue => exact framed (c.framed_declareQueue index queue)
  | consumer index queue => exact framed (c.framed_consumer index queue)
  | closeConsumer index => exact framed (c.framed_closeConsumer index)
  | producer index => exact framed (c.framed_producer index)
  | closeProducer index => exact framed (c.framed_closeProducer index)
  | send index queue message => exact Nat.le_of_eq (congrArg List.length (c.deliveries_send index queue message)).symm
  | recv index => exact c.length_deliveries_recv index
  | ack index => exact Nat.le_of_eq (c.length_deliveries_ack index).symm
  | declare | publish | drain | recover | failSends | restoreSends | refuse => exact Nat.le_refl _

theorem BrokerCall.length_deliveries_le_runFrom (start : Clients × Ledger) (calls : List BrokerCall) :
    start.1.deliveries.length ≤ (runFrom start calls).1.deliveries.length := by
  induction calls generalizing start with
  | nil => exact Nat.le_refl _
  | cons call calls ih =>
    obtain ⟨c, l⟩ := start
    exact Nat.le_trans (length_deliveries_le_perform c call) (ih (call.perform c, call.record c l))

/-- A run from bookkept clients stays bookkept, while it hands out at most 2^64 deliveries. -/
theorem Accounted.runFrom {c : Clients} {l : Ledger} (inv : Accounted c l) (calls : List BrokerCall)
    (bounded : (BrokerCall.runFrom (c, l) calls).1.deliveries.length ≤ 2 ^ 64) :
    Accounted (BrokerCall.runFrom (c, l) calls).1 (BrokerCall.runFrom (c, l) calls).2 := by
  induction calls generalizing c l with
  | nil => exact inv
  | cons call calls ih =>
    -- the bound at the end of the run bounds every call on the way
    have room := Nat.le_trans (BrokerCall.length_deliveries_le_runFrom (call.perform c, call.record c l) calls) bounded
    exact ih (inv.perform call room) bounded

/-- Delivery `i` is tagged `i`, so no two deliveries share a tag. -/
theorem Accounted.tags_nodup {c : Clients} {l : Ledger} (inv : Accounted c l) :
    (c.deliveries.map (·.tag)).Nodup := by
  refine List.pairwise_iff_getElem.2 fun first second firstInside secondInside earlier same => ?_
  rw [List.length_map] at firstInside secondInside
  have numbers := congrArg UInt64.toNat same
  simp only [List.getElem_map] at numbers
  rw [inv.numbered first _ (List.getElem?_eq_getElem firstInside),
    inv.numbered second _ (List.getElem?_eq_getElem secondInside)] at numbers
  omega

/-- Once a recover or a close put a delivery's entry back, acknowledging the delivery fails with an
acknowledgement error and changes only the delivery's own record. -/
theorem Accounted.ack_of_putBack {c : Clients} {l : Ledger} (inv : Accounted c l) {index : Nat}
    {delivery : Delivery} (putBack : l.putBack index) (found : c.deliveries[index]? = some delivery)
    (unsettled : delivery.settled = false) :
    ∃ detail, c.ack index =
      (.error (.broker (.ack detail)), { c with deliveries := c.deliveries.set index { delivery with settled := true } }) := by
  refine c.ack_of_not_held found unsettled ?_
  cases held : (c.hub.unackedOf delivery.queue).any (·.1 == delivery.tag) with
  | false => rfl
  | true =>
    obtain ⟨entry, member⟩ := Clients.any_tag_iff.1 held
    have fresh := inv.fresh _ _ _ member
    rw [inv.numbered index delivery found] at fresh
    exact absurd putBack fresh

/-- Over every run of a broker that hands out at most 2^64 deliveries: every message a queue
accepted is acknowledged, drained, ready or parked there, once; what left a queue's ready list,
received or drained, then what is still on it, is what became ready there, in order, each flagged
as redelivered exactly when a requeue put it there; no two deliveries share a tag; an
acknowledgement goes through exactly when its delivery is outstanding, and no delivery's goes
through twice; and once a recover or a connection's close put a delivery's entry back,
acknowledging that delivery fails with an acknowledgement error and changes only its record. -/
theorem broker_run_accounts_for_every_message (calls : List BrokerCall) {c : Clients} {l : Ledger}
    (running : BrokerCall.run calls = (c, l)) (bounded : c.deliveries.length ≤ 2 ^ 64) :
    (∀ queue, (l.accepted queue).Perm (l.acked queue ++ l.drained queue ++
        (c.hub.readyOf queue).map (·.message) ++ (c.hub.unackedOf queue).map (·.2.message))) ∧
      (∀ queue, l.arrived queue = l.departed queue ++ (c.hub.readyOf queue).map Parked.view) ∧
      (c.deliveries.map (·.tag)).Nodup ∧
      (∀ index, (c.ack index).1 = .ok () ↔ c.Outstanding index) ∧
      l.acknowledged.Nodup ∧
      (∀ index delivery, l.putBack index → c.deliveries[index]? = some delivery → delivery.settled = false →
        ∃ detail, c.ack index = (.error (.broker (.ack detail)),
          { c with deliveries := c.deliveries.set index { delivery with settled := true } })) := by
  have inv : Accounted c l := by
    unfold BrokerCall.run at running
    have reached := Accounted.empty.runFrom calls (by rw [running]; exact bounded)
    rwa [running] at reached
  exact ⟨inv.conserved, inv.inOrder, inv.tags_nodup, c.ack_eq_ok_iff, inv.once,
    fun _ _ putBack found unsettled => inv.ack_of_putBack putBack found unsettled⟩

theorem closed_connection_delivery_accounted :
    let calls := [BrokerCall.declare "jobs", .connect, .openSession 0, .consumer 0 "jobs",
      .publish "jobs" (.text "build"), .recv 0, .closeConnection 0]
    (BrokerCall.run calls).1.deliveries.length ≤ 2 ^ 64 ∧
      ((BrokerCall.run calls).2.accepted "jobs").Perm ((BrokerCall.run calls).2.acked "jobs" ++
        (BrokerCall.run calls).2.drained "jobs" ++ ((BrokerCall.run calls).1.hub.readyOf "jobs").map (·.message) ++
        ((BrokerCall.run calls).1.hub.unackedOf "jobs").map (·.2.message)) := by
  intro calls
  have bounded : (BrokerCall.run calls).1.deliveries.length ≤ 2 ^ 64 := by decide
  exact ⟨bounded, (broker_run_accounts_for_every_message calls rfl bounded).1 "jobs"⟩

/-! ### Past 2 ^ 64 deliveries

One consumer takes a message from queue `spin` and a recover puts it back, over and over: each
round uses up one tag and leaves everything else as it was. Once the counter has wrapped, the next
delivery from `jobs` is tagged 0 again and parks over the entry that delivery 0 left there. -/

/-- The clients while a consumer spins on queue `spin`: `jobs` parks delivery 0 under tag 0,
`spin` holds one redelivered message, and the next tag is `tag`. -/
def spinning (tag : UInt64) (deliveries : List Delivery) : Clients :=
  { hub :=
      { queues := [("jobs", ⟨[], [(0, ⟨.text "first", false, 1⟩)]⟩), ("spin", ⟨[⟨.text "spin", true, 1⟩], []⟩)]
        failingSends := [], refusing := false, nextTag := tag, connectionsMade := 1, openConnections := 1
        events := ["open connection 1", "open session", "open consumer jobs", "open consumer spin"] }
    connections := [⟨1, false⟩], sessions := [⟨0, false⟩],
    consumers := [⟨"jobs", 0, false⟩, ⟨"spin", 0, false⟩], producers := [], deliveries }

/-- One round takes the message from `spin` under the next tag and recover puts it back. -/
theorem runFrom_spin (tag : UInt64) (deliveries : List Delivery) (l : Ledger) :
    ∃ l', BrokerCall.runFrom (spinning tag deliveries, l) [.recv 1, .recover "spin"] =
        (spinning (tag + 1) (deliveries ++ [⟨"spin", tag, false⟩]), l') ∧
      l'.accepted = l.accepted ∧ l'.acked = l.acked ∧ l'.drained = l.drained :=
  ⟨_, rfl, rfl, rfl, rfl⟩

/-- `n` rounds of taking from `spin` and recovering it. -/
def spins (n : Nat) : List BrokerCall :=
  (List.replicate n [BrokerCall.recv 1, .recover "spin"]).flatten

theorem spins_succ (n : Nat) : spins (n + 1) = [.recv 1, .recover "spin"] ++ spins n := by
  simp [spins, List.replicate_succ]

/-- Each round moves the counter on by one and adds one delivery; no queue's accepted, acknowledged
or drained messages change. -/
theorem runFrom_spins (n : Nat) (tag : UInt64) (deliveries : List Delivery) (l : Ledger) :
    ∃ l' more, BrokerCall.runFrom (spinning tag deliveries, l) (spins n) =
        (spinning (tag + UInt64.ofNat n) (deliveries ++ more), l') ∧
      more.length = n ∧ l'.accepted = l.accepted ∧ l'.acked = l.acked ∧ l'.drained = l.drained := by
  induction n generalizing tag deliveries l with
  | zero => exact ⟨l, [], by simp [spins, BrokerCall.runFrom], rfl, rfl, rfl, rfl⟩
  | succ n ih =>
    obtain ⟨l₁, round, accepted₁, acked₁, drained₁⟩ := runFrom_spin tag deliveries l
    obtain ⟨l₂, more, rest, length, accepted₂, acked₂, drained₂⟩ := ih (tag + 1) (deliveries ++ [⟨"spin", tag, false⟩]) l₁
    refine ⟨l₂, ⟨"spin", tag, false⟩ :: more, ?_, by simp [length], by rw [accepted₂, accepted₁],
      by rw [acked₂, acked₁], by rw [drained₂, drained₁]⟩
    rw [spins_succ, BrokerCall.runFrom_append, round, rest, UInt64.ofNat_add, List.append_assoc]
    simp only [List.singleton_append]
    congr 2
    rw [UInt64.add_comm (UInt64.ofNat n), ← UInt64.add_assoc]
    rfl

/-- With the counter back at 0, a message published to `jobs` and received is parked over
delivery 0's entry. -/
theorem runFrom_park_over_first (deliveries : List Delivery) (l : Ledger) :
    ∃ c l', BrokerCall.runFrom (spinning 0 deliveries, l) [.publish "jobs" (.text "second"), .recv 0] = (c, l') ∧
      c.deliveries = deliveries ++ [⟨"jobs", 0, false⟩] ∧ c.hub.readyOf "jobs" = [] ∧
      c.hub.unackedOf "jobs" = [(0, ⟨.text "second", false, 1⟩)] ∧
      l'.accepted "jobs" = l.accepted "jobs" ++ [.text "second"] ∧ l'.acked = l.acked ∧ l'.drained = l.drained :=
  ⟨_, _, rfl, rfl, rfl, rfl, rfl, rfl, rfl⟩

/-- A run that hands out `2 ^ 64 + 1` deliveries: delivery 0 parks "first" on `jobs` under tag 0,
`2 ^ 64 - 1` rounds on `spin` bring the counter back to 0, and the last delivery parks "second"
under tag 0 in its place. "first" is then neither acknowledged, drained, ready nor parked, and two
deliveries share tag 0. -/
theorem wrapped_tag_parks_over_first_delivery :
    let calls := [BrokerCall.publish "jobs" (.text "first"), .publish "spin" (.text "spin"), .connect,
      .openSession 0, .consumer 0 "jobs", .consumer 0 "spin", .recv 0] ++ spins (2 ^ 64 - 1) ++
      [.publish "jobs" (.text "second"), .recv 0]
    let c := (BrokerCall.run calls).1
    let l := (BrokerCall.run calls).2
    c.deliveries.length = 2 ^ 64 + 1 ∧
      ¬ (l.accepted "jobs").Perm (l.acked "jobs" ++ l.drained "jobs" ++
        (c.hub.readyOf "jobs").map (·.message) ++ (c.hub.unackedOf "jobs").map (·.2.message)) ∧
      ¬ (c.deliveries.map (·.tag)).Nodup := by
  intro calls c l
  let opening := [BrokerCall.publish "jobs" (.text "first"), .publish "spin" (.text "spin"), .connect,
    .openSession 0, .consumer 0 "jobs", .consumer 0 "spin", .recv 0, .recv 1, .recover "spin"]
  -- delivery 0 parks "first" on jobs under tag 0; delivery 1 comes from spin, which recover refills
  have opened : (BrokerCall.run opening).1 = spinning 2 [⟨"jobs", 0, false⟩, ⟨"spin", 1, false⟩] := rfl
  have firstOnly : (BrokerCall.run opening).2.accepted "jobs" = [.text "first"] ∧
      (BrokerCall.run opening).2.acked "jobs" = [] ∧ (BrokerCall.run opening).2.drained "jobs" = [] := by
    decide
  obtain ⟨l₁, more, spun, length, accepted₁, acked₁, drained₁⟩ :=
    runFrom_spins (2 ^ 64 - 2) 2 [⟨"jobs", 0, false⟩, ⟨"spin", 1, false⟩] (BrokerCall.run opening).2
  -- after 2 ^ 64 - 2 more rounds the tag counter is back at 0
  have wrapped : (2 : UInt64) + UInt64.ofNat (2 ^ 64 - 2) = 0 := by decide
  rw [wrapped] at spun
  obtain ⟨c₂, l₂, last, deliveries₂, ready₂, unacked₂, accepted₂, acked₂, drained₂⟩ :=
    runFrom_park_over_first ([⟨"jobs", 0, false⟩, ⟨"spin", 1, false⟩] ++ more) l₁
  have ran : BrokerCall.run calls = (c₂, l₂) := by
    have split : calls = opening ++ spins (2 ^ 64 - 2) ++ [.publish "jobs" (.text "second"), .recv 0] := by
      simp only [calls, opening, show 2 ^ 64 - 1 = 2 ^ 64 - 2 + 1 by decide, spins_succ]
      simp
    rw [split, BrokerCall.run_append, BrokerCall.run_append, ← Prod.mk.eta (p := BrokerCall.run opening), opened,
      spun, last]
  have cIs : c = c₂ := by simp only [c, ran]
  have lIs : l = l₂ := by simp only [l, ran]
  rw [cIs, lIs, deliveries₂, ready₂, unacked₂, accepted₂, acked₂, drained₂, acked₁, drained₁, accepted₁,
    firstOnly.1, firstOnly.2.1, firstOnly.2.2]
  refine ⟨?_, fun same => ?_, fun distinct => ?_⟩
  · simp [length]
  · have := same.length_eq
    simp at this
  · simp at distinct

end BenchDispatch.Broker
