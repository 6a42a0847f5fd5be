import BenchDispatch.Proofs.Hub

/-! The entries of each queue after each operation of the hub, read through two views: the
entries waiting to be handed out (`readyOf`) and those handed out and not yet acknowledged
(`unackedOf`), both empty for a name that is not declared. Publishing and an accepted send add an
entry at the tail of the waiting list; taking removes its head and parks it under the next tag;
recovering a queue, or closing a connection, moves parked entries back to the tail, flagged; an
acknowledgement removes the entries parked under its tag; everything else leaves both views and the
tag counter alone. -/

set_option autoImplicit false

namespace BenchDispatch.Broker

/-- The entries a requeue puts back, flagged as handed out before. -/
def requeued (entries : List (UInt64 × Parked)) : List Parked :=
  entries.map fun entry => { entry.2 with redelivered := true }

@[simp] theorem requeued_nil : requeued [] = [] := rfl

@[simp] theorem requeued_append (first second : List (UInt64 × Parked)) :
    requeued (first ++ second) = requeued first ++ requeued second := List.map_append ..

@[simp] theorem map_message_requeued (entries : List (UInt64 × Parked)) :
    (requeued entries).map (·.message) = entries.map (·.2.message) := by
  simp [requeued]

namespace QueueState

theorem requeue_eq (q : QueueState) (only : Option Nat) :
    q.requeue only =
      ((q.unacked.filter fun entry => only.all (· == entry.2.connection)).length,
        { ready := q.ready ++ requeued (q.unacked.filter fun entry => only.all (· == entry.2.connection)),
          unacked := q.unacked.filter fun entry => !only.all (· == entry.2.connection) }) := rfl

/-- Parking under a tag above every tag in use adds the entry last. -/
theorem park_of_lt {entries : List (UInt64 × Parked)} {tag : UInt64} (above : ∀ entry ∈ entries, entry.1 < tag)
    (parked : Parked) : park entries tag parked = entries ++ [(tag, parked)] := by
  induction entries with
  | nil => rfl
  | cons entry rest ih =>
    obtain ⟨other, held⟩ := entry
    have below : other < tag := above _ List.mem_cons_self
    have notBelow : ¬ tag < other := fun lt => absurd (UInt64.lt_trans lt below) (UInt64.lt_irrefl tag)
    have apart : tag ≠ other := fun same => absurd (same ▸ below) (UInt64.lt_irrefl tag)
    simp only [park, if_neg notBelow, if_neg apart, List.cons_append,
      ih fun entry member => above entry (List.mem_cons_of_mem _ member)]

end QueueState

namespace Hub

variable (hub : Hub)

/-- The entries of a queue waiting to be handed out, oldest first. -/
def readyOf (name : String) : List Parked :=
  ((hub.queue? name).map (·.ready)).getD []

/-- The entries of a queue handed out and not acknowledged, with their tags. -/
def unackedOf (name : String) : List (UInt64 × Parked) :=
  ((hub.queue? name).map (·.unacked)).getD []

theorem readyOf_setQueue (name : String) (q : QueueState) (other : String) :
    (hub.setQueue name q).readyOf other = if name = other then q.ready else hub.readyOf other := by
  simp only [readyOf, queue?_setQueue]
  split <;> rfl

theorem unackedOf_setQueue (name : String) (q : QueueState) (other : String) :
    (hub.setQueue name q).unackedOf other = if name = other then q.unacked else hub.unackedOf other := by
  simp only [unackedOf, queue?_setQueue]
  split <;> rfl

@[simp] theorem nextTag_setQueue (name : String) (q : QueueState) : (hub.setQueue name q).nextTag = hub.nextTag := by
  unfold setQueue
  split <;> rfl

theorem readyOf_of_queue? {name : String} {q : QueueState} (found : hub.queue? name = some q) :
    hub.readyOf name = q.ready := by
  simp [readyOf, found]

theorem unackedOf_of_queue? {name : String} {q : QueueState} (found : hub.queue? name = some q) :
    hub.unackedOf name = q.unacked := by
  simp [unackedOf, found]

/-- Two hubs with the same entries in every queue and the same next delivery tag. -/
structure SameQueues (other : Hub) : Prop where
  ready : ∀ name, other.readyOf name = hub.readyOf name
  unacked : ∀ name, other.unackedOf name = hub.unackedOf name
  nextTag : other.nextTag = hub.nextTag

theorem SameQueues.refl : hub.SameQueues hub := ⟨fun _ => rfl, fun _ => rfl, rfl⟩

theorem SameQueues.trans {middle other : Hub} (first : hub.SameQueues middle) (second : middle.SameQueues other) :
    hub.SameQueues other :=
  ⟨fun name => (second.ready name).trans (first.ready name),
    fun name => (second.unacked name).trans (first.unacked name), second.nextTag.trans first.nextTag⟩

/-- A change that leaves the queue table and the tag counter alone keeps every entry. -/
theorem sameQueues_of_fields {other : Hub} (queues : other.queues = hub.queues) (nextTag : other.nextTag = hub.nextTag) :
    hub.SameQueues other :=
  ⟨fun name => by simp [readyOf, queue?, queues], fun name => by simp [unackedOf, queue?, queues], nextTag⟩

theorem sameQueues_record (event : String) : hub.SameQueues (hub.record event) :=
  sameQueues_of_fields hub rfl rfl

theorem sameQueues_failSends (name : String) : hub.SameQueues (hub.failSends name) := by
  unfold failSends
  split
  · exact .refl hub
  · exact sameQueues_of_fields hub rfl rfl

theorem sameQueues_restoreSends (name : String) : hub.SameQueues (hub.restoreSends name) :=
  sameQueues_of_fields hub rfl rfl

theorem sameQueues_refuseConnections (refuse : Bool) : hub.SameQueues (hub.refuseConnections refuse) :=
  sameQueues_of_fields hub rfl rfl

theorem sameQueues_connect {id : Nat} {opened : Hub} (connecting : hub.connect = .ok (id, opened)) :
    hub.SameQueues opened := by
  unfold connect at connecting
  split at connecting
  · cases connecting
  · cases connecting
    exact sameQueues_of_fields hub rfl rfl

/-- Declaring a queue that does not exist adds it empty, which the views cannot tell from absent. -/
theorem sameQueues_declare (name : String) : hub.SameQueues (hub.declare name) := by
  unfold declare
  cases declared : hub.queue? name with
  | some q => exact .refl hub
  | none =>
    refine ⟨fun other => ?_, fun other => ?_, nextTag_setQueue ..⟩
    · rw [readyOf_setQueue]
      split
      · next same => subst same; simp [readyOf, declared, QueueState.empty]
      · rfl
    · rw [unackedOf_setQueue]
      split
      · next same => subst same; simp [unackedOf, declared, QueueState.empty]
      · rfl

/-! ### Adding at the tail -/

theorem readyOf_publish (name : String) (message : Message) (other : String) :
    (hub.publish name message).readyOf other =
      if name = other then hub.readyOf other ++ [⟨message, false, 0⟩] else hub.readyOf other := by
  unfold publish
  rw [readyOf_setQueue]
  split
  · next same => subst same; simp only [readyOf]; cases hub.queue? name <;> rfl
  · rfl

theorem unackedOf_publish (name : String) (message : Message) (other : String) :
    (hub.publish name message).unackedOf other = hub.unackedOf other := by
  unfold publish
  rw [unackedOf_setQueue]
  split
  · next same => subst same; simp only [unackedOf]; cases hub.queue? name <;> rfl
  · rfl

@[simp] theorem nextTag_publish (name : String) (message : Message) : (hub.publish name message).nextTag = hub.nextTag :=
  nextTag_setQueue ..

theorem readyOf_enqueue {name : String} (declared : (hub.queue? name).isSome) (message : Message) (other : String) :
    (hub.enqueue name message).readyOf other =
      if name = other then hub.readyOf other ++ [⟨message, false, 0⟩] else hub.readyOf other := by
  obtain ⟨q, found⟩ := Option.isSome_iff_exists.1 declared
  simp only [enqueue, found, readyOf_setQueue]
  split
  · next same => subst same; rw [readyOf_of_queue? hub found]
  · rfl

theorem unackedOf_enqueue (name : String) (message : Message) (other : String) :
    (hub.enqueue name message).unackedOf other = hub.unackedOf other := by
  unfold enqueue
  split
  · next q found =>
    rw [unackedOf_setQueue]
    split
    · next same => subst same; rw [unackedOf_of_queue? hub found]
    · rfl
  · rfl

@[simp] theorem nextTag_enqueue (name : String) (message : Message) : (hub.enqueue name message).nextTag = hub.nextTag := by
  unfold enqueue
  split
  · exact nextTag_setQueue ..
  · rfl

/-! ### Draining -/

theorem drain_fst (name : String) : (hub.drain name).1 = (hub.readyOf name).map (·.message) := by
  unfold drain readyOf
  cases hub.queue? name <;> rfl

theorem readyOf_drain (name other : String) :
    (hub.drain name).2.readyOf other = if name = other then [] else hub.readyOf other := by
  cases found : hub.queue? name with
  | none =>
    simp only [drain, found]
    by_cases same : name = other
    · subst same
      simp [readyOf, found]
    · simp [same]
  | some q =>
    simp only [drain, found]
    exact readyOf_setQueue ..

theorem unackedOf_drain (name other : String) : (hub.drain name).2.unackedOf other = hub.unackedOf other := by
  cases found : hub.queue? name with
  | none => simp only [drain, found]
  | some q =>
    simp only [drain, found, unackedOf_setQueue]
    split
    · next same => subst same; rw [unackedOf_of_queue? hub found]
    · rfl

@[simp] theorem nextTag_drain (name : String) : (hub.drain name).2.nextTag = hub.nextTag := by
  unfold drain
  split
  · rfl
  · exact nextTag_setQueue ..

/-! ### Putting parked entries back -/

theorem readyOf_recover (name other : String) :
    (hub.recover name).2.readyOf other =
      if name = other then hub.readyOf other ++ requeued (hub.unackedOf other) else hub.readyOf other := by
  cases found : hub.queue? name with
  | none =>
    simp only [recover, found]
    by_cases same : name = other
    · subst same
      simp [readyOf, unackedOf, found]
    · simp [same]
  | some q =>
    simp only [recover, found, QueueState.requeue_eq, Option.all_none, readyOf_setQueue]
    split
    · next same =>
      subst same
      rw [readyOf_of_queue? hub found, unackedOf_of_queue? hub found, List.filter_eq_self.2 fun _ _ => rfl]
    · rfl

theorem unackedOf_recover (name other : String) :
    (hub.recover name).2.unackedOf other = if name = other then [] else hub.unackedOf other := by
  cases found : hub.queue? name with
  | none =>
    simp only [recover, found]
    by_cases same : name = other
    · subst same
      simp [unackedOf, found]
    · simp [same]
  | some q =>
    simp only [recover, found, QueueState.requeue_eq, unackedOf_setQueue]
    split
    · exact List.filter_eq_nil_iff.2 fun _ _ => by simp
    · rfl

@[simp] theorem nextTag_recover (name : String) : (hub.recover name).2.nextTag = hub.nextTag := by
  unfold recover
  split
  · rfl
  · exact nextTag_setQueue ..

/-- A requeue of every queue's table, read through a name, is the requeue of that name's queue. -/
private theorem lookup_map_requeue (queues : List (String × QueueState)) (id : Nat) (name : String) :
    (queues.map fun entry => (entry.1, (entry.2.requeue (some id)).2)).lookup name =
      (queues.lookup name).map fun q => (q.requeue (some id)).2 := by
  induction queues with
  | nil => rfl
  | cons entry rest ih =>
    obtain ⟨key, q⟩ := entry
    by_cases same : name = key
    · subst same
      simp
    · simp [List.lookup_cons, beq_false_of_ne same, ih]

/-- The entries parked by a connection, which its closing puts back. -/
def parkedBy (id : Nat) (entries : List (UInt64 × Parked)) : List (UInt64 × Parked) :=
  entries.filter fun entry => id == entry.2.connection

theorem readyOf_closeConnection (id : Nat) (name : String) :
    (hub.closeConnection id).readyOf name = hub.readyOf name ++ requeued (parkedBy id (hub.unackedOf name)) := by
  simp only [closeConnection, record, readyOf, unackedOf, queue?]
  rw [lookup_map_requeue]
  cases hub.queues.lookup name <;> simp [QueueState.requeue_eq, parkedBy]

theorem unackedOf_closeConnection (id : Nat) (name : String) :
    (hub.closeConnection id).unackedOf name = (hub.unackedOf name).filter fun entry => !(id == entry.2.connection) := by
  simp only [closeConnection, record, unackedOf, queue?]
  rw [lookup_map_requeue]
  cases hub.queues.lookup name <;> simp [QueueState.requeue_eq]

@[simp] theorem nextTag_closeConnection (id : Nat) : (hub.closeConnection id).nextTag = hub.nextTag := rfl

/-! ### Taking -/

/-- A queue with nothing waiting hands nothing out and changes nothing. -/
theorem take_of_readyOf_nil {name : String} (empty : hub.readyOf name = []) (connection : Nat) :
    (hub.take name connection).2 = hub ∧ ∀ tag message redelivered,
      (hub.take name connection).1 ≠ .delivered tag message redelivered := by
  unfold take
  cases found : hub.queue? name with
  | none => exact ⟨rfl, fun _ _ _ => by simp⟩
  | some q =>
    rw [readyOf_of_queue? hub found] at empty
    simp [empty]

/-- Taking from a queue with an entry waiting hands that entry out under the next tag, and parks it
as received on the taker's connection. -/
theorem take_of_readyOf_cons {name : String} {head : Parked} {rest : List Parked}
    (waiting : hub.readyOf name = head :: rest) (connection : Nat) :
    (hub.take name connection).1 = .delivered hub.nextTag head.message head.redelivered ∧
      (∀ other, (hub.take name connection).2.readyOf other = if name = other then rest else hub.readyOf other) ∧
      (∀ other, (hub.take name connection).2.unackedOf other =
        if name = other then QueueState.park (hub.unackedOf name) hub.nextTag { head with connection }
        else hub.unackedOf other) ∧
      (hub.take name connection).2.nextTag = hub.nextTag + 1 := by
  unfold take
  cases found : hub.queue? name with
  | none => simp [readyOf, found] at waiting
  | some q =>
    rw [readyOf_of_queue? hub found] at waiting
    simp only [waiting]
    refine ⟨by simp, fun other => ?_, fun other => ?_, by simp⟩
    · exact readyOf_setQueue ..
    · rw [← unackedOf_of_queue? hub found]
      exact unackedOf_setQueue ..

/-! ### Acknowledging -/

theorem acknowledge_eq (name : String) (tag : UInt64) :
    hub.acknowledge name tag =
      if (hub.unackedOf name).any (·.1 == tag) then
        .ok (hub.setQueue name { ready := hub.readyOf name, unacked := (hub.unackedOf name).filter (·.1 != tag) })
      else .error (.ack s!"delivery {tag} on '{name}' is no longer outstanding") := by
  unfold acknowledge
  cases found : hub.queue? name with
  | none => simp [unackedOf, found]
  | some q =>
    rw [readyOf_of_queue? hub found, unackedOf_of_queue? hub found]

end Hub

end BenchDispatch.Broker
