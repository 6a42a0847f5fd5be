import BenchDispatch.Broker.Hub

/-! Sending through the hub. A send to a queue that is declared and not made to fail puts the
message at the back of that queue and changes nothing else; otherwise it fails, with an error that
depends only on whether the queue fails sends. Whether a send goes through is therefore a matter of
the hub's shape alone, its failing queues and the names it declares, which no send changes; and
messages put into a hub land in each queue in the order they were put. -/

set_option autoImplicit false

namespace BenchDispatch.Broker.Hub

/-- The hub with a message at the back of a declared queue; an undeclared name changes nothing. -/
def enqueue (hub : Hub) (name : String) (message : Message) : Hub :=
  match hub.queue? name with
  | some q => hub.setQueue name { q with ready := q.ready ++ [⟨message, false, 0⟩] }
  | none => hub

/-- The hub with each message put at the back of its queue, in order. -/
def enqueueAll (hub : Hub) (sends : List (String × Message)) : Hub :=
  sends.foldl (fun hub send => hub.enqueue send.1 send.2) hub

/-- The messages waiting in a queue, oldest first; none for an undeclared name. -/
def readyMessages (hub : Hub) (name : String) : List Message :=
  ((hub.queue? name).map fun q => q.ready.map (·.message)).getD []

/-- Two hubs on which every send goes through or fails alike. -/
structure SameShape (hub other : Hub) : Prop where
  failing : hub.failingSends = other.failingSends
  declared : ∀ name, (hub.queue? name).isSome = (other.queue? name).isSome

theorem SameShape.refl (hub : Hub) : SameShape hub hub := ⟨rfl, fun _ => rfl⟩

theorem SameShape.symm {hub other : Hub} (same : SameShape hub other) : SameShape other hub :=
  ⟨same.failing.symm, fun name => (same.declared name).symm⟩

theorem SameShape.trans {hub middle other : Hub} (first : SameShape hub middle) (second : SameShape middle other) :
    SameShape hub other :=
  ⟨first.failing.trans second.failing, fun name => (first.declared name).trans (second.declared name)⟩

private theorem lookup_cons_if (key other : String) (value : QueueState) (rest : List (String × QueueState)) :
    ((key, value) :: rest).lookup other = if other = key then some value else rest.lookup other := by
  by_cases same : other = key
  · subst same
    simp
  · simp only [List.lookup_cons, beq_false_of_ne same, if_neg same]

private theorem lookup_map_replace {name other : String} {q : QueueState} (entries : List (String × QueueState)) :
    (entries.map fun entry => if entry.1 = name then (name, q) else entry).lookup other =
      if name = other ∧ entries.any (·.1 == name) then some q else entries.lookup other := by
  induction entries with
  | nil => simp
  | cons entry rest ih =>
    obtain ⟨key, value⟩ := entry
    by_cases named : key = name
    · subst named
      by_cases asked : other = key
      · subst asked
        simp
      · simp [lookup_cons_if, asked, Ne.symm asked, ih]
    · simp only [List.map_cons, if_neg named, lookup_cons_if, ih, List.any_cons, beq_false_of_ne named,
        Bool.false_or]
      by_cases asked : other = key
      · subst asked
        simp [Ne.symm named]
      · simp [asked]

theorem queue?_setQueue (hub : Hub) (name : String) (q : QueueState) (other : String) :
    (hub.setQueue name q).queue? other = if name = other then some q else hub.queue? other := by
  unfold setQueue queue?
  split
  · next present => simp [lookup_map_replace, present]
  · next absent =>
    rw [List.lookup_append]
    by_cases same : name = other
    · subst same
      have missing : hub.queues.lookup name = none := by
        rw [List.lookup_eq_none_iff]
        simp only [List.any_eq_true, beq_iff_eq, not_exists, not_and] at absent
        intro entry member
        exact bne_iff_ne.2 fun same => absent entry member same.symm
      simp [missing]
    · cases hub.queues.lookup other <;> simp [same, Ne.symm same]

@[simp] theorem failingSends_setQueue (hub : Hub) (name : String) (q : QueueState) :
    (hub.setQueue name q).failingSends = hub.failingSends := by
  unfold setQueue
  split <;> rfl

@[simp] theorem failingSends_enqueue (hub : Hub) (name : String) (message : Message) :
    (hub.enqueue name message).failingSends = hub.failingSends := by
  unfold enqueue
  split <;> simp

theorem isSome_queue?_enqueue (hub : Hub) (name : String) (message : Message) (other : String) :
    ((hub.enqueue name message).queue? other).isSome = (hub.queue? other).isSome := by
  unfold enqueue
  split
  · next q declared =>
    rw [queue?_setQueue]
    split
    · next same => subst same; simp [declared]
    · rfl
  · rfl

theorem sameShape_enqueue (hub : Hub) (name : String) (message : Message) :
    SameShape hub (hub.enqueue name message) :=
  ⟨(failingSends_enqueue ..).symm, fun other => (isSome_queue?_enqueue hub name message other).symm⟩

theorem SameShape.enqueue {hub other : Hub} (same : SameShape hub other) (name : String) (message : Message) :
    SameShape (hub.enqueue name message) (other.enqueue name message) :=
  (sameShape_enqueue hub name message).symm.trans (same.trans (sameShape_enqueue other name message))

theorem readyMessages_enqueue (hub : Hub) (name : String) (message : Message) (other : String) :
    (hub.enqueue name message).readyMessages other =
      hub.readyMessages other ++ if name = other ∧ (hub.queue? name).isSome then [message] else [] := by
  unfold enqueue readyMessages
  split
  · next q declared =>
    rw [queue?_setQueue]
    by_cases same : name = other
    · subst same
      simp [declared]
    · simp [same]
  · next undeclared => simp [undeclared]

@[simp] theorem enqueueAll_nil (hub : Hub) : hub.enqueueAll [] = hub := rfl

theorem enqueueAll_cons (hub : Hub) (send : String × Message) (sends : List (String × Message)) :
    hub.enqueueAll (send :: sends) = (hub.enqueue send.1 send.2).enqueueAll sends := rfl

theorem enqueueAll_append (hub : Hub) (first second : List (String × Message)) :
    hub.enqueueAll (first ++ second) = (hub.enqueueAll first).enqueueAll second :=
  List.foldl_append ..

theorem sameShape_enqueueAll (hub : Hub) (sends : List (String × Message)) : SameShape hub (hub.enqueueAll sends) := by
  induction sends generalizing hub with
  | nil => exact .refl hub
  | cons send sends ih => exact (sameShape_enqueue hub send.1 send.2).trans (ih _)

theorem SameShape.enqueueAll {hub other : Hub} (same : SameShape hub other) (sends : List (String × Message)) :
    SameShape (hub.enqueueAll sends) (other.enqueueAll sends) :=
  (sameShape_enqueueAll hub sends).symm.trans (same.trans (sameShape_enqueueAll other sends))

/-- What the messages put into a hub add to a queue: those sent to it, in order, when it is
declared. -/
theorem readyMessages_enqueueAll (hub : Hub) (sends : List (String × Message)) (name : String) :
    (hub.enqueueAll sends).readyMessages name =
      hub.readyMessages name ++
        if (hub.queue? name).isSome then (sends.filter (·.1 = name)).map (·.2) else [] := by
  induction sends generalizing hub with
  | nil => simp
  | cons send sends ih =>
    rw [enqueueAll_cons, ih, readyMessages_enqueue, isSome_queue?_enqueue]
    by_cases same : send.1 = name
    · subst same
      by_cases declared : (hub.queue? send.1).isSome <;> simp [declared]
    · simp [same]

/-- Two batches of messages put into a hub in either order: each queue gets the first batch's
messages for it and the second's, as two blocks in the order they were put. -/
theorem readyMessages_enqueueAll_swap (hub : Hub) (first second : List (String × Message)) (name : String) :
    ∃ early late : List Message,
      ((hub.enqueueAll first).enqueueAll second).readyMessages name = hub.readyMessages name ++ early ++ late ∧
      ((hub.enqueueAll second).enqueueAll first).readyMessages name = hub.readyMessages name ++ late ++ early ∧
      (∀ message ∈ early, ∃ send ∈ first, send.2 = message) ∧ (∀ message ∈ late, ∃ send ∈ second, send.2 = message) := by
  have declaredFirst := (sameShape_enqueueAll hub first).declared name
  have declaredSecond := (sameShape_enqueueAll hub second).declared name
  -- what a batch adds to the queue, when the queue is declared
  let added (sends : List (String × Message)) : List Message :=
    if (hub.queue? name).isSome then (sends.filter (·.1 = name)).map (·.2) else []
  have fromBatch : ∀ sends message, message ∈ added sends → ∃ send ∈ sends, send.2 = message := by
    intro sends message member
    simp only [added] at member
    split at member
    · obtain ⟨send, kept, rfl⟩ := List.mem_map.1 member
      exact ⟨send, (List.mem_filter.1 kept).1, rfl⟩
    · cases member
  refine ⟨added first, added second, ?_, ?_, fromBatch first, fromBatch second⟩
  · rw [readyMessages_enqueueAll, readyMessages_enqueueAll, ← declaredFirst, List.append_assoc]
  · rw [readyMessages_enqueueAll, readyMessages_enqueueAll, ← declaredSecond, List.append_assoc]

/-- A send goes through, putting its message at the back of its queue, exactly when the queue is
declared and does not fail sends. -/
theorem send_eq (hub : Hub) (name : String) (message : Message) :
    hub.send name message =
      if hub.failingSends.contains name then .error (.send name "send rejected by broker")
      else if (hub.queue? name).isSome then .ok (hub.enqueue name message)
      else .error (.unknownQueue name) := by
  unfold send enqueue
  split
  · rfl
  · cases hub.queue? name <;> rfl

/-- On hubs of the same shape a send goes through on both or fails on both with the same error. -/
theorem SameShape.send {hub other : Hub} (same : SameShape hub other) (name : String) (message : Message) :
    (hub.send name message = .ok (hub.enqueue name message) ∧
        other.send name message = .ok (other.enqueue name message)) ∨
      ∃ cause, hub.send name message = .error cause ∧ other.send name message = .error cause := by
  rw [send_eq, send_eq, same.failing, same.declared]
  split
  · exact .inr ⟨_, rfl, rfl⟩
  · split
    · exact .inl ⟨rfl, rfl⟩
    · exact .inr ⟨_, rfl, rfl⟩

end BenchDispatch.Broker.Hub
