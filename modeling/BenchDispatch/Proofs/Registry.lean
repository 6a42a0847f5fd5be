import BenchDispatch.Registry.Basic

/-! Reading the registry and the backlog back after each of their operations. Both keep their
tables as lists with one entry per key, where a write drops the key's entries and appends the new
one; a lookup after a write is the written value at that key and the old one elsewhere. Every
operation is stated here through three lookups: the state of a build, whether a target remembers
an id as finished, and the request waiting for a target. -/

set_option autoImplicit false

namespace BenchDispatch

section KeyedList

variable {α κ : Type} [DecidableEq κ] (key : α → κ)

theorem find?_filter_key (entries : List α) (erased wanted : κ) :
    (entries.filter fun entry => key entry != erased).find? (fun entry => key entry == wanted) =
      if erased = wanted then none else entries.find? fun entry => key entry == wanted := by
  rw [List.find?_filter]
  by_cases same : erased = wanted
  · subst same
    simp
  · rw [if_neg same]
    congr 1
    funext entry
    by_cases found : key entry = wanted
    · subst found
      simp [Ne.symm same]
    · simp [found]

theorem find?_replace_key (entries : List α) (entry : α) (wanted : κ) :
    (entries.filter (fun other => key other != key entry) ++ [entry]).find? (fun other => key other == wanted) =
      if key entry = wanted then some entry else entries.find? fun other => key other == wanted := by
  rw [List.find?_append, find?_filter_key]
  by_cases same : key entry = wanted <;> simp [same]

end KeyedList

namespace TargetBuilds

theorem stateOf_track (builds : TargetBuilds) (request : BuildRequest) (state : BuildState) (id : BuildId) :
    (builds.track request state).stateOf id = if request.id = id then some state else builds.stateOf id := by
  have replaced := find?_replace_key (fun record : BuildRecord => record.request.id) builds.active ⟨request, state⟩ id
  simp only at replaced
  simp only [track, stateOf, replaced]
  split <;> simp

theorem stateOf_untrack (builds : TargetBuilds) (removed id : BuildId) :
    (builds.untrack removed).stateOf id = if removed = id then none else builds.stateOf id := by
  have erased := find?_filter_key (fun record : BuildRecord => record.request.id) builds.active removed id
  simp only [untrack, stateOf, erased]
  split <;> simp

@[simp] theorem finished_track (builds : TargetBuilds) (request : BuildRequest) (state : BuildState) :
    (builds.track request state).finished = builds.finished := rfl

@[simp] theorem finished_untrack (builds : TargetBuilds) (removed : BuildId) :
    (builds.untrack removed).finished = builds.finished := rfl

@[simp] theorem active_finish (builds : TargetBuilds) (id : BuildId) : (builds.finish id).active = builds.active := by
  unfold finish
  split <;> rfl

@[simp] theorem stateOf_finish (builds : TargetBuilds) (finished id : BuildId) :
    (builds.finish finished).stateOf id = builds.stateOf id := by
  simp [stateOf]

theorem isFinished_finish (builds : TargetBuilds) (id : BuildId) : (builds.finish id).isFinished id = true := by
  unfold finish isFinished
  split
  · assumption
  · simp

/-- A target is idle exactly when none of its ids has a state. -/
theorem isEmpty_active_iff (builds : TargetBuilds) :
    builds.active.isEmpty = true ↔ ∀ id, builds.stateOf id = none := by
  constructor
  · intro empty id
    simp [List.isEmpty_iff.1 empty, stateOf]
  · intro untracked
    cases listed : builds.active with
    | nil => rfl
    | cons record rest =>
      have first := untracked record.request.id
      simp [stateOf, listed] at first

theorem untrack_of_stateOf_none {builds : TargetBuilds} {id : BuildId} (untracked : builds.stateOf id = none) :
    builds.untrack id = builds := by
  have absent : ∀ record ∈ builds.active, record.request.id ≠ id := by
    intro record member same
    have found := List.find?_eq_none.1 (Option.map_eq_none_iff.1 untracked) record member
    simp [same] at found
  cases builds with
  | mk active finished =>
    simp only [untrack, mk.injEq, and_true]
    exact List.filter_eq_self.2 fun record member => by simpa using absent record member

end TargetBuilds

namespace BuildRegistry

theorem buildsOf_setBuilds (registry : BuildRegistry) (target : BuildTarget) (builds : TargetBuilds)
    (other : BuildTarget) :
    (registry.setBuilds target builds).buildsOf other = if target = other then builds else registry.buildsOf other := by
  have replaced := find?_replace_key Prod.fst registry.targets (target, builds) other
  simp only at replaced
  simp only [buildsOf, setBuilds, replaced]
  split <;> simp

/-- Writing back a target's builds with its history as it was leaves every history as it was. -/
theorem finished_setBuilds (registry : BuildRegistry) (target : BuildTarget) {builds : TargetBuilds}
    (same : builds.finished = (registry.buildsOf target).finished) (other : BuildTarget) :
    ((registry.setBuilds target builds).buildsOf other).finished = (registry.buildsOf other).finished := by
  rw [buildsOf_setBuilds]
  split
  · subst other
    exact same
  · rfl

theorem stateOf_setBuilds (registry : BuildRegistry) (target : BuildTarget) (builds : TargetBuilds)
    (other : BuildTarget) (id : BuildId) :
    (registry.setBuilds target builds).stateOf other id =
      if target = other then builds.stateOf id else registry.stateOf other id := by
  simp only [stateOf, buildsOf_setBuilds]
  split <;> rfl

/-- Tracking a request in a state changes the state of that one build. -/
theorem stateOf_setBuilds_track (registry : BuildRegistry) (request : BuildRequest) (state : BuildState)
    (target : BuildTarget) (id : BuildId) :
    (registry.setBuilds request.target ((registry.buildsOf request.target).track request state)).stateOf target id =
      if request.target = target ∧ request.id = id then some state else registry.stateOf target id := by
  rw [stateOf_setBuilds]
  by_cases here : request.target = target
  · subst here
    simp [TargetBuilds.stateOf_track, stateOf]
  · simp [here]

/-- `insert`, case by case: an untracked id is tracked in the state; an id already in that state
is left as it is; an id in another state is refused. -/
theorem insert_cases (registry : BuildRegistry) (target : BuildTarget) (request : BuildRequest)
    (state : BuildState) :
    (registry.stateOf target request.id = none ∧ registry.insert target request state =
        (true, registry.setBuilds target ((registry.buildsOf target).track request state))) ∨
      (registry.stateOf target request.id = some state ∧ registry.insert target request state = (true, registry)) ∨
      (∃ current, current ≠ state ∧ registry.stateOf target request.id = some current ∧
        registry.insert target request state = (false, registry)) := by
  unfold insert
  simp only [stateOf]
  rcases Option.eq_none_or_eq_some ((registry.buildsOf target).stateOf request.id) with tracked | ⟨current, tracked⟩
  · exact .inl ⟨tracked, by simp [tracked]⟩
  · by_cases same : current = state
    · subst same
      exact .inr (.inl ⟨tracked, by simp [tracked]⟩)
    · exact .inr (.inr ⟨current, same, tracked, by simp [tracked, same]⟩)

/-- `update` moves a build that is in the source state, or that is untracked and not remembered as
finished, to the destination; no other build and no target's finished ids change. -/
theorem stateOf_update (registry : BuildRegistry) (target : BuildTarget) (request : BuildRequest)
    (source destination : BuildState) (other : BuildTarget) (id : BuildId) :
    (registry.update target request source destination).2.stateOf other id =
      if target = other ∧ request.id = id ∧
          (registry.stateOf target request.id = some source ∨
            registry.stateOf target request.id = none ∧ (registry.buildsOf target).isFinished request.id = false)
        then some destination else registry.stateOf other id := by
  unfold update
  simp only [stateOf]
  rcases Option.eq_none_or_eq_some ((registry.buildsOf target).stateOf request.id) with tracked | ⟨current, tracked⟩
  · by_cases finished : (registry.buildsOf target).isFinished request.id = true
    · simp [tracked, finished]
    · simp only [tracked, finished, Bool.false_eq_true, if_false, buildsOf_setBuilds]
      by_cases here : target = other <;> by_cases same : request.id = id <;>
        simp_all [TargetBuilds.stateOf_track]
  · by_cases moved : current = source
    · subst moved
      simp only [tracked, beq_self_eq_true, if_true, buildsOf_setBuilds]
      by_cases here : target = other <;> by_cases same : request.id = id <;>
        simp_all [TargetBuilds.stateOf_track]
    · simp [tracked, moved]

theorem buildsOf_update_finished (registry : BuildRegistry) (target : BuildTarget) (request : BuildRequest)
    (source destination : BuildState) (other : BuildTarget) :
    ((registry.update target request source destination).2.buildsOf other).finished =
      (registry.buildsOf other).finished := by
  unfold update
  rcases Option.eq_none_or_eq_some ((registry.buildsOf target).stateOf request.id) with tracked | ⟨current, tracked⟩
  · by_cases finished : (registry.buildsOf target).isFinished request.id = true
    · simp [tracked, finished]
    · simp only [tracked, finished, Bool.false_eq_true, if_false]
      exact finished_setBuilds registry target (TargetBuilds.finished_track ..) other
  · by_cases moved : current = source
    · simp only [tracked, moved, beq_self_eq_true, if_true]
      exact finished_setBuilds registry target (TargetBuilds.finished_track ..) other
    · simp [tracked, moved]

/-- `update` either leaves the registry as it is or tracks the request in the destination state. -/
theorem update_cases (registry : BuildRegistry) (target : BuildTarget) (request : BuildRequest)
    (source destination : BuildState) :
    (registry.update target request source destination).2 = registry ∨
      (registry.update target request source destination).2 =
        registry.setBuilds target ((registry.buildsOf target).track request destination) := by
  unfold update
  dsimp only
  split
  · split
    · exact .inl rfl
    · exact .inr rfl
  · split
    · exact .inr rfl
    · exact .inl rfl

/-- Admission, case by case: a tracked id is a duplicate in its state, a remembered one a duplicate
in `built`; otherwise a busy target has the request offered to its backlog and an idle one tracks
it in `requesting`. -/
theorem admitRequest_cases (registry : BuildRegistry) (backlog : Backlog) (target : BuildTarget)
    (request : BuildRequest) :
    (∃ state, registry.stateOf target request.id = some state ∧
        registry.admitRequest backlog target request = (.duplicate state, registry, backlog)) ∨
      (registry.stateOf target request.id = none ∧ (registry.buildsOf target).isFinished request.id = true ∧
        registry.admitRequest backlog target request = (.duplicate .built, registry, backlog)) ∨
      (registry.stateOf target request.id = none ∧ (registry.buildsOf target).isFinished request.id = false ∧
        (registry.buildsOf target).active.isEmpty = false ∧
        registry.admitRequest backlog target request = (.backlogged, registry, (backlog.offer target request).2)) ∨
      (registry.stateOf target request.id = none ∧ (registry.buildsOf target).isFinished request.id = false ∧
        (registry.buildsOf target).active.isEmpty = true ∧
        registry.admitRequest backlog target request =
          (.admitted, registry.setBuilds target ((registry.buildsOf target).track request .requesting), backlog)) := by
  unfold admitRequest
  simp only [stateOf]
  rcases Option.eq_none_or_eq_some ((registry.buildsOf target).stateOf request.id) with tracked | ⟨state, tracked⟩
  · by_cases finished : (registry.buildsOf target).isFinished request.id = true
    · exact .inr (.inl ⟨tracked, finished, by simp [tracked, finished]⟩)
    · have remembered : (registry.buildsOf target).isFinished request.id = false := by simpa using finished
      cases idle : (registry.buildsOf target).active.isEmpty with
      | false => exact .inr (.inr (.inl ⟨tracked, remembered, rfl, by simp [tracked, remembered]⟩))
      | true => exact .inr (.inr (.inr ⟨tracked, remembered, rfl, by simp [tracked, remembered]⟩))
  · exact .inl ⟨state, tracked, by simp [tracked]⟩

/-- When the finished build is untracked, or tracked in the expected state or an earlier one,
`complete` drops its record and remembers its id; if the target is idle then, the request waiting
for it is tracked in `requesting` and handed over. -/
theorem complete_of_retires (registry : BuildRegistry) (backlog : Backlog) (target : BuildTarget)
    (request : BuildRequest) (expected : BuildState)
    (retires : ∀ current, registry.stateOf target request.id = some current →
      (current == expected || current.precedes expected) = true) :
    registry.complete backlog target request expected =
      let builds := ((registry.buildsOf target).untrack request.id).finish request.id
      if builds.active.isEmpty then
        match backlog.peek target with
        | some next => (⟨true, some next⟩, registry.setBuilds target (builds.track next .requesting),
            backlog.erase target)
        | none => (⟨true, none⟩, registry.setBuilds target builds, backlog.erase target)
      else (⟨true, none⟩, registry.setBuilds target builds, backlog) := by
  have stated : ∀ current, (registry.buildsOf target).stateOf request.id = some current →
      (current == expected || current.precedes expected) = true := retires
  unfold complete
  rcases Option.eq_none_or_eq_some ((registry.buildsOf target).stateOf request.id) with tracked | ⟨current, tracked⟩
  · simp only [tracked, TargetBuilds.untrack_of_stateOf_none tracked, Backlog.drain]
    split
    · cases backlog.peek target <;> rfl
    · rfl
  · simp only [tracked, stated current tracked, if_true, Backlog.drain]
    split
    · cases backlog.peek target <;> rfl
    · rfl

/-- `complete`, when it retires the build: its record is gone and its id remembered; an idle target
then hands over its waiting request, tracked in `requesting`, and a busy one keeps it waiting. -/
theorem complete_cases {registry : BuildRegistry} {backlog : Backlog} {target : BuildTarget}
    {request : BuildRequest} {expected : BuildState} {completion : Completion} {completed : BuildRegistry}
    {remaining : Backlog}
    (retires : ∀ current, registry.stateOf target request.id = some current →
      (current == expected || current.precedes expected) = true)
    (completing : registry.complete backlog target request expected = (completion, completed, remaining)) :
    let builds := ((registry.buildsOf target).untrack request.id).finish request.id
    completion.removed = true ∧
      ((builds.active.isEmpty = true ∧ completion.next = backlog.peek target ∧ remaining = backlog.erase target ∧
          completed = registry.setBuilds target ((backlog.peek target).elim builds (builds.track · .requesting))) ∨
        (builds.active.isEmpty = false ∧ completion.next = none ∧ remaining = backlog ∧
          completed = registry.setBuilds target builds)) := by
  intro builds
  rw [complete_of_retires registry backlog target request expected retires] at completing
  by_cases idle : builds.active.isEmpty = true
  · cases waiting : backlog.peek target with
    | none =>
      simp only [builds, idle, if_true, waiting, Prod.mk.injEq] at completing
      obtain ⟨rfl, rfl, rfl⟩ := completing
      exact ⟨rfl, .inl ⟨idle, rfl, rfl, rfl⟩⟩
    | some next =>
      simp only [builds, idle, if_true, waiting, Prod.mk.injEq] at completing
      obtain ⟨rfl, rfl, rfl⟩ := completing
      exact ⟨rfl, .inl ⟨idle, rfl, rfl, rfl⟩⟩
  · have busy : builds.active.isEmpty = false := by simpa using idle
    simp only [builds, busy, Bool.false_eq_true, if_false, Prod.mk.injEq] at completing
    obtain ⟨rfl, rfl, rfl⟩ := completing
    exact ⟨rfl, .inr ⟨busy, rfl, rfl, rfl⟩⟩

/-- The state of every build once `complete` retired one: the promoted request is `requesting`, the
retired id is gone, and everything else is as it was. -/
theorem stateOf_complete {registry : BuildRegistry} {backlog : Backlog} {target : BuildTarget}
    {request : BuildRequest} {expected : BuildState} {completion : Completion} {completed : BuildRegistry}
    {remaining : Backlog}
    (retires : ∀ current, registry.stateOf target request.id = some current →
      (current == expected || current.precedes expected) = true)
    (completing : registry.complete backlog target request expected = (completion, completed, remaining))
    (other : BuildTarget) (id : BuildId) :
    completed.stateOf other id =
      if target = other then
        if completion.next.map (·.id) = some id then some .requesting
        else if request.id = id then none else registry.stateOf target id
      else registry.stateOf other id := by
  obtain ⟨-, ⟨-, promoted, -, rfl⟩ | ⟨-, promoted, -, rfl⟩⟩ := complete_cases retires completing
  · rw [promoted]
    simp only [stateOf, buildsOf_setBuilds]
    by_cases here : target = other
    · subst here
      cases backlog.peek target with
      | none => simp [TargetBuilds.stateOf_untrack]
      | some next =>
        by_cases same : next.id = id <;> simp [same, TargetBuilds.stateOf_track, TargetBuilds.stateOf_untrack]
    · simp [here]
  · rw [promoted]
    simp only [stateOf, buildsOf_setBuilds]
    by_cases here : target = other
    · subst here
      simp [TargetBuilds.stateOf_untrack]
    · simp [here]

/-- A request is promoted only from the backlog of a target left with no other build. -/
theorem complete_promoted {registry : BuildRegistry} {backlog : Backlog} {target : BuildTarget}
    {request : BuildRequest} {expected : BuildState} {completion : Completion} {completed : BuildRegistry}
    {remaining : Backlog} {next : BuildRequest}
    (retires : ∀ current, registry.stateOf target request.id = some current →
      (current == expected || current.precedes expected) = true)
    (completing : registry.complete backlog target request expected = (completion, completed, remaining))
    (promoted : completion.next = some next) :
    backlog.peek target = some next ∧ ∀ id, request.id ≠ id → registry.stateOf target id = none := by
  obtain ⟨-, ⟨idle, waiting, -, -⟩ | ⟨-, none, -, -⟩⟩ := complete_cases retires completing
  · refine ⟨waiting ▸ promoted, fun id other => ?_⟩
    have left := (TargetBuilds.isEmpty_active_iff _).1 idle id
    simpa [TargetBuilds.stateOf_untrack, other, stateOf] using left
  · rw [none] at promoted
    cases promoted

/-- A target that hands over its waiting request waits for nothing afterwards. -/
theorem complete_promoted_erases {registry : BuildRegistry} {backlog : Backlog} {target : BuildTarget}
    {request : BuildRequest} {expected : BuildState} {completion : Completion} {completed : BuildRegistry}
    {remaining : Backlog} {next : BuildRequest}
    (retires : ∀ current, registry.stateOf target request.id = some current →
      (current == expected || current.precedes expected) = true)
    (completing : registry.complete backlog target request expected = (completion, completed, remaining))
    (promoted : completion.next = some next) : remaining = backlog.erase target := by
  obtain ⟨-, ⟨-, -, erased, -⟩ | ⟨-, none, -, -⟩⟩ := complete_cases retires completing
  · exact erased
  · rw [none] at promoted
    cases promoted

end BuildRegistry

namespace Backlog

theorem peek_erase (backlog : Backlog) (target other : BuildTarget) :
    (backlog.erase target).peek other = if target = other then none else backlog.peek other := by
  have erased := find?_filter_key Prod.fst backlog.entries target other
  simp only [peek, erase, erased]
  split <;> simp

theorem peek_put (backlog : Backlog) (target : BuildTarget) (request : BuildRequest) (other : BuildTarget) :
    (backlog.put target request).peek other = if target = other then some request else backlog.peek other := by
  have replaced := find?_replace_key Prod.fst backlog.entries (target, request) other
  simp only at replaced
  simp only [peek, put, erase, replaced]
  split <;> simp

theorem peek_offer_of_ne (backlog : Backlog) {target other : BuildTarget} (request : BuildRequest)
    (apart : target ≠ other) : (backlog.offer target request).2.peek other = backlog.peek other := by
  unfold offer
  split
  · split
    · rfl
    · simp [peek_put, apart]
  · simp [peek_put, apart]

/-- After an offer the target waits for the offered request, or for the one it held when that one
is strictly newer. -/
theorem peek_offer_self (backlog : Backlog) (target : BuildTarget) (request : BuildRequest) :
    (backlog.offer target request).2.peek target = some request ∨
      ∃ held, backlog.peek target = some held ∧ held.timestamp.isAfter request.timestamp = true ∧
        (backlog.offer target request).2.peek target = some held := by
  unfold offer
  cases waiting : backlog.peek target with
  | none => simp [peek_put]
  | some held =>
    by_cases newer : held.timestamp.isAfter request.timestamp = true
    · exact .inr ⟨held, rfl, newer, by simp [newer, waiting]⟩
    · simp [newer, peek_put]

/-- An offer keeps the entry it finds, or replaces it by the offered request, which is then not
older than the one it replaces. -/
theorem peek_offer_not_older (backlog : Backlog) (target : BuildTarget) (request : BuildRequest)
    {held : BuildRequest} (waiting : backlog.peek target = some held) :
    (backlog.offer target request).2.peek target = some held ∨
      ((backlog.offer target request).2.peek target = some request ∧
        held.timestamp.isAfter request.timestamp = false) := by
  unfold offer
  rw [waiting]
  by_cases newer : held.timestamp.isAfter request.timestamp = true
  · exact .inl (by simp [newer, waiting])
  · exact .inr ⟨by simp [newer, peek_put], by simpa using newer⟩

end Backlog

end BenchDispatch
