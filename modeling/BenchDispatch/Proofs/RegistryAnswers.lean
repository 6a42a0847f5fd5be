import BenchDispatch.Proofs.Registry

/-! What each registry operation answers, and what it leaves alone. The answer of `insert`,
`insertIfAbsent`, `update`, `remove` and `admitRequest` is fixed by the record of the one build
they are about and by whether its target remembers the id as finished; a call whose answer is a
refusal changes nothing, and every call keeps every other build's record, every target's finished
ids, and the backlog entries of every other target. -/

set_option autoImplicit false

namespace BenchDispatch

namespace TargetBuilds

/-- The record of the build with an id. -/
def recordOf (builds : TargetBuilds) (id : BuildId) : Option BuildRecord :=
  builds.active.find? (·.request.id == id)

theorem stateOf_eq (builds : TargetBuilds) (id : BuildId) :
    builds.stateOf id = (builds.recordOf id).map (·.state) := rfl

theorem recordOf_track (builds : TargetBuilds) (request : BuildRequest) (state : BuildState) (id : BuildId) :
    (builds.track request state).recordOf id = if request.id = id then some ⟨request, state⟩ else builds.recordOf id :=
  find?_replace_key (fun record : BuildRecord => record.request.id) builds.active ⟨request, state⟩ id

theorem recordOf_untrack (builds : TargetBuilds) (removed id : BuildId) :
    (builds.untrack removed).recordOf id = if removed = id then none else builds.recordOf id :=
  find?_filter_key (fun record : BuildRecord => record.request.id) builds.active removed id

end TargetBuilds

namespace BuildRegistry

/-- The record of a target's build with an id. -/
def recordOf (registry : BuildRegistry) (target : BuildTarget) (id : BuildId) : Option BuildRecord :=
  (registry.buildsOf target).recordOf id

theorem stateOf_eq (registry : BuildRegistry) (target : BuildTarget) (id : BuildId) :
    registry.stateOf target id = (registry.recordOf target id).map (·.state) := rfl

theorem recordOf_setBuilds (registry : BuildRegistry) (target : BuildTarget) (builds : TargetBuilds)
    (other : BuildTarget) (id : BuildId) :
    (registry.setBuilds target builds).recordOf other id =
      if target = other then builds.recordOf id else registry.recordOf other id := by
  simp only [recordOf, buildsOf_setBuilds]
  split <;> rfl

/-- `after` differs from `before` at most in the record of the build `id` of `target`: every
other record and every target's finished ids are as they were. -/
structure KeepsAllBut (target : BuildTarget) (id : BuildId) (before after : BuildRegistry) : Prop where
  recordOf : ∀ other otherId, (other, otherId) ≠ (target, id) →
    after.recordOf other otherId = before.recordOf other otherId
  finished : ∀ other, (after.buildsOf other).finished = (before.buildsOf other).finished

theorem KeepsAllBut.refl (target : BuildTarget) (id : BuildId) (registry : BuildRegistry) :
    KeepsAllBut target id registry registry :=
  ⟨fun _ _ _ => rfl, fun _ => rfl⟩

/-- Tracking a request changes its own record only. -/
theorem keepsAllBut_track (registry : BuildRegistry) (target : BuildTarget) (request : BuildRequest)
    (state : BuildState) :
    KeepsAllBut target request.id registry
      (registry.setBuilds target ((registry.buildsOf target).track request state)) := by
  refine ⟨fun other otherId apart => ?_, finished_setBuilds registry target (TargetBuilds.finished_track ..)⟩
  rw [recordOf_setBuilds]
  by_cases here : target = other
  · subst here
    have differs : request.id ≠ otherId := fun same => apart (by rw [same])
    rw [if_pos rfl, TargetBuilds.recordOf_track, if_neg differs]
    rfl
  · rw [if_neg here]

/-- Untracking a build changes its own record only. -/
theorem keepsAllBut_untrack (registry : BuildRegistry) (target : BuildTarget) (id : BuildId) :
    KeepsAllBut target id registry (registry.setBuilds target ((registry.buildsOf target).untrack id)) := by
  refine ⟨fun other otherId apart => ?_, finished_setBuilds registry target (TargetBuilds.finished_untrack ..)⟩
  rw [recordOf_setBuilds]
  by_cases here : target = other
  · subst here
    have differs : id ≠ otherId := fun same => apart (by rw [same])
    rw [if_pos rfl, TargetBuilds.recordOf_untrack, if_neg differs]
    rfl
  · rw [if_neg here]

theorem recordOf_track_self (registry : BuildRegistry) (target : BuildTarget) (request : BuildRequest)
    (state : BuildState) :
    (registry.setBuilds target ((registry.buildsOf target).track request state)).recordOf target request.id =
      some ⟨request, state⟩ := by
  rw [recordOf_setBuilds, if_pos rfl, TargetBuilds.recordOf_track, if_pos rfl]

theorem stateOf_untrack_self (registry : BuildRegistry) (target : BuildTarget) (id : BuildId) :
    (registry.setBuilds target ((registry.buildsOf target).untrack id)).stateOf target id = none := by
  rw [stateOf_eq, recordOf_setBuilds, if_pos rfl, TargetBuilds.recordOf_untrack, if_pos rfl]
  rfl

theorem isFinished_eq_false_iff (builds : TargetBuilds) (id : BuildId) :
    builds.isFinished id = false ↔ id ∉ builds.finished := by
  simp [TargetBuilds.isFinished]

/-- With the request's own build untracked, its target is busy exactly when another build of it
is tracked. -/
theorem isEmpty_active_eq_false_iff {registry : BuildRegistry} {target : BuildTarget} {request : BuildRequest}
    (untracked : registry.stateOf target request.id = none) :
    (registry.buildsOf target).active.isEmpty = false ↔
      ∃ id state, id ≠ request.id ∧ registry.stateOf target id = some state := by
  rw [← Bool.not_eq_true, TargetBuilds.isEmpty_active_iff]
  constructor
  · intro busy
    obtain ⟨id, tracked⟩ := Classical.not_forall.1 busy
    obtain ⟨state, tracked⟩ := Option.ne_none_iff_exists'.1 tracked
    refine ⟨id, state, fun same => ?_, tracked⟩
    have ownState : registry.stateOf target request.id = some state := same ▸ tracked
    rw [untracked] at ownState
    cases ownState
  · rintro ⟨id, state, -, tracked⟩ idle
    simp [stateOf, idle id] at tracked

section Answers

variable (registry : BuildRegistry) (target : BuildTarget) (request : BuildRequest)

/-- `insert` answers true exactly when the build is in the state afterwards; it tracks an untracked
build and leaves the registry as it is otherwise. -/
theorem insert_spec (state : BuildState) :
    ((registry.insert target request state).1 = true ↔
        (registry.insert target request state).2.stateOf target request.id = some state) ∧
      (registry.stateOf target request.id = none →
        (registry.insert target request state).2.recordOf target request.id = some ⟨request, state⟩) ∧
      (registry.stateOf target request.id ≠ none → (registry.insert target request state).2 = registry) ∧
      KeepsAllBut target request.id registry (registry.insert target request state).2 := by
  rcases insert_cases registry target request state with
    ⟨untracked, inserting⟩ | ⟨tracked, inserting⟩ | ⟨current, other, tracked, inserting⟩
  · rw [inserting]
    refine ⟨?_, fun _ => recordOf_track_self .., fun tracked => absurd untracked tracked, keepsAllBut_track ..⟩
    simp [stateOf_eq, recordOf_track_self]
  · rw [inserting]
    exact ⟨by simp [tracked], fun untracked => by simp [untracked] at tracked, fun _ => rfl, .refl ..⟩
  · rw [inserting]
    exact ⟨by simp [tracked, other], fun untracked => by simp [untracked] at tracked, fun _ => rfl, .refl ..⟩

/-- `insertIfAbsent` answers true exactly when the build was untracked, and only then tracks it. -/
theorem insertIfAbsent_spec (state : BuildState) :
    ((registry.insertIfAbsent target request state).1 = true ↔ registry.stateOf target request.id = none) ∧
      ((registry.insertIfAbsent target request state).1 = true →
        (registry.insertIfAbsent target request state).2.recordOf target request.id = some ⟨request, state⟩) ∧
      ((registry.insertIfAbsent target request state).1 = false →
        (registry.insertIfAbsent target request state).2 = registry) ∧
      KeepsAllBut target request.id registry (registry.insertIfAbsent target request state).2 := by
  unfold insertIfAbsent
  dsimp only
  cases tracked : (registry.buildsOf target).stateOf request.id with
  | none =>
    have untracked : registry.stateOf target request.id = none := tracked
    exact ⟨by simp [untracked], fun _ => recordOf_track_self .., by simp, keepsAllBut_track ..⟩
  | some current =>
    have tracked' : registry.stateOf target request.id = some current := tracked
    exact ⟨by simp [tracked'], by simp, fun _ => rfl, .refl ..⟩

/-- `update` moves the build when it is in the source state, or untracked and not finished. -/
theorem update_eq (source destination : BuildState) :
    registry.update target request source destination =
      if registry.stateOf target request.id = some source ∨
          (registry.stateOf target request.id = none ∧ request.id ∉ (registry.buildsOf target).finished)
        then (true, registry.setBuilds target ((registry.buildsOf target).track request destination))
        else (false, registry) := by
  unfold update
  dsimp only
  cases tracked : (registry.buildsOf target).stateOf request.id with
  | none =>
    have untracked : registry.stateOf target request.id = none := tracked
    by_cases finished : request.id ∈ (registry.buildsOf target).finished
    · have remembered : (registry.buildsOf target).isFinished request.id = true := by
        simpa [TargetBuilds.isFinished] using finished
      simp [untracked, finished, remembered]
    · have forgotten : (registry.buildsOf target).isFinished request.id = false :=
        (isFinished_eq_false_iff _ _).2 finished
      simp [untracked, finished, forgotten]
  | some current =>
    have tracked' : registry.stateOf target request.id = some current := tracked
    by_cases moved : current = source
    · simp [tracked', moved]
    · simp [tracked', moved]

/-- `update` answers true exactly when the build is in the source state, or untracked and not
finished; then the build is in the destination state, and otherwise nothing changes. -/
theorem update_spec (source destination : BuildState) :
    ((registry.update target request source destination).1 = true ↔
        registry.stateOf target request.id = some source ∨
          (registry.stateOf target request.id = none ∧ request.id ∉ (registry.buildsOf target).finished)) ∧
      ((registry.update target request source destination).1 = true →
        (registry.update target request source destination).2.recordOf target request.id =
          some ⟨request, destination⟩) ∧
      ((registry.update target request source destination).1 = false →
        (registry.update target request source destination).2 = registry) ∧
      KeepsAllBut target request.id registry (registry.update target request source destination).2 := by
  rw [update_eq]
  split
  · rename_i moves
    exact ⟨by simp [moves], fun _ => recordOf_track_self .., by simp, keepsAllBut_track ..⟩
  · rename_i stays
    exact ⟨by simp [stays], by simp, fun _ => rfl, .refl ..⟩

/-- `remove` answers true exactly when the build is untracked afterwards; a refusal changes
nothing. -/
theorem remove_spec (expected : BuildState) :
    ((registry.remove target request expected).1 = true ↔
        (registry.remove target request expected).2.stateOf target request.id = none) ∧
      ((registry.remove target request expected).1 = false → (registry.remove target request expected).2 = registry) ∧
      KeepsAllBut target request.id registry (registry.remove target request expected).2 := by
  unfold remove
  dsimp only
  cases tracked : (registry.buildsOf target).stateOf request.id with
  | none =>
    have untracked : registry.stateOf target request.id = none := tracked
    exact ⟨by simp [untracked], by simp, .refl ..⟩
  | some current =>
    have tracked' : registry.stateOf target request.id = some current := tracked
    by_cases removed : current = expected
    · simp only [removed, beq_self_eq_true, if_true]
      exact ⟨by simp [stateOf_untrack_self], by simp, keepsAllBut_untrack ..⟩
    · simp only [beq_iff_eq, removed, if_false]
      exact ⟨by simp [tracked'], by simp, .refl ..⟩

/-- Admission answers by the build's own record first, then by its target's finished ids, then by
whether another build of the target is tracked. A duplicate changes nothing, a backlogged request
is offered to its target's backlog entry only, and an admitted one is tracked in `requesting`. -/
theorem admitRequest_spec (backlog : Backlog) :
    (∀ state, (registry.admitRequest backlog target request).1 = .duplicate state ↔
        registry.stateOf target request.id = some state ∨
          (registry.stateOf target request.id = none ∧ request.id ∈ (registry.buildsOf target).finished ∧
            state = .built)) ∧
      ((registry.admitRequest backlog target request).1 = .backlogged ↔
        registry.stateOf target request.id = none ∧ request.id ∉ (registry.buildsOf target).finished ∧
          ∃ id state, id ≠ request.id ∧ registry.stateOf target id = some state) ∧
      ((registry.admitRequest backlog target request).1 = .admitted ↔
        registry.stateOf target request.id = none ∧ request.id ∉ (registry.buildsOf target).finished ∧
          ∀ id, registry.stateOf target id = none) ∧
      (∀ state, (registry.admitRequest backlog target request).1 = .duplicate state →
        (registry.admitRequest backlog target request).2 = (registry, backlog)) ∧
      ((registry.admitRequest backlog target request).1 = .backlogged →
        (registry.admitRequest backlog target request).2 = (registry, (backlog.offer target request).2)) ∧
      ((registry.admitRequest backlog target request).1 = .admitted →
        (registry.admitRequest backlog target request).2.1.recordOf target request.id = some ⟨request, .requesting⟩ ∧
          (registry.admitRequest backlog target request).2.2 = backlog) ∧
      KeepsAllBut target request.id registry (registry.admitRequest backlog target request).2.1 ∧
      ∀ other, other ≠ target → (registry.admitRequest backlog target request).2.2.peek other = backlog.peek other := by
  rcases admitRequest_cases registry backlog target request with
    ⟨current, tracked, admitting⟩ | ⟨untracked, finished, admitting⟩ |
      ⟨untracked, unfinished, busy, admitting⟩ | ⟨untracked, unfinished, idle, admitting⟩
  · rw [admitting]
    refine ⟨fun state => ?_, by simp [tracked], by simp [tracked], by simp, by simp, by simp, .refl .., fun _ _ => rfl⟩
    simp [tracked, eq_comm]
  · have remembered : request.id ∈ (registry.buildsOf target).finished := by
      simpa [TargetBuilds.isFinished] using finished
    rw [admitting]
    refine ⟨fun state => ?_, by simp [remembered], by simp [remembered], by simp, by simp, by simp, .refl ..,
      fun _ _ => rfl⟩
    simp [untracked, remembered, eq_comm]
  · have forgotten := (isFinished_eq_false_iff _ _).1 unfinished
    have another := (isEmpty_active_eq_false_iff untracked).1 busy
    -- another tracked build rules out an idle target
    have notIdle : ¬ ∀ id, registry.stateOf target id = none := by
      obtain ⟨id, state, -, tracked⟩ := another
      exact fun idle => by rw [idle id] at tracked; cases tracked
    rw [admitting]
    exact ⟨by simp [untracked, forgotten], ⟨fun _ => ⟨untracked, forgotten, another⟩, fun _ => rfl⟩,
      by simp [notIdle], by simp, by simp,
      by simp, .refl .., fun other apart => Backlog.peek_offer_of_ne backlog request (Ne.symm apart)⟩
  · have forgotten := (isFinished_eq_false_iff _ _).1 unfinished
    have none : ∀ id, registry.stateOf target id = none := (TargetBuilds.isEmpty_active_iff _).1 idle
    have noOther : ¬ ∃ id state, id ≠ request.id ∧ registry.stateOf target id = some state := by
      rintro ⟨id, state, -, tracked⟩
      rw [none id] at tracked
      cases tracked
    rw [admitting]
    exact ⟨by simp [untracked, forgotten], ⟨fun answer => (by cases answer), fun ⟨_, _, another⟩ => absurd another noOther⟩,
      by simp [untracked, forgotten, none], by simp, by simp,
      fun _ => ⟨recordOf_track_self .., rfl⟩, keepsAllBut_track .., fun _ _ => rfl⟩

end Answers

end BuildRegistry

open BuildRegistry in
/-- Every registry call answers from the record of its one build and from its target's finished
ids; a call that refuses changes nothing, and every call keeps every other build's record, every
target's finished ids and every other target's backlog entry. -/
theorem registry_calls_answer_from_their_build (registry : BuildRegistry) (backlog : Backlog)
    (target : BuildTarget) (request : BuildRequest) (state source destination expected : BuildState) :
    (((registry.insert target request state).1 = true ↔
        (registry.insert target request state).2.stateOf target request.id = some state) ∧
      (registry.stateOf target request.id = none →
        (registry.insert target request state).2.recordOf target request.id = some ⟨request, state⟩) ∧
      (registry.stateOf target request.id ≠ none → (registry.insert target request state).2 = registry) ∧
      KeepsAllBut target request.id registry (registry.insert target request state).2) ∧
    (((registry.insertIfAbsent target request state).1 = true ↔ registry.stateOf target request.id = none) ∧
      ((registry.insertIfAbsent target request state).1 = true →
        (registry.insertIfAbsent target request state).2.recordOf target request.id = some ⟨request, state⟩) ∧
      ((registry.insertIfAbsent target request state).1 = false →
        (registry.insertIfAbsent target request state).2 = registry) ∧
      KeepsAllBut target request.id registry (registry.insertIfAbsent target request state).2) ∧
    (((registry.update target request source destination).1 = true ↔
        registry.stateOf target request.id = some source ∨
          (registry.stateOf target request.id = none ∧ request.id ∉ (registry.buildsOf target).finished)) ∧
      ((registry.update target request source destination).1 = true →
        (registry.update target request source destination).2.recordOf target request.id =
          some ⟨request, destination⟩) ∧
      ((registry.update target request source destination).1 = false →
        (registry.update target request source destination).2 = registry) ∧
      KeepsAllBut target request.id registry (registry.update target request source destination).2) ∧
    (((registry.remove target request expected).1 = true ↔
        (registry.remove target request expected).2.stateOf target request.id = none) ∧
      ((registry.remove target request expected).1 = false → (registry.remove target request expected).2 = registry) ∧
      KeepsAllBut target request.id registry (registry.remove target request expected).2) ∧
    ((∀ state, (registry.admitRequest backlog target request).1 = .duplicate state ↔
        registry.stateOf target request.id = some state ∨
          (registry.stateOf target request.id = none ∧ request.id ∈ (registry.buildsOf target).finished ∧
            state = .built)) ∧
      ((registry.admitRequest backlog target request).1 = .backlogged ↔
        registry.stateOf target request.id = none ∧ request.id ∉ (registry.buildsOf target).finished ∧
          ∃ id state, id ≠ request.id ∧ registry.stateOf target id = some state) ∧
      ((registry.admitRequest backlog target request).1 = .admitted ↔
        registry.stateOf target request.id = none ∧ request.id ∉ (registry.buildsOf target).finished ∧
          ∀ id, registry.stateOf target id = none) ∧
      (∀ state, (registry.admitRequest backlog target request).1 = .duplicate state →
        (registry.admitRequest backlog target request).2 = (registry, backlog)) ∧
      ((registry.admitRequest backlog target request).1 = .backlogged →
        (registry.admitRequest backlog target request).2 = (registry, (backlog.offer target request).2)) ∧
      ((registry.admitRequest backlog target request).1 = .admitted →
        (registry.admitRequest backlog target request).2.1.recordOf target request.id = some ⟨request, .requesting⟩ ∧
          (registry.admitRequest backlog target request).2.2 = backlog) ∧
      KeepsAllBut target request.id registry (registry.admitRequest backlog target request).2.1 ∧
      ∀ other, other ≠ target →
        (registry.admitRequest backlog target request).2.2.peek other = backlog.peek other) :=
  ⟨insert_spec registry target request state, insertIfAbsent_spec registry target request state,
    update_spec registry target request source destination, remove_spec registry target request expected,
    admitRequest_spec registry target request backlog⟩

end BenchDispatch
