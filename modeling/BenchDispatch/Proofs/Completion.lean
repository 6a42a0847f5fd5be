import BenchDispatch.Proofs.Reordering

/-! Completing a build, for every registry and every backlog. The finished build's record goes when
it is in the expected state or an earlier one and stays when it has moved past it; either way its
id joins the target's history. A target left with no build then takes its waiting request, which
becomes its only build, in `requesting`; otherwise the backlog is as it was.

The request taken from the backlog is tracked as it is, whatever its id: when it carries the id
just retired, the same call tracks that id again (`completion_retracks_retired_id`), so a retired
id is untracked afterwards only when no such request waited (`stateOf_complete_retired`). -/

set_option autoImplicit false

namespace BenchDispatch

namespace Backlog

theorem erase_of_peek_none {backlog : Backlog} {target : BuildTarget} (empty : backlog.peek target = none) :
    backlog.erase target = backlog := by
  have absent : ∀ entry ∈ backlog.entries, entry.1 ≠ target := by
    intro entry member same
    have found := List.find?_eq_none.1 (Option.map_eq_none_iff.1 empty) entry member
    simp [same] at found
  cases backlog with
  | mk entries =>
    simp only [erase, mk.injEq]
    exact List.filter_eq_self.2 fun entry member => by simpa using absent entry member

end Backlog

namespace TargetBuilds

/-- Once an id is dropped, a target has no build left exactly when no other id was tracked. -/
theorem isEmpty_untrack_finish_iff (builds : TargetBuilds) (id : BuildId) :
    ((builds.untrack id).finish id).active.isEmpty = true ↔ ∀ other, other ≠ id → builds.stateOf other = none := by
  rw [isEmpty_active_iff]
  constructor
  · intro untracked other apart
    simpa [stateOf_untrack, Ne.symm apart] using untracked other
  · intro untracked other
    by_cases same : id = other
    · simp [stateOf_untrack, same]
    · simpa [stateOf_untrack, same] using untracked other (Ne.symm same)

end TargetBuilds

namespace BuildRegistry

variable (registry : BuildRegistry) (backlog : Backlog) (target : BuildTarget) (request : BuildRequest)
  (expected : BuildState)

/-- The build `complete` is told about is untracked or in a state it retires, or it has moved past
the expected state. -/
theorem retires_or_keeps :
    (∀ current, registry.stateOf target request.id = some current →
        (current == expected || current.precedes expected) = true) ∨
      ∃ current, registry.stateOf target request.id = some current ∧
        (current == expected || current.precedes expected) = false := by
  cases tracked : registry.stateOf target request.id with
  | none => exact .inl fun current found => by cases found
  | some current =>
    cases past : (current == expected || current.precedes expected) with
    | true => exact .inl fun other found => by cases found; exact past
    | false => exact .inr ⟨current, rfl, past⟩

variable {registry backlog target request expected}

/-- A build that has moved past the expected state keeps its record; its id is remembered as
finished all the same, and the target, still busy, keeps its waiting request. -/
theorem complete_of_keeps {current : BuildState} (tracked : registry.stateOf target request.id = some current)
    (past : (current == expected || current.precedes expected) = false) :
    registry.complete backlog target request expected =
      (⟨false, none⟩, registry.setBuilds target ((registry.buildsOf target).finish request.id), backlog) := by
  have busy : ((registry.buildsOf target).finish request.id).active.isEmpty = false := by
    rw [TargetBuilds.active_finish]
    cases idle : (registry.buildsOf target).active.isEmpty with
    | false => rfl
    | true =>
      have untracked := (TargetBuilds.isEmpty_active_iff _).1 idle request.id
      simp only [stateOf] at tracked
      rw [untracked] at tracked
      cases tracked
  simp only [stateOf] at tracked
  unfold complete
  simp only [tracked, past, Bool.false_eq_true, if_false, busy]

variable {completion : Completion} {completed : BuildRegistry} {remaining : Backlog}

/-- `removed` is false exactly for a build tracked in a state that is neither the expected one nor
earlier. -/
theorem complete_removed_eq_false_iff
    (completing : registry.complete backlog target request expected = (completion, completed, remaining)) :
    completion.removed = false ↔
      ∃ current, registry.stateOf target request.id = some current ∧ current ≠ expected ∧
        current.precedes expected = false := by
  rcases retires_or_keeps registry target request expected with retires | ⟨current, tracked, past⟩
  · obtain ⟨removed, -⟩ := complete_cases retires completing
    simp only [removed, Bool.true_eq_false, false_iff, not_exists, not_and]
    intro current tracked apart
    simpa [apart] using retires current tracked
  · simp only [complete_of_keeps tracked past, Prod.mk.injEq] at completing
    obtain ⟨rfl, -, -⟩ := completing
    simp only [true_iff]
    exact ⟨current, tracked, by simpa using past⟩

/-- A build that is not removed leaves every record of its target as it was. -/
theorem active_complete_of_kept
    (completing : registry.complete backlog target request expected = (completion, completed, remaining))
    (kept : completion.removed = false) :
    (completed.buildsOf target).active = (registry.buildsOf target).active := by
  obtain ⟨current, tracked, apart, earlier⟩ := (complete_removed_eq_false_iff completing).1 kept
  have past : (current == expected || current.precedes expected) = false := by simp [apart, earlier]
  simp only [complete_of_keeps tracked past, Prod.mk.injEq] at completing
  obtain ⟨-, rfl, -⟩ := completing
  simp [buildsOf_setBuilds]

theorem mem_finished_complete
    (completing : registry.complete backlog target request expected = (completion, completed, remaining)) :
    request.id ∈ (completed.buildsOf target).finished := by
  have remembered := finished_complete registry backlog target request expected target
  rw [completing, if_pos rfl] at remembered
  rw [remembered]
  exact TargetBuilds.mem_finish _ _

/-- A request is handed over exactly when the build was removed, no other build of its target is
tracked, and that request waited for the target. -/
theorem complete_next_eq_some_iff
    (completing : registry.complete backlog target request expected = (completion, completed, remaining))
    (next : BuildRequest) :
    completion.next = some next ↔
      completion.removed = true ∧ (∀ id, id ≠ request.id → registry.stateOf target id = none) ∧
        backlog.peek target = some next := by
  rcases retires_or_keeps registry target request expected with retires | ⟨current, tracked, past⟩
  · obtain ⟨removed, ⟨idle, handed, -, -⟩ | ⟨busy, none, -, -⟩⟩ := complete_cases retires completing
    · have others := (TargetBuilds.isEmpty_untrack_finish_iff _ _).1 idle
      simp only [removed, handed, true_and]
      exact ⟨fun waiting => ⟨others, waiting⟩, fun held => held.2⟩
    · simp only [none, reduceCtorEq, removed, true_and, false_iff, not_and]
      intro others
      have idle := (TargetBuilds.isEmpty_untrack_finish_iff _ _).2 others
      rw [busy] at idle
      cases idle
  · simp only [complete_of_keeps tracked past, Prod.mk.injEq] at completing
    obtain ⟨rfl, -, -⟩ := completing
    simp

/-- A handed-over request leaves the backlog, and it is then its target's only build, in
`requesting`. -/
theorem complete_hands_over
    (completing : registry.complete backlog target request expected = (completion, completed, remaining))
    {next : BuildRequest} (handed : completion.next = some next) :
    (∀ other, remaining.peek other = if target = other then none else backlog.peek other) ∧
      (completed.buildsOf target).active = [⟨next, .requesting⟩] := by
  rcases retires_or_keeps registry target request expected with retires | ⟨current, tracked, past⟩
  · obtain ⟨-, ⟨idle, promoted, erased, written⟩ | ⟨-, none, -, -⟩⟩ := complete_cases retires completing
    · rw [handed] at promoted
      refine ⟨fun other => by rw [erased, Backlog.peek_erase], ?_⟩
      -- the target had no build left, so the handed-over request is all it tracks
      have empty : ((registry.buildsOf target).untrack request.id).active = [] := by
        simpa using List.isEmpty_iff.1 idle
      rw [written, ← promoted, buildsOf_setBuilds, if_pos rfl]
      simp [TargetBuilds.track, empty]
    · rw [handed] at none
      cases none
  · simp only [complete_of_keeps tracked past, Prod.mk.injEq] at completing
    obtain ⟨rfl, -, -⟩ := completing
    cases handed

/-- When nothing is handed over, the backlog is as it was. -/
theorem complete_backlog_of_next_none
    (completing : registry.complete backlog target request expected = (completion, completed, remaining))
    (kept : completion.next = none) : remaining = backlog := by
  rcases retires_or_keeps registry target request expected with retires | ⟨current, tracked, past⟩
  · obtain ⟨-, ⟨-, promoted, erased, -⟩ | ⟨-, -, same, -⟩⟩ := complete_cases retires completing
    · rw [kept] at promoted
      rw [erased, Backlog.erase_of_peek_none promoted.symm]
    · exact same
  · simp only [complete_of_keeps tracked past, Prod.mk.injEq] at completing
    exact completing.2.2.symm

/-- After `complete` the finished build's id is tracked only in the record it had moved past the
expected state with, or as the request handed over from the backlog when that carries the same
id. -/
theorem stateOf_complete_retired
    (completing : registry.complete backlog target request expected = (completion, completed, remaining))
    {state : BuildState} (tracked : completed.stateOf target request.id = some state) :
    (completion.removed = false ∧ registry.stateOf target request.id = some state) ∨
      ∃ next, completion.next = some next ∧ next.id = request.id ∧ state = .requesting := by
  rcases retires_or_keeps registry target request expected with retires | ⟨current, tracked', past⟩
  · right
    rw [stateOf_complete retires completing, if_pos rfl, if_pos rfl] at tracked
    cases handed : completion.next with
    | none => simp [handed] at tracked
    | some next =>
      by_cases same : next.id = request.id
      · simp only [handed, Option.map_some, Option.some.injEq, same, if_true] at tracked
        exact ⟨next, rfl, same, tracked.symm⟩
      · simp [handed, same] at tracked
  · left
    simp only [complete_of_keeps tracked' past, Prod.mk.injEq] at completing
    obtain ⟨rfl, rfl, -⟩ := completing
    simp only [stateOf_setBuilds, if_true, TargetBuilds.stateOf_finish] at tracked
    exact ⟨rfl, tracked⟩

variable (registry backlog target request expected)

/-- Completing a build, in full: the record stays exactly when it has moved past the expected
state, and then every record of the target stays; the id joins the history; a request is handed
over exactly when the target is left with no build and one waited for it, and then it is the
target's only build, in `requesting`, and gone from the backlog, which is otherwise unchanged; and
the retired id is tracked afterwards only in its kept record or as that handed-over request. -/
theorem complete_retires_then_promotes :
    let result := registry.complete backlog target request expected
    ((result.1.removed = false ↔ ∃ current, registry.stateOf target request.id = some current ∧
        current ≠ expected ∧ current.precedes expected = false) ∧
      (result.1.removed = false → (result.2.1.buildsOf target).active = (registry.buildsOf target).active)) ∧
    request.id ∈ (result.2.1.buildsOf target).finished ∧
    (∀ next, (result.1.next = some next ↔ result.1.removed = true ∧
          (∀ id, id ≠ request.id → registry.stateOf target id = none) ∧ backlog.peek target = some next) ∧
        (result.1.next = some next →
          (∀ other, result.2.2.peek other = if target = other then none else backlog.peek other) ∧
            (result.2.1.buildsOf target).active = [⟨next, .requesting⟩])) ∧
      (result.1.next = none → result.2.2 = backlog) ∧
    ∀ state, result.2.1.stateOf target request.id = some state →
      (result.1.removed = false ∧ registry.stateOf target request.id = some state) ∨
        ∃ next, result.1.next = some next ∧ next.id = request.id ∧ state = .requesting := by
  intro result
  have completing : registry.complete backlog target request expected = (result.1, result.2.1, result.2.2) := rfl
  exact ⟨⟨complete_removed_eq_false_iff completing, active_complete_of_kept completing⟩,
    mem_finished_complete completing,
    fun next => ⟨complete_next_eq_some_iff completing next, complete_hands_over completing⟩,
    complete_backlog_of_next_none completing,
    fun _ tracked => stateOf_complete_retired completing tracked⟩

end BuildRegistry

/-! ## A retired id tracked again

`first` is admitted on an idle target and `second` waits behind it. A stray `building` report for
`second` tracks it, by the recovery for a missed insert, while it still waits. Once `first` is done,
`second` is the target's only build; its `built` report then removes it, and the same call hands
over the backlog's request, `second` once more, which is tracked under the id just retired. -/

namespace RetiredPromotion

open RecoveredDuplicate

/-- The registry and backlog once `first` is completed, with `second` tracked and waiting. -/
def before : BuildRegistry × Backlog :=
  let admittedFirst := BuildRegistry.empty.admitRequest .empty "main" first
  let backloggedSecond := admittedFirst.2.1.admitRequest admittedFirst.2.2 "main" second
  let recovered := (backloggedSecond.2.1.update "main" second .requesting .building).2
  let completedFirst := recovered.complete backloggedSecond.2.2 "main" first .building
  (completedFirst.2.1, completedFirst.2.2)

end RetiredPromotion

open RetiredPromotion RecoveredDuplicate in
theorem completion_retracks_retired_id :
    before.1.stateOf "main" second.id = some .building ∧ before.2.peek "main" = some second ∧
      (before.1.complete before.2 "main" second .building).1.removed = true ∧
      (before.1.complete before.2 "main" second .building).1.next = some second ∧
      (before.1.complete before.2 "main" second .building).2.1.stateOf "main" second.id = some .requesting := by
  decide +kernel

end BenchDispatch
