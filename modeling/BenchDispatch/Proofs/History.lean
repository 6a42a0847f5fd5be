import Mathlib.Data.List.Nodup
import BenchDispatch.Proofs.Coherence

/-! Each target remembers the ids of its last `finishedHistoryLength` finished builds, oldest first.
Only a `built` report changes a history: its id joins at the end unless it is there already, and a
full history forgets its oldest id to make room. Along every run each history stays free of repeats
and within its bound (`historyBounded_run`), and an id that a history has forgotten was reported
finished and then followed by reports of `finishedHistoryLength` other ids (`evicted_of_forgotten`). -/

set_option autoImplicit false

namespace BenchDispatch

open Broker

namespace TargetBuilds

theorem isFinished_iff (builds : TargetBuilds) (id : BuildId) :
    builds.isFinished id = true ↔ id ∈ builds.finished := by
  simp [isFinished]

theorem isFinished_eq_false (builds : TargetBuilds) (id : BuildId) :
    builds.isFinished id = false ↔ id ∉ builds.finished := by
  simp [isFinished]

/-- Finishing in list terms: a remembered id changes nothing; a new one joins at the end, once the
oldest id is dropped from a full history. -/
theorem finished_finish (builds : TargetBuilds) (id : BuildId) :
    (builds.finish id).finished =
      if id ∈ builds.finished then builds.finished
      else (if builds.finished.length = finishedHistoryLength then builds.finished.drop 1
        else builds.finished) ++ [id] := by
  unfold finish
  by_cases known : id ∈ builds.finished <;> simp [known]

theorem mem_finish (builds : TargetBuilds) (id : BuildId) : id ∈ (builds.finish id).finished :=
  (isFinished_iff _ id).1 (builds.isFinished_finish id)

theorem finished_finish_of_mem {builds : TargetBuilds} {id : BuildId} (known : id ∈ builds.finished) :
    (builds.finish id).finished = builds.finished := by
  rw [finished_finish, if_pos known]

/-- A new id joins a history that has room, or replaces the oldest id of a full one. -/
theorem finish_of_not_mem {builds : TargetBuilds} {id : BuildId} (fresh : id ∉ builds.finished) :
    builds.finished.length ≠ finishedHistoryLength ∧ (builds.finish id).finished = builds.finished ++ [id] ∨
      builds.finished.length = finishedHistoryLength ∧
        (builds.finish id).finished = builds.finished.drop 1 ++ [id] := by
  rw [finished_finish, if_neg fresh]
  by_cases full : builds.finished.length = finishedHistoryLength
  · exact .inr ⟨full, by rw [if_pos full]⟩
  · exact .inl ⟨full, by rw [if_neg full]⟩

/-- Whatever finishes, the history keeps the ids it had in the same order, but perhaps the oldest. -/
theorem finish_sublist (builds : TargetBuilds) (id : BuildId) :
    List.Sublist (builds.finished.drop 1) (builds.finish id).finished := by
  by_cases known : id ∈ builds.finished
  · rw [finished_finish_of_mem known]
    exact List.drop_sublist 1 _
  · rcases finish_of_not_mem known with ⟨-, grown⟩ | ⟨-, shifted⟩
    · rw [grown]
      exact (List.drop_sublist 1 _).trans (List.sublist_append_left _ _)
    · rw [shifted]
      exact List.sublist_append_left _ _

theorem nodup_finish {builds : TargetBuilds} (nodup : builds.finished.Nodup) (id : BuildId) :
    (builds.finish id).finished.Nodup := by
  by_cases known : id ∈ builds.finished
  · rwa [finished_finish_of_mem known]
  · -- what is kept is part of the old history, which does not hold the new id
    have joined : ∀ kept, List.Sublist kept builds.finished → (kept ++ [id]).Nodup := by
      intro kept sub
      rw [← List.concat_eq_append]
      exact List.Nodup.concat (fun member => known (sub.subset member)) (nodup.sublist sub)
    rcases finish_of_not_mem known with ⟨-, grown⟩ | ⟨-, shifted⟩
    · rw [grown]
      exact joined _ (List.Sublist.refl _)
    · rw [shifted]
      exact joined _ (List.drop_sublist 1 _)

theorem length_finish_le {builds : TargetBuilds} (bounded : builds.finished.length ≤ finishedHistoryLength)
    (id : BuildId) : (builds.finish id).finished.length ≤ finishedHistoryLength := by
  by_cases known : id ∈ builds.finished
  · rwa [finished_finish_of_mem known]
  · rcases finish_of_not_mem known with ⟨room, grown⟩ | ⟨full, shifted⟩
    · rw [grown, List.length_append, List.length_singleton]
      omega
    · have positive : 0 < finishedHistoryLength := by decide
      rw [shifted, List.length_append, List.length_drop, List.length_singleton]
      omega

/-- An id leaves a history only as the oldest entry of a full history that a new id joins. -/
theorem evicted_of_finish {builds : TargetBuilds} {id other : BuildId} (kept : other ∈ builds.finished)
    (gone : other ∉ (builds.finish id).finished) :
    id ∉ builds.finished ∧ ∃ rest, builds.finished = other :: rest ∧
      rest.length + 1 = finishedHistoryLength ∧ (builds.finish id).finished = rest ++ [id] := by
  have fresh : id ∉ builds.finished := fun known => gone (by rwa [finished_finish_of_mem known])
  rcases finish_of_not_mem fresh with ⟨-, grown⟩ | ⟨full, shifted⟩
  · exact absurd (by rw [grown]; exact List.mem_append_left _ kept) gone
  · obtain ⟨oldest, rest, listed⟩ := List.exists_cons_of_ne_nil (List.ne_nil_of_mem kept)
    rw [listed] at kept full shifted
    rcases List.mem_cons.1 kept with rfl | later
    · exact ⟨fresh, rest, listed, by simpa using full, by simpa using shifted⟩
    · exact absurd (by rw [shifted]; simp [later]) gone

/-- An id that stays in a history keeps every id after it, and a new id joins them at the end. -/
theorem finish_newer {builds : TargetBuilds} {id other : BuildId} {older newer : List BuildId}
    (nodup : builds.finished.Nodup) (split : builds.finished = older ++ other :: newer)
    (stays : other ∈ (builds.finish id).finished) :
    ∃ older', (builds.finish id).finished =
      older' ++ other :: if id ∈ builds.finished then newer else newer ++ [id] := by
  by_cases known : id ∈ builds.finished
  · exact ⟨older, by rw [finished_finish_of_mem known, if_pos known, split]⟩
  · rw [if_neg known]
    rcases finish_of_not_mem known with ⟨-, grown⟩ | ⟨-, shifted⟩
    · exact ⟨older, by rw [grown, split]; simp⟩
    · cases older with
      | nil =>
        -- the oldest id was dropped, and it was `other`, which occurs once
        rw [shifted, split] at stays
        rw [split] at nodup known
        simp only [List.nil_append, List.drop_succ_cons, List.drop_zero, List.mem_append,
          List.mem_singleton] at stays
        rcases stays with again | joined
        · exact absurd again (List.nodup_cons.1 nodup).1
        · exact absurd (joined ▸ List.mem_cons_self) known
      | cons oldest older =>
        exact ⟨older, by rw [shifted, split]; simp⟩

end TargetBuilds

namespace BuildRegistry

/-- `complete` writes its target's builds back with the finished id remembered. -/
theorem complete_setBuilds (registry : BuildRegistry) (backlog : Backlog) (target : BuildTarget)
    (request : BuildRequest) (expected : BuildState) :
    ∃ builds : TargetBuilds, builds.finished = ((registry.buildsOf target).finish request.id).finished ∧
      (registry.complete backlog target request expected).2.1 = registry.setBuilds target builds := by
  have remembered : ∀ builds : TargetBuilds, builds.finished = (registry.buildsOf target).finished →
      (builds.finish request.id).finished = ((registry.buildsOf target).finish request.id).finished := by
    intro builds same
    simp only [TargetBuilds.finished_finish, same]
  unfold complete
  dsimp only
  -- every way out writes back the target's builds, the id joined to their old history
  repeat' split
  all_goals
    refine ⟨_, ?_, rfl⟩
    exact remembered _ rfl

theorem finished_complete (registry : BuildRegistry) (backlog : Backlog) (target : BuildTarget)
    (request : BuildRequest) (expected : BuildState) (other : BuildTarget) :
    (((registry.complete backlog target request expected).2.1).buildsOf other).finished =
      if target = other then ((registry.buildsOf target).finish request.id).finished
      else (registry.buildsOf other).finished := by
  obtain ⟨builds, remembered, written⟩ := complete_setBuilds registry backlog target request expected
  rw [written, buildsOf_setBuilds]
  split
  · exact remembered
  · rfl

end BuildRegistry

namespace Effect

variable {loop : ControlLoop} {registry : BuildRegistry} {backlog : Backlog} {sent : Option BuildRequest}

/-- A call that reports no build finished leaves every history as it was. -/
theorem finished_of_none (effect : Effect loop registry backlog sent none) (target : BuildTarget) :
    (registry.buildsOf target).finished = (loop.registry.buildsOf target).finished := by
  cases effect with
  | idle => rfl
  | offer => rfl
  | launch request _ _ _ _ dispatch =>
    rw [dispatch.finished_eq]
    exact BuildRegistry.finished_setBuilds _ _ (TargetBuilds.finished_track ..) target
  | retry request _ _ dispatch => exact dispatch.finished_eq target
  | insert request _ _ dispatch =>
    rw [dispatch.finished_eq]
    rcases BuildRegistry.insert_cases loop.registry request.target request .requesting with
      ⟨-, inserted⟩ | ⟨-, inserted⟩ | ⟨_, -, -, inserted⟩ <;> rw [inserted]
    · exact BuildRegistry.finished_setBuilds _ _ (TargetBuilds.finished_track ..) target
  | advance request => exact BuildRegistry.buildsOf_update_finished ..

/-- A `built` report adds its id to its target's history as `finish` does, and leaves every other
history as it was; a promotion dispatched after it changes no history. -/
theorem finished_of_some {reported : BuildTarget} {id : BuildId}
    (effect : Effect loop registry backlog sent (some (reported, id))) (target : BuildTarget) :
    (registry.buildsOf target).finished =
      if reported = target then ((loop.registry.buildsOf reported).finish id).finished
      else (loop.registry.buildsOf target).finished := by
  cases effect with
  | finish request completing _ =>
    have history := BuildRegistry.finished_complete loop.registry loop.backlog request.target request .building target
    rwa [completing] at history
  | promote request next completing _ dispatch =>
    have history := BuildRegistry.finished_complete loop.registry loop.backlog request.target request .building target
    rw [completing] at history
    rwa [dispatch.finished_eq]

end Effect

namespace ControlLoop

/-- A call leaves a target's history as it was, or is a `built` report of one of its builds and
finishes that id. -/
theorem finished_apply (loop : ControlLoop) (call : Call) (target : BuildTarget) :
    ((loop.apply call).registry.buildsOf target).finished = (loop.registry.buildsOf target).finished ∨
      ∃ id, call.completes = some (target, id) ∧
        ((loop.apply call).registry.buildsOf target).finished = ((loop.registry.buildsOf target).finish id).finished := by
  have effect := loop.effect_apply call
  rcases Option.eq_none_or_eq_some call.completes with unreported | ⟨⟨reported, id⟩, reports⟩
  · rw [unreported] at effect
    exact .inl (effect.finished_of_none target)
  · rw [reports] at effect
    have history := effect.finished_of_some target
    by_cases here : reported = target
    · subst here
      exact .inr ⟨id, reports, by rwa [if_pos rfl] at history⟩
    · exact .inl (by rwa [if_neg here] at history)

/-- A `built` report leaves its id in its target's history. -/
theorem mem_finished_apply (loop : ControlLoop) {call : Call} {target : BuildTarget} {id : BuildId}
    (reports : call.completes = some (target, id)) :
    id ∈ ((loop.apply call).registry.buildsOf target).finished := by
  have effect := loop.effect_apply call
  rw [reports] at effect
  rw [effect.finished_of_some target, if_pos rfl]
  exact TargetBuilds.mem_finish _ id

end ControlLoop

/-- Every history is free of repeats and holds at most `finishedHistoryLength` ids. -/
structure HistoryBounded (registry : BuildRegistry) : Prop where
  nodup : ∀ target, (registry.buildsOf target).finished.Nodup
  bounded : ∀ target, (registry.buildsOf target).finished.length ≤ finishedHistoryLength

theorem HistoryBounded.apply {loop : ControlLoop} (history : HistoryBounded loop.registry) (call : Call) :
    HistoryBounded (loop.apply call).registry := by
  constructor <;> intro target <;> rcases loop.finished_apply call target with same | ⟨id, -, finished⟩
  · exact same ▸ history.nodup target
  · exact finished ▸ TargetBuilds.nodup_finish (history.nodup target) id
  · exact same ▸ history.bounded target
  · exact finished ▸ TargetBuilds.length_finish_le (history.bounded target) id

theorem historyBounded_run (settings : Settings) (hub : Hub) (calls : List Call) :
    HistoryBounded ((ControlLoop.start settings hub).run calls).registry := by
  induction calls using List.reverseRecOn with
  | nil =>
    constructor <;> intro target <;>
      simp [ControlLoop.start, BuildRegistry.empty, BuildRegistry.buildsOf, TargetBuilds.empty]
  | append_singleton calls call history =>
    rw [ControlLoop.run_append_singleton]
    exact history.apply call

/-! ## Joining and leaving a history -/

/-- An id in a history joined it by a `built` report among the calls, and every id after it there
joined by a later report. -/
theorem joined_of_mem (settings : Settings) (hub : Hub) (calls : List Call) {target : BuildTarget} {id : BuildId}
    (remembered : id ∈ (((ControlLoop.start settings hub).run calls).registry.buildsOf target).finished) :
    ∃ early done late, calls = early ++ done :: late ∧ done.completes = some (target, id) ∧
      ∃ older newer, (((ControlLoop.start settings hub).run calls).registry.buildsOf target).finished =
          older ++ id :: newer ∧ ∀ other ∈ newer, ∃ call ∈ late, call.completes = some (target, other) := by
  induction calls using List.reverseRecOn with
  | nil => simp [ControlLoop.start, BuildRegistry.empty, BuildRegistry.buildsOf, TargetBuilds.empty] at remembered
  | append_singleton calls call joined =>
    rw [ControlLoop.run_append_singleton] at remembered ⊢
    have later_of : ∀ late : List Call, ∀ other, (∃ c ∈ late, c.completes = some (target, other)) →
        ∃ c ∈ late ++ [call], c.completes = some (target, other) := by
      rintro late other ⟨c, member, reports⟩
      exact ⟨c, List.mem_append_left _ member, reports⟩
    rcases ((ControlLoop.start settings hub).run calls).finished_apply call target with
      same | ⟨finished, reports, history⟩
    · -- the call left this history alone: the id joined before it
      rw [same] at remembered ⊢
      obtain ⟨early, done, late, rfl, reported, older, newer, split, later⟩ := joined remembered
      exact ⟨early, done, late ++ [call], by simp, reported, older, newer, split,
        fun other member => later_of late other (later other member)⟩
    · rw [history] at remembered ⊢
      by_cases before : id ∈ (((ControlLoop.start settings hub).run calls).registry.buildsOf target).finished
      · obtain ⟨early, done, late, rfl, reported, older, newer, split, later⟩ := joined before
        obtain ⟨older', split'⟩ :=
          TargetBuilds.finish_newer ((historyBounded_run settings hub _).nodup target) split remembered
        refine ⟨early, done, late ++ [call], by simp, reported, older', _, split', ?_⟩
        intro other member
        split at member
        · exact later_of late other (later other member)
        · rcases List.mem_append.1 member with old | new
          · exact later_of late other (later other old)
          · rw [List.mem_singleton] at new
            subst new
            exact ⟨call, by simp, reports⟩
      · -- the id was not there, so this report added it, at the end
        have fresh : finished ∉ (((ControlLoop.start settings hub).run calls).registry.buildsOf target).finished :=
          fun known => before (by rwa [TargetBuilds.finished_finish_of_mem known] at remembered)
        obtain ⟨kept, sub, joinedNow⟩ : ∃ kept, List.Sublist kept
            (((ControlLoop.start settings hub).run calls).registry.buildsOf target).finished ∧
            ((((ControlLoop.start settings hub).run calls).registry.buildsOf target).finish finished).finished =
              kept ++ [finished] := by
          rcases TargetBuilds.finish_of_not_mem fresh with ⟨-, grown⟩ | ⟨-, shifted⟩
          · exact ⟨_, List.Sublist.refl _, grown⟩
          · exact ⟨_, List.drop_sublist 1 _, shifted⟩
        have same : id = finished := by
          rw [joinedNow, List.mem_append, List.mem_singleton] at remembered
          exact remembered.resolve_left fun kept' => before (sub.subset kept')
        subst same
        exact ⟨calls, call, [], rfl, reports, kept, [], joinedNow, by simp⟩

/-- Among `calls`, a `built` report of the build `id` of `target` is followed by reports of
`finishedHistoryLength` other distinct ids of that target. -/
def Evicted (calls : List Call) (target : BuildTarget) (id : BuildId) : Prop :=
  ∃ early done late, calls = early ++ done :: late ∧ done.completes = some (target, id) ∧
    ∃ others : List BuildId, others.Nodup ∧ others.length = finishedHistoryLength ∧ id ∉ others ∧
      ∀ other ∈ others, ∃ call ∈ late, call.completes = some (target, other)

theorem Evicted.append {calls : List Call} {target : BuildTarget} {id : BuildId}
    (evicted : Evicted calls target id) (more : List Call) : Evicted (calls ++ more) target id := by
  obtain ⟨early, done, late, rfl, reported, others, nodup, counted, apart, later⟩ := evicted
  refine ⟨early, done, late ++ more, by simp, reported, others, nodup, counted, apart, ?_⟩
  intro other member
  obtain ⟨call, listed, reports⟩ := later other member
  exact ⟨call, List.mem_append_left _ listed, reports⟩

/-- The call that makes a history forget an id completes that id's eviction. -/
theorem evicted_of_leaves (settings : Settings) (hub : Hub) (calls : List Call) (call : Call)
    {target : BuildTarget} {id : BuildId}
    (remembered : id ∈ (((ControlLoop.start settings hub).run calls).registry.buildsOf target).finished)
    (gone : id ∉ (((ControlLoop.start settings hub).run (calls ++ [call])).registry.buildsOf target).finished) :
    Evicted (calls ++ [call]) target id := by
  rw [ControlLoop.run_append_singleton] at gone
  rcases ((ControlLoop.start settings hub).run calls).finished_apply call target with
    same | ⟨finished, reports, after⟩
  · exact absurd (same ▸ remembered) gone
  · rw [after] at gone
    obtain ⟨fresh, rest, listed, full, -⟩ := TargetBuilds.evicted_of_finish remembered gone
    obtain ⟨early, done, late, rfl, reported, older, newer, split, later⟩ :=
      joined_of_mem settings hub calls remembered
    have nodup := (historyBounded_run settings hub (early ++ done :: late)).nodup target
    rw [listed] at nodup split
    -- the id is the oldest entry, so the ids after it are all the others
    have newest : newer = rest := by
      cases older with
      | nil => simpa using split.symm
      | cons first older =>
        obtain ⟨-, rfl⟩ := List.cons_eq_cons.1 split
        exact absurd (by simp) (List.nodup_cons.1 nodup).1
    subst newest
    have unseen : finished ∉ newer := fun member => fresh (by rw [listed]; exact List.mem_cons_of_mem _ member)
    refine ⟨early, done, late ++ [call], by simp, reported, newer ++ [finished], ?_, by simpa using full, ?_, ?_⟩
    · rw [← List.concat_eq_append]
      exact List.Nodup.concat unseen (List.nodup_cons.1 nodup).2
    · simp only [List.mem_append, List.mem_singleton, not_or]
      exact ⟨(List.nodup_cons.1 nodup).1, fun same => fresh (same ▸ remembered)⟩
    · intro other member
      rcases List.mem_append.1 member with old | new
      · obtain ⟨c, listed, reports⟩ := later other old
        exact ⟨c, List.mem_append_left _ listed, reports⟩
      · rw [List.mem_singleton] at new
        subst new
        exact ⟨call, by simp, reports⟩

/-- An id a history held and later does not hold was evicted in between: reported finished, then
followed by reports of `finishedHistoryLength` other ids of its target. -/
theorem evicted_of_forgotten (settings : Settings) (hub : Hub) (calls more : List Call) {target : BuildTarget}
    {id : BuildId}
    (remembered : id ∈ (((ControlLoop.start settings hub).run calls).registry.buildsOf target).finished)
    (gone : id ∉ (((ControlLoop.start settings hub).run (calls ++ more)).registry.buildsOf target).finished) :
    Evicted (calls ++ more) target id := by
  induction more using List.reverseRecOn with
  | nil => exact absurd remembered (by simpa using gone)
  | append_singleton more call evicted =>
    rw [← List.append_assoc] at gone ⊢
    by_cases kept : id ∈ (((ControlLoop.start settings hub).run (calls ++ more)).registry.buildsOf target).finished
    · exact evicted_of_leaves settings hub (calls ++ more) call kept gone
    · exact (evicted kept).append [call]

end BenchDispatch
