import BenchDispatch.Proofs.History
import BenchDispatch.Proofs.RegistryAnswers

/-! Runs of registry operations and the finished history of a target. Only `complete` changes a
history: its id joins at the end unless it is remembered already, and a full history forgets its
oldest id to make room. A history therefore holds exactly the newest `finishedHistoryLength` of
the ids that joined it, in the order they joined (`finished_run_eq_newestIds`), with no repeats,
and an id that joined leaves only once that many other ids have joined after it
(`forgotten_after_newer_joins`). -/

set_option autoImplicit false

namespace BenchDispatch

/-- The last `finishedHistoryLength` ids of a list, or all of them when it is shorter. -/
def newestIds (ids : List BuildId) : List BuildId :=
  ids.drop (ids.length - finishedHistoryLength)

theorem length_newestIds_le (ids : List BuildId) : (newestIds ids).length ≤ finishedHistoryLength := by
  simp only [newestIds, List.length_drop]
  omega

theorem newestIds_of_length_le {ids : List BuildId} (short : ids.length ≤ finishedHistoryLength) :
    newestIds ids = ids := by
  rw [newestIds, Nat.sub_eq_zero_of_le short, List.drop_zero]

/-- Among ids that end with `id`, the newest keep `id` unless more than `finishedHistoryLength`
ids follow it; past that point they are the newest of the ids that follow. -/
theorem newestIds_append_of_not_mem {older later : List BuildId} {id : BuildId}
    (gone : id ∉ newestIds (older ++ id :: later)) :
    finishedHistoryLength ≤ later.length ∧ newestIds (older ++ id :: later) = newestIds later := by
  have past : older.length + 1 + later.length - finishedHistoryLength ≥ older.length + 1 := by
    by_contra within
    apply gone
    rw [newestIds, List.length_append, List.length_cons]
    -- the drop stops at or before `id`, so `id` is among what is kept
    rw [List.drop_append_of_le_length (by omega)]
    exact List.mem_append_right _ List.mem_cons_self
  refine ⟨by omega, ?_⟩
  have regrouped : older ++ id :: later = (older ++ [id]) ++ later := by simp
  have count : (older ++ id :: later).length - finishedHistoryLength =
      (older ++ [id]).length + (later.length - finishedHistoryLength) := by
    simp only [List.length_append, List.length_cons, List.length_nil]
    omega
  rw [newestIds, count, regrouped, List.drop_length_add_append, newestIds]

namespace TargetBuilds

/-- A new id joins a history holding the newest ids of a list as it joins the list. -/
theorem finish_newestIds {builds : TargetBuilds} {ids : List BuildId} {id : BuildId}
    (newest : builds.finished = newestIds ids) (fresh : id ∉ builds.finished) :
    (builds.finish id).finished = newestIds (ids ++ [id]) := by
  have counted : builds.finished.length = min ids.length finishedHistoryLength := by
    rw [newest, newestIds, List.length_drop]
    omega
  rcases finish_of_not_mem fresh with ⟨room, grown⟩ | ⟨full, shifted⟩
  · have short : ids.length < finishedHistoryLength := by omega
    rw [grown, newest, newestIds_of_length_le (by omega), newestIds_of_length_le (by simp; omega)]
  · have positive : 0 < finishedHistoryLength := by decide
    have within : ids.length + 1 - finishedHistoryLength ≤ ids.length := by omega
    rw [shifted, newest, newestIds, newestIds, List.drop_drop, List.length_append, List.length_singleton,
      List.drop_append_of_le_length within]
    congr 2
    omega

end TargetBuilds

/-- One operation on the registry, with the backlog that admission and completion read and
write. Queries change nothing and are left out. -/
inductive RegistryCall where
  | insert (target : BuildTarget) (request : BuildRequest) (state : BuildState)
  | insertIfAbsent (target : BuildTarget) (request : BuildRequest) (state : BuildState)
  | update (target : BuildTarget) (request : BuildRequest) (source destination : BuildState)
  | remove (target : BuildTarget) (request : BuildRequest) (expected : BuildState)
  | admitRequest (target : BuildTarget) (request : BuildRequest)
  | complete (target : BuildTarget) (request : BuildRequest) (expected : BuildState)

namespace RegistryCall

/-- The registry and backlog after a call. -/
def perform : RegistryCall → BuildRegistry × Backlog → BuildRegistry × Backlog
  | .insert target request state, (registry, backlog) =>
    ((registry.insert target request state).2, backlog)
  | .insertIfAbsent target request state, (registry, backlog) =>
    ((registry.insertIfAbsent target request state).2, backlog)
  | .update target request source destination, (registry, backlog) =>
    ((registry.update target request source destination).2, backlog)
  | .remove target request expected, (registry, backlog) =>
    ((registry.remove target request expected).2, backlog)
  | .admitRequest target request, (registry, backlog) => (registry.admitRequest backlog target request).2
  | .complete target request expected, (registry, backlog) =>
    (registry.complete backlog target request expected).2

/-- The target and id a call reports finished: only `complete` reports one. -/
def finishes : RegistryCall → Option (BuildTarget × BuildId)
  | .complete target request _ => some (target, request.id)
  | _ => none

/-- The registry and backlog after calls made in order. -/
def run (start : BuildRegistry × Backlog) (calls : List RegistryCall) : BuildRegistry × Backlog :=
  calls.foldl (fun state call => call.perform state) start

theorem run_cons (start : BuildRegistry × Backlog) (call : RegistryCall) (calls : List RegistryCall) :
    run start (call :: calls) = run (call.perform start) calls := rfl

theorem run_append (start : BuildRegistry × Backlog) (calls more : List RegistryCall) :
    run start (calls ++ more) = run (run start calls) more :=
  List.foldl_append

/-- The id a call adds to a target's history: one it reports finished there that the history
does not hold. -/
def joins (call : RegistryCall) (state : BuildRegistry × Backlog) (target : BuildTarget) :
    Option BuildId :=
  match call.finishes with
  | some (reported, id) =>
    if reported = target ∧ id ∉ (state.1.buildsOf target).finished then some id else none
  | none => none

/-- The ids that calls add to a target's history, in order. -/
def joinsFrom (target : BuildTarget) : BuildRegistry × Backlog → List RegistryCall → List BuildId
  | _, [] => []
  | state, call :: calls => (call.joins state target).toList ++ joinsFrom target (call.perform state) calls

theorem joinsFrom_append (target : BuildTarget) (start : BuildRegistry × Backlog)
    (calls more : List RegistryCall) :
    joinsFrom target start (calls ++ more) =
      joinsFrom target start calls ++ joinsFrom target (run start calls) more := by
  induction calls generalizing start with
  | nil => rfl
  | cons call calls ih =>
    simp only [List.cons_append, joinsFrom, ih, run_cons, List.append_assoc]

theorem joins_eq_some {call : RegistryCall} {state : BuildRegistry × Backlog} {target : BuildTarget}
    {id : BuildId} :
    call.joins state target = some id ↔
      call.finishes = some (target, id) ∧ id ∉ (state.1.buildsOf target).finished := by
  cases call with
  | complete reported request expected =>
    simp only [joins, finishes, Option.ite_none_right_eq_some, Option.some.injEq, Prod.mk.injEq]
    constructor
    · rintro ⟨⟨here, fresh⟩, rfl⟩
      exact ⟨⟨here, rfl⟩, fresh⟩
    · rintro ⟨⟨here, rfl⟩, fresh⟩
      exact ⟨⟨here, fresh⟩, rfl⟩
  | _ => simp [joins, finishes]

/-- A call changes a target's history only by finishing the id it adds there. -/
theorem finished_perform (call : RegistryCall) (state : BuildRegistry × Backlog) (target : BuildTarget) :
    ((call.perform state).1.buildsOf target).finished =
      match call.joins state target with
      | some id => ((state.1.buildsOf target).finish id).finished
      | none => (state.1.buildsOf target).finished := by
  obtain ⟨registry, backlog⟩ := state
  cases call with
  | insert reported request s =>
    exact (BuildRegistry.insert_spec registry reported request s).2.2.2.finished target
  | insertIfAbsent reported request s =>
    exact (BuildRegistry.insertIfAbsent_spec registry reported request s).2.2.2.finished target
  | update reported request source destination =>
    exact (BuildRegistry.update_spec registry reported request source destination).2.2.2.finished target
  | remove reported request expected =>
    exact (BuildRegistry.remove_spec registry reported request expected).2.2.finished target
  | admitRequest reported request =>
    exact (BuildRegistry.admitRequest_spec registry reported request backlog).2.2.2.2.2.2.1.finished target
  | complete reported request expected =>
    simp only [perform, joins, finishes, BuildRegistry.finished_complete]
    by_cases here : reported = target
    · subst here
      -- finishing a remembered id changes nothing, so only a new id counts as added
      by_cases known : request.id ∈ (registry.buildsOf reported).finished
      · rw [if_pos rfl, if_neg (fun adds => adds.2 known), TargetBuilds.finished_finish_of_mem known]
      · rw [if_pos rfl, if_pos ⟨rfl, known⟩]
    · rw [if_neg here, if_neg (fun adds => here adds.1)]

theorem bounded_perform {state : BuildRegistry × Backlog} (history : HistoryBounded state.1)
    (call : RegistryCall) : HistoryBounded (call.perform state).1 := by
  constructor <;> intro target <;> rw [finished_perform] <;> split
  · exact TargetBuilds.nodup_finish (history.nodup target) _
  · exact history.nodup target
  · exact TargetBuilds.length_finish_le (history.bounded target) _
  · exact history.bounded target

theorem bounded_run {start : BuildRegistry × Backlog} (history : HistoryBounded start.1)
    (calls : List RegistryCall) : HistoryBounded (run start calls).1 := by
  induction calls generalizing start with
  | nil => exact history
  | cons call calls ih => exact ih (bounded_perform history call)

theorem historyBounded_empty : HistoryBounded BuildRegistry.empty := by
  constructor <;> intro target <;>
    simp [BuildRegistry.empty, BuildRegistry.buildsOf, TargetBuilds.empty]

/-- A history holding the newest ids of a list holds, after a call, the newest ids of the list
with the id the call adds. -/
theorem finished_perform_newestIds {state : BuildRegistry × Backlog} {target : BuildTarget}
    {ids : List BuildId} (newest : (state.1.buildsOf target).finished = newestIds ids) (call : RegistryCall) :
    ((call.perform state).1.buildsOf target).finished = newestIds (ids ++ (call.joins state target).toList) := by
  rw [finished_perform]
  cases adds : call.joins state target with
  | some id => exact TargetBuilds.finish_newestIds newest (joins_eq_some.1 adds).2
  | none => rw [Option.toList_none, List.append_nil, newest]

theorem finished_run_of_newestIds {start : BuildRegistry × Backlog} {target : BuildTarget}
    {ids : List BuildId} (newest : (start.1.buildsOf target).finished = newestIds ids)
    (calls : List RegistryCall) :
    ((run start calls).1.buildsOf target).finished = newestIds (ids ++ joinsFrom target start calls) := by
  induction calls generalizing start ids with
  | nil => rw [joinsFrom, List.append_nil]; exact newest
  | cons call calls ih =>
    rw [run_cons, ih (finished_perform_newestIds newest call), joinsFrom, List.append_assoc]

/-- From an empty registry, a target's history holds the newest `finishedHistoryLength` ids that
joined it, in the order they joined. -/
theorem finished_run_eq_newestIds (backlog : Backlog) (calls : List RegistryCall) (target : BuildTarget) :
    ((run (BuildRegistry.empty, backlog) calls).1.buildsOf target).finished =
      newestIds (joinsFrom target (BuildRegistry.empty, backlog) calls) := by
  have start : ((BuildRegistry.empty, backlog).1.buildsOf target).finished = newestIds [] := rfl
  rw [finished_run_of_newestIds start calls, List.nil_append]

/-- An id that a call adds stays in its target's history until `finishedHistoryLength` other ids
join after it: once it is gone, the newest ids to have joined since are that many distinct ids,
none of them it. -/
theorem forgotten_after_newer_joins {start : BuildRegistry × Backlog} (history : HistoryBounded start.1)
    {pre post : List RegistryCall} {call : RegistryCall} {target : BuildTarget} {id : BuildId}
    (adds : call.joins (run start pre) target = some id)
    (gone : id ∉ ((run start (pre ++ call :: post)).1.buildsOf target).finished) :
    ∃ others : List BuildId, others.Nodup ∧ others.length = finishedHistoryLength ∧ id ∉ others ∧
      others.Sublist (joinsFrom target (run start (pre ++ [call])) post) := by
  have before := bounded_run history pre
  have newest := (newestIds_of_length_le (before.bounded target)).symm
  have after := finished_run_of_newestIds newest (call :: post)
  rw [joinsFrom, adds, Option.toList_some, List.singleton_append] at after
  rw [run_append] at gone
  rw [after] at gone
  obtain ⟨enough, dropped⟩ := newestIds_append_of_not_mem gone
  have final := (bounded_run history (pre ++ call :: post)).nodup target
  rw [run_append, after, dropped] at final
  refine ⟨newestIds (joinsFrom target (call.perform (run start pre)) post), final, ?_, ?_, ?_⟩
  · simp only [newestIds, List.length_drop]
    omega
  · rwa [dropped] at gone
  · rw [run_append]
    exact List.drop_sublist _ _

/-- An id leaves a target's history only as the oldest id of a full history, when a call adds a
new id at the end. -/
theorem evicted_of_perform {call : RegistryCall} {state : BuildRegistry × Backlog} {target : BuildTarget}
    {other : BuildId} (kept : other ∈ (state.1.buildsOf target).finished)
    (gone : other ∉ ((call.perform state).1.buildsOf target).finished) :
    ∃ id rest, call.finishes = some (target, id) ∧ id ∉ (state.1.buildsOf target).finished ∧
      (state.1.buildsOf target).finished = other :: rest ∧ rest.length + 1 = finishedHistoryLength ∧
      ((call.perform state).1.buildsOf target).finished = rest ++ [id] := by
  rw [finished_perform] at gone ⊢
  cases adds : call.joins state target with
  | none => rw [adds] at gone; exact absurd kept gone
  | some id =>
    rw [adds] at gone
    obtain ⟨fresh, rest, oldest, full, shifted⟩ := TargetBuilds.evicted_of_finish kept gone
    exact ⟨id, rest, (joins_eq_some.1 adds).1, fresh, oldest, full, shifted⟩

end RegistryCall

namespace BuildRegistry

/-- Completing a build leaves its id in its target's history, and a remembered id where it was. -/
theorem finished_complete_self (registry : BuildRegistry) (backlog : Backlog) (target : BuildTarget)
    (request : BuildRequest) (expected : BuildState) :
    request.id ∈ ((registry.complete backlog target request expected).2.1.buildsOf target).finished ∧
      (request.id ∈ (registry.buildsOf target).finished →
        ((registry.complete backlog target request expected).2.1.buildsOf target).finished =
          (registry.buildsOf target).finished) := by
  rw [finished_complete, if_pos rfl]
  exact ⟨TargetBuilds.mem_finish _ _, TargetBuilds.finished_finish_of_mem⟩

end BuildRegistry

open RegistryCall in
/-- The finished history of a target is a bounded first-in first-out record of the ids its builds
finished with. Along every run of registry calls from an empty registry it holds no repeats and at
most `finishedHistoryLength` ids, namely the newest of the ids that joined it. Completing a build
always leaves its id there, and leaves a remembered id in its place. An id leaves only as the oldest
of a full history when a new id joins, so one that joined stays until `finishedHistoryLength` other
distinct ids have joined after it. -/
theorem finished_history_forgets_oldest_first :
    (∀ (backlog : Backlog) (calls : List RegistryCall) (target : BuildTarget),
      ((run (BuildRegistry.empty, backlog) calls).1.buildsOf target).finished.Nodup ∧
        ((run (BuildRegistry.empty, backlog) calls).1.buildsOf target).finished.length ≤
          finishedHistoryLength ∧
        ((run (BuildRegistry.empty, backlog) calls).1.buildsOf target).finished =
          newestIds (joinsFrom target (BuildRegistry.empty, backlog) calls)) ∧
    (∀ (registry : BuildRegistry) (backlog : Backlog) (target : BuildTarget) (request : BuildRequest)
        (expected : BuildState),
      request.id ∈ ((registry.complete backlog target request expected).2.1.buildsOf target).finished ∧
        (request.id ∈ (registry.buildsOf target).finished →
          ((registry.complete backlog target request expected).2.1.buildsOf target).finished =
            (registry.buildsOf target).finished)) ∧
    (∀ (call : RegistryCall) (state : BuildRegistry × Backlog) (target : BuildTarget) (other : BuildId),
      other ∈ (state.1.buildsOf target).finished →
      other ∉ ((call.perform state).1.buildsOf target).finished →
      ∃ id rest, call.finishes = some (target, id) ∧ id ∉ (state.1.buildsOf target).finished ∧
        (state.1.buildsOf target).finished = other :: rest ∧ rest.length + 1 = finishedHistoryLength ∧
        ((call.perform state).1.buildsOf target).finished = rest ++ [id]) ∧
    (∀ (backlog : Backlog) (pre post : List RegistryCall) (call : RegistryCall) (target : BuildTarget)
        (id : BuildId),
      call.finishes = some (target, id) →
      id ∉ ((run (BuildRegistry.empty, backlog) pre).1.buildsOf target).finished →
      id ∉ ((run (BuildRegistry.empty, backlog) (pre ++ call :: post)).1.buildsOf target).finished →
      ∃ others : List BuildId, others.Nodup ∧ others.length = finishedHistoryLength ∧ id ∉ others ∧
        others.Sublist (joinsFrom target (run (BuildRegistry.empty, backlog) (pre ++ [call])) post)) := by
  refine ⟨fun backlog calls target => ?_, BuildRegistry.finished_complete_self,
    fun call state target other kept gone => evicted_of_perform kept gone, ?_⟩
  · have bounded : HistoryBounded (run (BuildRegistry.empty, backlog) calls).1 :=
      bounded_run historyBounded_empty calls
    exact ⟨bounded.nodup target, bounded.bounded target, finished_run_eq_newestIds backlog calls target⟩
  · intro backlog pre post call target id reports fresh gone
    exact forgotten_after_newer_joins historyBounded_empty (joins_eq_some.2 ⟨reports, fresh⟩) gone

open RegistryCall in
/-- A full history: one id finished, then `finishedHistoryLength` others, and the first is
forgotten behind that many distinct newer ids. -/
theorem oldest_finished_id_forgotten_after_full_history :
    let request (id : BuildId) : BuildRequest :=
      ⟨id, ⟨0, 0, 0, by decide, by decide, by decide, by decide, by decide⟩, "repo", "main", "r", "alice"⟩
    let oldest := RegistryCall.complete "main" (request "old") .building
    let newer := (List.range finishedHistoryLength).map fun i =>
      RegistryCall.complete "main" (request (toString i)) .building
    oldest.finishes = some ("main", "old") ∧
      "old" ∉ ((run (BuildRegistry.empty, Backlog.empty) []).1.buildsOf "main").finished ∧
      "old" ∉ ((run (BuildRegistry.empty, Backlog.empty) ([] ++ oldest :: newer)).1.buildsOf "main").finished ∧
      ∃ others : List BuildId, others.Nodup ∧ others.length = finishedHistoryLength ∧ "old" ∉ others ∧
        others.Sublist (joinsFrom "main" (run (BuildRegistry.empty, Backlog.empty) ([] ++ [oldest])) newer) := by
  intro request oldest newer
  have gone : "old" ∉ ((run (BuildRegistry.empty, Backlog.empty) ([] ++ oldest :: newer)).1.buildsOf "main").finished := by
    decide
  exact ⟨rfl, by decide, gone,
    finished_history_forgets_oldest_first.2.2.2 Backlog.empty [] newer oldest "main" "old" rfl (by decide) gone⟩

end BenchDispatch
