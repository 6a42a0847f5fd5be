import BenchDispatch.Proofs.History
import BenchDispatch.Proofs.Custody

/-! Worker reports that arrive out of order. A `building` report and a `built` report for one
request lead every reachable loop to the same place in either order, unless the request waiting in
that target's backlog carries the reported build's id. A `building` report first only rewrites the
record that completion then drops. A `built` report first untracks the build and remembers its id,
so the late `building` report is passed over; but when the backlog's request has the same id,
completion tracks that request again under the finished id and sends it, and the late report then
moves it on to `building`. -/

set_option autoImplicit false

namespace BenchDispatch

open Broker

theorem TargetBuilds.untrack_track_self (builds : TargetBuilds) (request : BuildRequest) (state : BuildState) :
    (builds.track request state).untrack request.id = builds.untrack request.id := by
  simp [track, untrack, List.filter_append, List.filter_filter]

namespace BuildRegistry

theorem setBuilds_setBuilds (registry : BuildRegistry) (target : BuildTarget) (first second : TargetBuilds) :
    (registry.setBuilds target first).setBuilds target second = registry.setBuilds target second := by
  simp [setBuilds, List.filter_append, List.filter_filter]

/-- A report for a build that is untracked and remembered as finished changes nothing. -/
theorem update_of_finished {registry : BuildRegistry} {target : BuildTarget} {request : BuildRequest}
    (untracked : registry.stateOf target request.id = none)
    (finished : (registry.buildsOf target).isFinished request.id = true) (source destination : BuildState) :
    (registry.update target request source destination).2 = registry := by
  simp only [stateOf] at untracked
  simp [update, untracked, finished]

/-- Moving a build to `building` before completing it changes nothing completion gives: the record
the move writes is the one completion drops. -/
theorem complete_update_building {registry : BuildRegistry} {backlog : Backlog} {target : BuildTarget}
    {request : BuildRequest}
    (retires : ∀ current, registry.stateOf target request.id = some current →
      (current == .building || current.precedes .building) = true) :
    (registry.update target request .requested .building).2.complete backlog target request .building =
      registry.complete backlog target request .building := by
  rcases update_cases registry target request .requested .building with same | moved
  · rw [same]
  · rw [moved]
    have advanced : ∀ current,
        (registry.setBuilds target ((registry.buildsOf target).track request .building)).stateOf target request.id =
          some current → (current == .building || current.precedes .building) = true := by
      intro current tracked
      simp only [stateOf_setBuilds, if_true, TargetBuilds.stateOf_track, Option.some.injEq] at tracked
      simp [← tracked]
    rw [complete_of_retires _ _ _ _ _ advanced, complete_of_retires _ _ _ _ _ retires]
    simp only [buildsOf_setBuilds, if_true, TargetBuilds.untrack_track_self, setBuilds_setBuilds]

end BuildRegistry

/-- After a `built` report its id is untracked, unless the request promoted in its place carries the
same id. -/
theorem Effect.untracked_of_some {loop : ControlLoop} {registry : BuildRegistry} {backlog : Backlog}
    {sent : Option BuildRequest} {target : BuildTarget} {id : BuildId}
    (coherent : Coherent loop.registry loop.backlog) (effect : Effect loop registry backlog sent (some (target, id)))
    (elsewhere : ∀ waiting, loop.backlog.peek target = some waiting → waiting.id ≠ id) :
    registry.stateOf target id = none := by
  cases effect with
  | finish request completing promoted =>
    rw [BuildRegistry.stateOf_complete (coherent.retires _ request) completing, promoted]
    simp
  | promote request next completing promoted dispatch =>
    obtain ⟨waiting, -⟩ := BuildRegistry.complete_promoted (coherent.retires _ request) completing promoted
    obtain ⟨sameTarget, requesting⟩ := (coherent.complete completing).2 next promoted
    have other : next.id ≠ request.id := elsewhere next waiting
    rw [dispatch.stateOf_of_requesting (sameTarget ▸ requesting),
      BuildRegistry.stateOf_complete (coherent.retires _ request) completing, promoted]
    simp [other]

namespace ControlLoop

theorem onResult_building {loop : ControlLoop} {message : Message} {response : BuildResponse}
    (decoded : (decodeMessage? message : Option BuildResponse) = some response) (reported : response.state = .building) :
    loop.onResult message =
      (.ack, { loop with
        registry := (loop.registry.update response.request.target response.request .requested .building).2 }) := by
  simp [onResult, decoded, reported]

/-- A `built` report reads the loop only through its settings, its hub and what completion gives. -/
theorem onResult_built_congr {loop other : ControlLoop} {message : Message} {response : BuildResponse}
    (decoded : (decodeMessage? message : Option BuildResponse) = some response) (reported : response.state = .built)
    (settings : other.settings = loop.settings) (hub : other.hub = loop.hub)
    (completes : other.registry.complete other.backlog response.request.target response.request .building =
      loop.registry.complete loop.backlog response.request.target response.request .building) :
    other.onResult message = loop.onResult message := by
  cases loop
  cases other
  simp only at settings hub completes
  subst settings hub
  simp only [onResult, decoded, reported, completes]

end ControlLoop

/-- In every loop a run reaches, whatever its settings, a `building` report and a `built` report for
one request leave the same loop, hub included, in either order, and both are acknowledged, as long
as no request with that build's id waits in its target's backlog. -/
theorem building_and_built_reports_commute (settings : Settings) (hub : Hub) (calls : List Call)
    {building built : Message} {progress report : BuildResponse}
    (decodedProgress : (decodeMessage? building : Option BuildResponse) = some progress)
    (isBuilding : progress.state = .building)
    (decodedReport : (decodeMessage? built : Option BuildResponse) = some report)
    (isBuilt : report.state = .built) (same : report.request = progress.request)
    (elsewhere : ∀ waiting, ((ControlLoop.start settings hub).run calls).backlog.peek progress.request.target =
      some waiting → waiting.id ≠ progress.request.id) :
    let loop := (ControlLoop.start settings hub).run calls
    (loop.onResult building).2.onResult built = (loop.onResult built).2.onResult building := by
  intro loop
  have coherent := coherent_run settings hub calls
  -- `building` first: completion finds what it would find without the report
  have first : (loop.onResult building).2.onResult built = loop.onResult built := by
    rw [ControlLoop.onResult_building decodedProgress isBuilding]
    apply ControlLoop.onResult_built_congr decodedReport isBuilt
    · rfl
    · rfl
    · rw [same]
      exact BuildRegistry.complete_update_building (coherent.retires _ progress.request)
  -- `built` first: the late `building` report finds its id untracked and remembered as finished
  have reports : (Call.result built).completes = some (progress.request.target, progress.request.id) := by
    simp [Call.completes, decodedReport, isBuilt, same]
  have effect := ControlLoop.result_effect loop built
  rw [reports] at effect
  have untracked : (loop.onResult built).2.registry.stateOf progress.request.target progress.request.id = none :=
    effect.untracked_of_some coherent elsewhere
  have finished :
      ((loop.onResult built).2.registry.buildsOf progress.request.target).isFinished progress.request.id = true :=
    (TargetBuilds.isFinished_iff _ _).2 (ControlLoop.mem_finished_apply loop reports)
  rw [first, ControlLoop.onResult_building decodedProgress isBuilding,
    BuildRegistry.update_of_finished untracked finished]
  exact Prod.ext (ControlLoop.onResult_ack loop built) rfl

/-! ## A promoted request under a finished id

A request `first` is sent. A push for `second`, on the same target, waits in the backlog behind
it. A stray `building` report for `second` then tracks it through update's recovery of a missed
insert, and `first` completes while `second` keeps the target busy. Now the backlog holds a request
with the id of a tracked build. When `second` is reported built before it is reported building,
completion promotes the backlog's copy of `second` under the id it has just remembered as finished
and sends it, and the late `building` report moves that copy on. -/

namespace RecoveredDuplicate

def settings : Settings := ⟨"events", "results", "work", "outputs", [], false, 1⟩

def hub : Hub := Hub.empty.declare "work"

theorem epochDay_ge : Instant.firstDay ≤ 0 := by decide

theorem epochDay_le : 0 ≤ Instant.lastDay := by decide

theorem noNanos_lt : (0 : Nat) < 1000000000 := by decide

theorem noNanos_lt_bound : (0 : Nat) < 2000000000 := by decide

/-- The instant a whole number of seconds into 1970-01-01; its bounds are named theorems, so the
instant is one term wherever it is built. -/
def epochInstant (second : Nat) (inDay : second < 86400) : Instant :=
  ⟨0, second, 0, epochDay_ge, epochDay_le, inDay, noNanos_lt_bound, Or.inl noNanos_lt⟩

theorem zero_lt_daySeconds : (0 : Nat) < 86400 := by decide

theorem one_lt_daySeconds : (1 : Nat) < 86400 := by decide

def first : BuildRequest :=
  ⟨"b", epochInstant 0 zero_lt_daySeconds, "repo", "main", "r1", "alice"⟩

def second : BuildRequest :=
  ⟨"a", epochInstant 1 one_lt_daySeconds, "repo", "main", "r2", "alice"⟩

/-- A worker's report that `first` is built, written as arrays of fields. -/
def firstBuilt : Message :=
  .text "[\"x\",\"1970-01-01T00:00:02Z\",\"BUILT\",[\"b\",\"1970-01-01T00:00:00Z\",\"repo\",\"main\",\"r1\",\"alice\"]]"

/-- A worker's report that `second` is building. -/
def building : Message :=
  .text "[\"y\",\"1970-01-01T00:00:03Z\",\"BUILDING\",[\"a\",\"1970-01-01T00:00:01Z\",\"repo\",\"main\",\"r2\",\"alice\"]]"

/-- A worker's report that `second` is built. -/
def built : Message :=
  .text "[\"z\",\"1970-01-01T00:00:04Z\",\"BUILT\",[\"a\",\"1970-01-01T00:00:01Z\",\"repo\",\"main\",\"r2\",\"alice\"]]"

/-- The loop with `second` tracked as `building` and waiting in the backlog at once. -/
def loop : ControlLoop :=
  (ControlLoop.start settings hub).run [.process first, .process second, .result building, .result firstBuilt]

end RecoveredDuplicate

open RecoveredDuplicate in
/-- Without `admitAll`, reports for `second` in the two orders leave `second`'s id `requested` or
`building`. -/
theorem late_building_report_advances_promoted_duplicate :
    settings.admitAll = false ∧
      (decodeMessage? building : Option BuildResponse).map (fun report => (report.state, report.request)) =
        some (.building, second) ∧
      (decodeMessage? built : Option BuildResponse).map (fun report => (report.state, report.request)) =
        some (.built, second) ∧
      ((loop.onResult building).2.onResult built).2.registry.stateOf "main" "a" = some .requested ∧
      ((loop.onResult built).2.onResult building).2.registry.stateOf "main" "a" = some .building := by
  decide +kernel

end BenchDispatch
