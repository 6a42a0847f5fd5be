import BenchDispatch.Registry.Backlog
/-!
# The build registry

For every target the registry tracks the builds under way, one record per build id, and
remembers the ids of the last 32 builds it saw finish. A target with a build under way is busy:
a new request for it is held in the backlog, and when its last build finishes the backlog's
request for it becomes its next build.
-/

set_option autoImplicit false

namespace BenchDispatch

/-- A build under way: its request and its state. -/
structure BuildRecord where
  request : BuildRequest
  state : BuildState
  deriving DecidableEq

/-- What admitting a request did. -/
inductive Admission where
  /-- The target was idle: the request is tracked in `requesting`. -/
  | admitted
  /-- The target is busy: the request was offered to the backlog. -/
  | backlogged
  /-- The id is already under way in a state, or finished recently (reported as `built`). -/
  | duplicate (state : BuildState)
  deriving Repr, DecidableEq

/-- What completing a build did: whether its record is gone, and the request promoted from the
backlog. -/
structure Completion where
  removed : Bool
  next : Option BuildRequest

/-- How many finished ids a target remembers. -/
def finishedHistoryLength : Nat := 32

/-- The builds of one target: records under way, and finished ids oldest first. -/
structure TargetBuilds where
  active : List BuildRecord
  finished : List BuildId
  deriving Inhabited

namespace TargetBuilds

/-- No builds. -/
def empty : TargetBuilds := ⟨[], []⟩

/-- The state of the build with an id. -/
def stateOf (builds : TargetBuilds) (id : BuildId) : Option BuildState :=
  (builds.active.find? (·.request.id == id)).map (·.state)

/-- Whether an id is among the finished ones remembered. -/
def isFinished (builds : TargetBuilds) (id : BuildId) : Bool :=
  builds.finished.contains id

/-- The builds with the record for the request's id set to this request and state. -/
def track (builds : TargetBuilds) (request : BuildRequest) (state : BuildState) : TargetBuilds :=
  { builds with
    active := builds.active.filter (·.request.id != request.id) ++ [⟨request, state⟩] }

/-- The builds without the record for an id. -/
def untrack (builds : TargetBuilds) (id : BuildId) : TargetBuilds :=
  { builds with active := builds.active.filter (·.request.id != id) }

/-- Remembers an id as finished: an id already remembered keeps its place; otherwise it joins
at the end, and the oldest is forgotten when the history is full. -/
def finish (builds : TargetBuilds) (id : BuildId) : TargetBuilds :=
  if builds.finished.contains id then builds
  else
    let kept := if builds.finished.length = finishedHistoryLength then builds.finished.drop 1
      else builds.finished
    { builds with finished := kept ++ [id] }

end TargetBuilds

/-- The builds of every target. -/
structure BuildRegistry where
  targets : List (BuildTarget × TargetBuilds)
  deriving Inhabited

namespace BuildRegistry

/-- The registry with nothing tracked. -/
def empty : BuildRegistry := ⟨[]⟩

/-- The builds of a target. -/
def buildsOf (registry : BuildRegistry) (target : BuildTarget) : TargetBuilds :=
  ((registry.targets.find? (·.1 == target)).map (·.2)).getD TargetBuilds.empty

/-- The registry with the builds of a target replaced. -/
def setBuilds (registry : BuildRegistry) (target : BuildTarget) (builds : TargetBuilds) :
    BuildRegistry :=
  ⟨registry.targets.filter (·.1 != target) ++ [(target, builds)]⟩

/-- The state of a target's build with an id. -/
def stateOf (registry : BuildRegistry) (target : BuildTarget) (id : BuildId) :
    Option BuildState :=
  (registry.buildsOf target).stateOf id

/-- Tracks a request in a state unless its id is tracked in another state; true when it is
tracked in that state afterwards. A record in the same state keeps its request. -/
def insert (registry : BuildRegistry) (target : BuildTarget) (request : BuildRequest)
    (state : BuildState) : Bool × BuildRegistry :=
  let builds := registry.buildsOf target
  match builds.stateOf request.id with
  | none => (true, registry.setBuilds target (builds.track request state))
  | some current => (current == state, registry)

/-- Tracks a request in a state if its id is not tracked; true when it was not. -/
def insertIfAbsent (registry : BuildRegistry) (target : BuildTarget) (request : BuildRequest)
    (state : BuildState) : Bool × BuildRegistry :=
  let builds := registry.buildsOf target
  match builds.stateOf request.id with
  | none => (true, registry.setBuilds target (builds.track request state))
  | some _ => (false, registry)

/-- Moves a build from one state to another. An untracked id that has not finished is tracked
in the new state; a finished one is left alone. True when the build is in the new state
afterwards by this call. -/
def update (registry : BuildRegistry) (target : BuildTarget) (request : BuildRequest)
    (source destination : BuildState) : Bool × BuildRegistry :=
  let builds := registry.buildsOf target
  match builds.stateOf request.id with
  | none =>
    if builds.isFinished request.id then (false, registry)
    else (true, registry.setBuilds target (builds.track request destination))
  | some current =>
    if current == source then (true, registry.setBuilds target (builds.track request destination))
    else (false, registry)

/-- Stops tracking a build in the expected state; true when the id is untracked afterwards. -/
def remove (registry : BuildRegistry) (target : BuildTarget) (request : BuildRequest)
    (expected : BuildState) : Bool × BuildRegistry :=
  let builds := registry.buildsOf target
  match builds.stateOf request.id with
  | none => (true, registry)
  | some current =>
    if current == expected then (true, registry.setBuilds target (builds.untrack request.id))
    else (false, registry)

/-- Admits a request for its target: a duplicate id is reported, a request for a busy target
is offered to the backlog, and a request for an idle target is tracked in `requesting`. -/
def admitRequest (registry : BuildRegistry) (backlog : Backlog) (target : BuildTarget)
    (request : BuildRequest) : Admission × BuildRegistry × Backlog :=
  let builds := registry.buildsOf target
  match builds.stateOf request.id with
  | some state => (.duplicate state, registry, backlog)
  | none =>
    if builds.isFinished request.id then (.duplicate .built, registry, backlog)
    else if !builds.active.isEmpty then (.backlogged, registry, (backlog.offer target request).2)
    else (.admitted, registry.setBuilds target (builds.track request .requesting), backlog)

/-- Completes a build: its record goes if it is in the expected state or an earlier one, its
id is remembered as finished, and when the target has no build left the backlog's request for
it is tracked in `requesting` and returned. -/
def complete (registry : BuildRegistry) (backlog : Backlog) (target : BuildTarget)
    (request : BuildRequest) (expected : BuildState) : Completion × BuildRegistry × Backlog :=
  let builds := registry.buildsOf target
  let (removed, builds) := match builds.stateOf request.id with
    | none => (true, builds)
    | some current =>
      if current == expected || current.precedes expected then (true, builds.untrack request.id)
      else (false, builds)
  let builds := builds.finish request.id
  if builds.active.isEmpty then
    match backlog.drain target with
    | (some next, backlog) =>
      (⟨removed, some next⟩, registry.setBuilds target (builds.track next .requesting), backlog)
    | (none, backlog) => (⟨removed, none⟩, registry.setBuilds target builds, backlog)
  else (⟨removed, none⟩, registry.setBuilds target builds, backlog)

/-- The records under way for a target, by id. -/
def buildsFor (registry : BuildRegistry) (target : BuildTarget) : List BuildRecord :=
  (registry.buildsOf target).active.mergeSort fun a b => decide (a.request.id ≤ b.request.id)

/-- The number of builds under way over all targets. -/
def size (registry : BuildRegistry) : Nat :=
  registry.targets.foldr (fun entry total => entry.2.active.length + total) 0

end BuildRegistry

end BenchDispatch
