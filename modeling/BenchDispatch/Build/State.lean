/-!
# Build states

A build moves along a tree of states rooted at `requesting`: each state but the root has one
predecessor, the three failure states and `benchmarked` are leaves. A step is legal when it goes
from a state's predecessor to the state; one state precedes another when it lies on the path from
the other back to the root, the other itself excluded.
-/

set_option autoImplicit false

namespace BenchDispatch

/-- Where a build stands. -/
inductive BuildState where
  | requesting
  | requested
  | updatingSource
  | sourceUpdated
  | sourceUpdateFailed
  | building
  | built
  | buildFailed
  | benchmarking
  | benchmarkingFailed
  | benchmarked
  deriving Repr, DecidableEq, Inhabited

namespace BuildState

/-- Every state, in the order of the tree's backbone. -/
def all : List BuildState :=
  [.requesting, .requested, .updatingSource, .sourceUpdated, .sourceUpdateFailed, .building,
    .built, .buildFailed, .benchmarking, .benchmarkingFailed, .benchmarked]

/-- The state a build must be in just before this one; the root has none. -/
def predecessor : BuildState → Option BuildState
  | .requesting => none
  | .requested => some .requesting
  | .updatingSource => some .requested
  | .sourceUpdated => some .updatingSource
  | .sourceUpdateFailed => some .updatingSource
  | .building => some .sourceUpdated
  | .built => some .building
  | .buildFailed => some .building
  | .benchmarking => some .built
  | .benchmarkingFailed => some .benchmarking
  | .benchmarked => some .benchmarking

/-- The number of steps from the root. -/
def rank : BuildState → Nat
  | .requesting => 0
  | .requested => 1
  | .updatingSource => 2
  | .sourceUpdated => 3
  | .sourceUpdateFailed => 3
  | .building => 4
  | .built => 5
  | .buildFailed => 5
  | .benchmarking => 6
  | .benchmarkingFailed => 7
  | .benchmarked => 7

/-- A predecessor is one step nearer the root. -/
theorem rank_lt_of_predecessor {state earlier : BuildState} (step : state.predecessor = some earlier) :
    earlier.rank < state.rank := by
  cases state <;> simp only [predecessor, Option.some.injEq, reduceCtorEq] at step <;>
    subst step <;> decide

/-- The states on the path from this one back to the root, nearest first, this one excluded. -/
def ancestors (state : BuildState) : List BuildState :=
  match _step : state.predecessor with
  | none => []
  | some earlier => earlier :: ancestors earlier
termination_by state.rank
decreasing_by exact rank_lt_of_predecessor _step

/-- A failure ends a build without a benchmark. -/
def isFailure : BuildState → Bool
  | .sourceUpdateFailed | .buildFailed | .benchmarkingFailed => true
  | _ => false

/-- The one successful end. -/
def isFinalSuccess : BuildState → Bool
  | .benchmarked => true
  | _ => false

/-- A state from which the build goes on. -/
def isProgress (state : BuildState) : Bool :=
  !state.isFailure && !state.isFinalSuccess

/-- A state in which the build has ended, well or not. -/
def isFinal (state : BuildState) : Bool :=
  state.isFailure || state.isFinalSuccess

/-- A step is legal when it starts at the target state's predecessor. -/
def isLegalStep (source target : BuildState) : Bool :=
  target.predecessor == some source

/-- `earlier.precedes later`: `earlier` lies on the path from `later` back to the root. -/
def precedes (earlier later : BuildState) : Bool :=
  later.ancestors.contains earlier

/-- The wire tag. -/
def tag : BuildState → String
  | .requesting => "REQUESTING"
  | .requested => "REQUESTED"
  | .updatingSource => "UPDATING_SOURCE"
  | .sourceUpdated => "SOURCE_UPDATED"
  | .sourceUpdateFailed => "SOURCE_UPDATE_FAILED"
  | .building => "BUILDING"
  | .built => "BUILT"
  | .buildFailed => "BUILD_FAILED"
  | .benchmarking => "BENCHMARKING"
  | .benchmarkingFailed => "BENCHMARKING_FAILED"
  | .benchmarked => "BENCHMARKED"

/-- The state with exactly this tag: case matters and nothing is trimmed. -/
def ofTag? (text : String) : Option BuildState :=
  all.find? fun state => state.tag == text

end BuildState

end BenchDispatch
