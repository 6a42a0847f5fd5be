import BenchDispatch.Build.State
import BenchDispatch.Time.Instant
/-!
# Build records

The records that travel between the orchestrator and its workers: the summary of a push that a
repository's web hook reports, the request to build and benchmark one revision, the response a
worker sends back with its statistics and details, and the pieces of those.
-/

set_option autoImplicit false

namespace BenchDispatch

/-- The identity of a build; a push keeps its identity through redelivery. -/
abbrev BuildId := String

/-- What a build is for: the ref that was pushed. -/
abbrev BuildTarget := String

/-- A push reported by a repository's web hook. -/
structure PushSummary where
  id : BuildId
  timestamp : Instant
  ref : String
  before : String
  after : String
  repository : String
  pusher : String
  sender : String
  deriving DecidableEq

/-- A request to build and benchmark one revision of a target. -/
structure BuildRequest where
  id : BuildId
  timestamp : Instant
  source : String
  target : BuildTarget
  revision : String
  requester : String
  deriving DecidableEq

/-- The request a push asks for: the same identity and time, the repository as source, the
pushed ref as target, the revision after the push, and the pusher as requester. -/
def BuildRequest.ofSummary (summary : PushSummary) : BuildRequest where
  id := summary.id
  timestamp := summary.timestamp
  source := summary.repository
  target := summary.ref
  revision := summary.after
  requester := summary.pusher

/-- The time a worker spent in each stage, in whole milliseconds. -/
structure BuildStatistics where
  updateSourceMs : UInt64
  buildMs : UInt64
  benchmarkMs : UInt64
  deriving DecidableEq

/-- The time of all three stages together, which may pass 2^64 milliseconds. -/
def BuildStatistics.totalMs (statistics : BuildStatistics) : Nat :=
  statistics.updateSourceMs.toNat + statistics.buildMs.toNat + statistics.benchmarkMs.toNat

/-- How a detail's bytes are compressed. -/
inductive Compression where
  | gzip
  deriving Repr, DecidableEq

/-- How a detail's bytes are written as text. -/
inductive TextEncoding where
  | base64
  deriving Repr, DecidableEq

/-- A named attachment of a response, such as a log or a report. -/
structure BuildDetail where
  kind : String
  compression : Option Compression
  encoding : Option TextEncoding
  data : String
  deriving DecidableEq

/-- A detail holding plain text as it is. -/
def BuildDetail.text (kind data : String) : BuildDetail :=
  ⟨kind, none, none, data⟩

/-- What a worker reports about a build. -/
structure BuildResponse where
  id : BuildId
  timestamp : Instant
  state : BuildState
  request : BuildRequest
  statistics : Option BuildStatistics
  details : Option (List BuildDetail)
  deriving DecidableEq

namespace BuildResponse

/-- The response with these statistics in place of any it had. -/
def withStatistics (response : BuildResponse) (statistics : BuildStatistics) : BuildResponse :=
  { response with statistics := some statistics }

/-- The response with one more detail at the end, starting a list when it had none. -/
def withDetail (response : BuildResponse) (detail : BuildDetail) : BuildResponse :=
  { response with details := some (response.details.getD [] ++ [detail]) }

end BuildResponse

end BenchDispatch
