import BenchDispatch.Record.Basic
import BenchDispatch.Time.Duration
/-!
# Statistics as durations

The three stage times of a worker's statistics are durations, read from whole milliseconds and
written back as whole milliseconds. Their total adds them in stage order; an addition that
overflows has no total.
-/

set_option autoImplicit false

namespace BenchDispatch.BuildStatistics

/-- The time spent updating the source. -/
def updateSource (statistics : BuildStatistics) : Duration :=
  Duration.fromMillis statistics.updateSourceMs

/-- The time spent building. -/
def build (statistics : BuildStatistics) : Duration :=
  Duration.fromMillis statistics.buildMs

/-- The time spent benchmarking. -/
def benchmark (statistics : BuildStatistics) : Duration :=
  Duration.fromMillis statistics.benchmarkMs

/-- The three times added in stage order, or `none` where an addition would overflow. -/
def total (statistics : BuildStatistics) : Option Duration :=
  (statistics.updateSource.checkedAdd statistics.build).bind fun sum =>
    sum.checkedAdd statistics.benchmark

end BenchDispatch.BuildStatistics
