import BenchDispatch.Record.Statistics
import BenchDispatch.Record.Codec

/-! Durations counted in nanoseconds, and the total of a worker's statistics. The one number a
span's seconds and nanoseconds stand for is `toNanos`; adding spans adds these counts as long as
the seconds of the sum fit in 64 bits, and a span's milliseconds are its count divided by a
million. Three stage times of fewer than 2^64 milliseconds each add up to far fewer than 2^64
seconds, so the total of any statistics exists and its milliseconds are the exact sum, past
2^64 - 1 where it goes there; and each stage time is written back as the count it was read
from. -/

set_option autoImplicit false

namespace BenchDispatch

namespace Duration

/-- The nanoseconds a span stands for. -/
def toNanos (d : Duration) : Nat :=
  d.secs.toNat * nanosPerSecond + d.nanos

theorem asMillis_eq_toNanos_div (d : Duration) : d.asMillis = d.toNanos / 1000000 := by
  have below := d.nanos_lt
  unfold asMillis toNanos
  unfold nanosPerSecond at below ⊢
  omega

theorem toNanos_fromMillis (millis : UInt64) : (fromMillis millis).toNanos = millis.toNat * 1000000 := by
  have thousand : (1000 : UInt64).toNat = 1000 := rfl
  simp only [fromMillis, toNanos, nanosPerSecond, UInt64.toNat_div, UInt64.toNat_mod, thousand]
  omega

theorem asMillis_fromMillis (millis : UInt64) : (fromMillis millis).asMillis = millis.toNat := by
  rw [asMillis_eq_toNanos_div, toNanos_fromMillis, Nat.mul_div_cancel _ (by decide)]

/-- Adding two spans adds their nanoseconds exactly while the sum stays below 2^64 seconds. -/
theorem checkedAdd_of_lt {a b : Duration} (fits : a.toNanos + b.toNanos < UInt64.size * nanosPerSecond) :
    ∃ c, a.checkedAdd b = some c ∧ c.toNanos = a.toNanos + b.toNanos := by
  have left := a.nanos_lt
  have right := b.nanos_lt
  unfold toNanos at fits
  unfold nanosPerSecond at left right fits
  have secsFit : a.secs.toNat + b.secs.toNat < UInt64.size := by
    simp only [UInt64.size] at fits ⊢
    omega
  have sumSecs : (a.secs + b.secs).toNat = a.secs.toNat + b.secs.toNat := by
    rw [UInt64.toNat_add]
    exact Nat.mod_eq_of_lt secsFit
  unfold checkedAdd
  rw [if_pos secsFit]
  by_cases carry : a.nanos + b.nanos < nanosPerSecond
  · rw [dif_pos carry]
    refine ⟨_, rfl, ?_⟩
    simp only [toNanos, sumSecs, nanosPerSecond]
    omega
  · -- the nanoseconds reach a whole second, which the sum still has room for
    rw [dif_neg carry]
    unfold nanosPerSecond at carry
    have carryFits : (a.secs + b.secs).toNat + 1 < UInt64.size := by
      rw [sumSecs]
      simp only [UInt64.size] at fits ⊢
      omega
    rw [if_pos carryFits]
    refine ⟨_, rfl, ?_⟩
    have one : (1 : UInt64).toNat = 1 := rfl
    have oneMore : (a.secs + b.secs + 1).toNat = (a.secs + b.secs).toNat + 1 := by
      rw [UInt64.toNat_add, one]
      exact Nat.mod_eq_of_lt carryFits
    simp only [toNanos, oneMore, sumSecs, nanosPerSecond]
    omega

end Duration

namespace BuildStatistics

/-- A stage time is under 2^64 milliseconds, a million nanoseconds each. -/
theorem toNanos_fromMillis_lt (millis : UInt64) :
    (Duration.fromMillis millis).toNanos < UInt64.size * 1000000 := by
  rw [Duration.toNanos_fromMillis]
  exact Nat.mul_lt_mul_of_pos_right millis.toNat_lt_size (by decide)

/-- The total of any statistics exists, and its milliseconds are the exact sum of the three. -/
theorem total_asMillis (statistics : BuildStatistics) :
    ∃ total, statistics.total = some total ∧
      total.asMillis = statistics.updateSourceMs.toNat + statistics.buildMs.toNat + statistics.benchmarkMs.toNat := by
  have first := toNanos_fromMillis_lt statistics.updateSourceMs
  have second := toNanos_fromMillis_lt statistics.buildMs
  have third := toNanos_fromMillis_lt statistics.benchmarkMs
  -- three counts below 2^64 million nanoseconds stay far below 2^64 seconds
  have room : UInt64.size * 1000000 * 3 ≤ UInt64.size * nanosPerSecond := by decide
  obtain ⟨sum, added, sumNanos⟩ : ∃ sum, statistics.updateSource.checkedAdd statistics.build = some sum ∧
      sum.toNanos = statistics.updateSource.toNanos + statistics.build.toNanos :=
    Duration.checkedAdd_of_lt (by unfold updateSource build; omega)
  obtain ⟨total, totaled, totalNanos⟩ : ∃ total, sum.checkedAdd statistics.benchmark = some total ∧
      total.toNanos = sum.toNanos + statistics.benchmark.toNanos :=
    Duration.checkedAdd_of_lt (by rw [sumNanos]; unfold updateSource build benchmark; omega)
  refine ⟨total, by rw [BuildStatistics.total, added, Option.bind_some, totaled], ?_⟩
  rw [Duration.asMillis_eq_toNanos_div, totalNanos, sumNanos, updateSource, build, benchmark,
    Duration.toNanos_fromMillis, Duration.toNanos_fromMillis, Duration.toNanos_fromMillis]
  omega

/-- A stage time read from a count of milliseconds is written back as that count. -/
theorem wireMillis_fromMillis (millis : UInt64) : (Duration.fromMillis millis).wireMillis = millis := by
  rw [Duration.wireMillis, Duration.asMillis_fromMillis, if_pos millis.toNat_lt_size, Nat.toUInt64_eq,
    UInt64.ofNat_toNat]

end BuildStatistics

open JsonCodec in
/-- The total of a worker's statistics never overflows, and its milliseconds are the exact sum of
the three stage times, which may pass 2^64 - 1. Each stage time is written back as the count it was
read from, so the written statistics are the three durations' milliseconds, never saturated. -/
theorem statistics_total_is_exact_sum (statistics : BuildStatistics) :
    (∃ total, statistics.total = some total ∧
      total.asMillis = statistics.updateSourceMs.toNat + statistics.buildMs.toNat + statistics.benchmarkMs.toNat) ∧
    statistics.updateSource.wireMillis = statistics.updateSourceMs ∧
    statistics.build.wireMillis = statistics.buildMs ∧
    statistics.benchmark.wireMillis = statistics.benchmarkMs ∧
    toJson statistics = .object [("update_source_ms", toJson statistics.updateSource.wireMillis),
      ("build_ms", toJson statistics.build.wireMillis), ("benchmark_ms", toJson statistics.benchmark.wireMillis)] := by
  have updateSource := BuildStatistics.wireMillis_fromMillis statistics.updateSourceMs
  have build := BuildStatistics.wireMillis_fromMillis statistics.buildMs
  have benchmark := BuildStatistics.wireMillis_fromMillis statistics.benchmarkMs
  refine ⟨statistics.total_asMillis, updateSource, build, benchmark, ?_⟩
  rw [BuildStatistics.updateSource, BuildStatistics.build, BuildStatistics.benchmark, updateSource, build,
    benchmark]
  rfl


end BenchDispatch
