/-!
# Durations

A span of time as whole seconds, a 64-bit count, and the nanoseconds past them, always below one
second. Adding two spans adds the seconds, then carries one second out of the nanoseconds when
they reach a whole second; a sum whose seconds do not fit in 64 bits has no value (the addition
operator panics there). Milliseconds are read from a 64-bit count, and a span is written as its
whole milliseconds, or the largest 64-bit count when they do not fit.
-/

set_option autoImplicit false

namespace BenchDispatch

/-- Nanoseconds in one second. -/
def nanosPerSecond : Nat := 1000000000

/-- A span of time: seconds, and nanoseconds past them below one second. -/
structure Duration where
  secs : UInt64
  nanos : Nat
  nanos_lt : nanos < nanosPerSecond
  deriving DecidableEq

namespace Duration

theorem fromMillis_nanos_lt (millis : UInt64) : (millis % 1000).toNat * 1000000 < nanosPerSecond := by
  have thousand : (1000 : UInt64).toNat = 1000 := rfl
  have below := Nat.mod_lt millis.toNat (show 0 < 1000 by decide)
  rw [UInt64.toNat_mod, thousand, nanosPerSecond]
  omega

/-- The span of a count of milliseconds. -/
def fromMillis (millis : UInt64) : Duration :=
  ⟨millis / 1000, (millis % 1000).toNat * 1000000, fromMillis_nanos_lt millis⟩

theorem carry_lt (a b : Duration) : a.nanos + b.nanos - nanosPerSecond < nanosPerSecond := by
  have left := a.nanos_lt
  have right := b.nanos_lt
  omega

/-- The sum of two spans, or `none` when its seconds overflow 64 bits: the seconds are added
first, and the carry out of the nanoseconds is a second addition of one. -/
def checkedAdd (a b : Duration) : Option Duration :=
  if a.secs.toNat + b.secs.toNat < UInt64.size then
    let secs := a.secs + b.secs
    let nanos := a.nanos + b.nanos
    if fits : nanos < nanosPerSecond then some ⟨secs, nanos, fits⟩
    else if secs.toNat + 1 < UInt64.size then some ⟨secs + 1, nanos - nanosPerSecond, carry_lt a b⟩
    else none
  else none

/-- The whole milliseconds of a span, exactly (the standard library returns them in 128 bits). -/
def asMillis (d : Duration) : Nat :=
  d.secs.toNat * 1000 + d.nanos / 1000000

/-- The milliseconds written for a span: its whole milliseconds when they fit in 64 bits, else the
largest 64-bit count. -/
def wireMillis (d : Duration) : UInt64 :=
  if d.asMillis < UInt64.size then d.asMillis.toUInt64 else UInt64.ofNat (UInt64.size - 1)

end Duration

end BenchDispatch
