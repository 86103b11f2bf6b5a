/-!
# Spans of time

A span of time is whole seconds and nanoseconds below one second.
-/
namespace ReleaseFeed

/-- A span of time. -/
structure Duration where
  seconds : Nat := 0
  nanos : Nat := 0
deriving DecidableEq, Repr, Inhabited

namespace Duration

/-- A span of `n` microseconds. -/
def ofMicros (n : Nat) : Duration :=
  ⟨n / 1_000_000, n % 1_000_000 * 1000⟩

/-- A span of `n` milliseconds. -/
def ofMillis (n : Nat) : Duration :=
  ofMicros (n * 1000)

/-- No time at all. -/
def isZero (d : Duration) : Bool :=
  d.seconds == 0 && d.nanos == 0

end Duration

end ReleaseFeed
