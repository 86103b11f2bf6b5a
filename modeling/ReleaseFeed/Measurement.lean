/-!
# Measurements

A measurement is a single reading or a distribution over several contributors.  A field that does not
apply holds NaN, which is never a reading.
-/
namespace ReleaseFeed

/-- The number that stands for an absent reading. -/
def absentReading : Float := Float.ofBits 0x7FF8000000000000

/-- Two readings are the same: both absent, or numerically equal. -/
def sameReading (a b : Float) : Bool :=
  (a.isNaN && b.isNaN) || a == b

/-- A single reading or a distribution summarised from `count` contributors. -/
structure Measurement where
  /-- 0 when nothing was measured, 1 for a single reading. -/
  count : UInt32 := 0
  value : Float := absentReading
  low : Float := absentReading
  high : Float := absentReading
  median : Float := absentReading
  average : Float := absentReading
  deviation : Float := absentReading
deriving DecidableEq, Repr, Inhabited

namespace Measurement

/-- Nothing was measured. -/
def absent : Measurement := {}

/-- A single reading. -/
def single (value : Float) : Measurement :=
  { count := 1, value }

/-- A distribution over `count` contributors. -/
def distribution (count : UInt32) (low high median average deviation : Float) : Measurement :=
  { count, low, high, median, average, deviation }

/-- Field-wise equality in which all absent readings are equal. -/
def same (a b : Measurement) : Bool :=
  a.count == b.count && sameReading a.value b.value && sameReading a.low b.low
    && sameReading a.high b.high && sameReading a.median b.median
    && sameReading a.average b.average && sameReading a.deviation b.deviation

/-- Nothing was measured. -/
def isAbsent (m : Measurement) : Bool :=
  m.same absent

end Measurement

end ReleaseFeed
