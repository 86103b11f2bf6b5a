import ReleaseFeed.Calendar

/-!
# Timestamps and release intervals

A timestamp carries a wall-clock reading as microseconds from 1970-01-01T00:00:00, together with the
UTC offset in minutes that the reading was taken in.  The offset is carried and never applied to the
reading.

Of the library that `ReleaseFeed.Calendar` speaks of, these definitions follow how times meet zones: a
zone is less than a day away from UTC (`Timestamp.hasZone`), a reading in a zone is an instant only if the
calendar holds both the reading and the instant (`Timestamp.instant?`), and it is written as the date, a
`T`, the time with six digits of its fraction, and the zone as a sign, hours and minutes
(`Timestamp.text`).
-/
namespace ReleaseFeed

/-- A wall-clock reading in microseconds and its offset from UTC in minutes. -/
structure Timestamp where
  micros : UInt64 := 0
  offset : Int16 := 0
deriving DecidableEq, Repr, Inhabited

namespace Timestamp

/-- The zero timestamp, which stands for an absent time. -/
def epoch : Timestamp := ⟨0, 0⟩

/-- The timestamp is the zero timestamp. -/
def isEpoch (t : Timestamp) : Bool :=
  t.micros == 0 && t.offset == 0

/-- The timestamp of a reading; readings before the epoch become the epoch's. -/
def ofWallClock (w : WallClock) (offset : Int16) : Timestamp :=
  ⟨UInt64.ofNat w.micros.toNat, offset⟩

/-- Midnight of a date. -/
def ofDate (d : Date) (offset : Int16) : Timestamp :=
  ofWallClock ⟨d, .midnight⟩ offset

/-- The reading, if it is in the calendar. -/
def wallClock? (t : Timestamp) : Option WallClock :=
  WallClock.ofMicros? t.micros.toNat

/-- An offset that a time zone can have: less than a day. -/
def hasZone (t : Timestamp) : Bool :=
  t.offset.toInt.natAbs < 24 * 60

/-- Microseconds from the epoch in UTC, which the offset shifts away from the reading. -/
def utcMicros (t : Timestamp) : Int :=
  t.micros.toNat - t.offset.toInt * 60_000_000

/-- The UTC instant of the reading, if the offset is less than a day and both are in the calendar. -/
def instant? (t : Timestamp) : Option Int :=
  if t.hasZone && t.wallClock?.isSome && (WallClock.ofMicros? t.utcMicros).isSome then
    some t.utcMicros
  else
    none

/-- The sign, hours and minutes of an offset. -/
def zoneText (offset : Int) : String :=
  (if offset < 0 then "-" else "+")
    ++ Text.padded 2 (offset.natAbs / 60) ++ ":" ++ Text.padded 2 (offset.natAbs % 60)

/-- Date, time to the microsecond and offset; the raw parts where there is no such instant. -/
def text (t : Timestamp) : String :=
  match t.instant?, t.wallClock? with
  | some _, some w =>
    w.date.text ++ "T" ++ w.time.clockText ++ "." ++ Text.padded 6 (w.time.nanos / 1000)
      ++ zoneText t.offset.toInt
  | _, _ => toString t.micros.toNat ++ "us" ++ Text.signed t.offset.toInt ++ "m"

/-- Timestamps are ordered by their readings, and by offset where the readings are equal. -/
def order (a b : Timestamp) : Ordering :=
  (compare a.micros.toNat b.micros.toNat).then (compare a.offset.toInt b.offset.toInt)

end Timestamp

/-- When something is released: from `start` to `stop`, which are equal for a point in time. -/
structure Interval where
  start : Timestamp := .epoch
  stop : Timestamp := .epoch
deriving DecidableEq, Repr, Inhabited

namespace Interval

/-- The interval that is one point in time. -/
def point (t : Timestamp) : Interval := ⟨t, t⟩

/-- Both ends are equal. -/
def isPoint (i : Interval) : Bool :=
  i.start == i.stop

end Interval

end ReleaseFeed
