import ReleaseFeed.Duration
import ReleaseFeed.Telemetry.Event
import ReleaseFeed.Telemetry.Ring

/-!
# The telemetry queue

Events wait in a ring until they are written.  A push never waits: it is refused while the ring is full,
and from the moment the queue is stopped.  Accepted events without an id of their own get the ids 1, 2, 3
and so on.
-/
namespace ReleaseFeed.Telemetry

/-- What has become of the events so far, in counters of 64 bits that start anew after their greatest
number. -/
structure Counters where
  accepted : UInt64 := 0
  dropped : UInt64 := 0
  written : UInt64 := 0
  /-- Events that could not be written. -/
  failed : UInt64 := 0
deriving DecidableEq, Repr, Inhabited

/-- Accepted events of which nothing has become yet; 0 if more have been dealt with than accepted. -/
def Counters.pending (c : Counters) : Nat :=
  c.accepted.toNat - c.written.toNat - c.failed.toNat

/-- Events that wait to be written. -/
structure Queue where
  ring : Ring Event
  nextId : UInt64 := 1
  running : Bool := true
  counters : Counters := {}

namespace Queue

/-- The empty queue with room for a given number of events. -/
def ofCapacity (capacity : Nat) : Queue :=
  { ring := .ofCapacity capacity }

/-- The queue with one more event at the end, and the id of the event; 0 if it is refused. -/
def push (q : Queue) (e : Event) : UInt64 × Queue :=
  let fresh := e.id = 0
  let event := if fresh then { e with id := q.nextId } else e
  match if q.running then (q.ring.push event).toOption else none with
  | none => (0, { q with counters := { q.counters with dropped := q.counters.dropped + 1 } })
  | some ring =>
    (event.id,
      { q with
        ring
        nextId := if fresh then q.nextId + 1 else q.nextId
        counters := { q.counters with accepted := q.counters.accepted + 1 } })

/-- The oldest event and the queue without it. -/
def take? (q : Queue) : Option (Event × Queue) :=
  q.ring.pop?.map fun (event, ring) => (event, { q with ring })

/-- The queue after the writer has dealt with an event. -/
def settled (q : Queue) (wasWritten : Bool) : Queue :=
  let c := q.counters
  { q with counters :=
      if wasWritten then { c with written := c.written + 1 } else { c with failed := c.failed + 1 } }

/-- The queue that refuses all further events. -/
def stopped (q : Queue) : Queue :=
  { q with running := false }

end Queue

/-! ## Spans -/

/-- An operation whose start has been pushed. -/
structure Span where
  part : FixedText nameLimit
  metric : FixedText nameLimit
  /-- 0 if the start was refused. -/
  id : UInt64
deriving DecidableEq

namespace Span

/-- The message of a start. -/
def startMessage : String := "start"

/-- The message of an end. -/
def endMessage (elapsedMicros : Nat) : String :=
  "end elapsed_us=" ++ toString elapsedMicros

/-- The start of an operation. -/
def start (part metric : String) : Event :=
  .of part metric startMessage 0

/-- The span whose start was pushed and got this id. -/
def ofStart (part metric : String) (id : UInt64) : Span :=
  ⟨.ofString _ part, .ofString _ metric, id⟩

/-- The start is in the queue, so the end has to follow. -/
def isRecorded (s : Span) : Bool :=
  s.id != 0

/-- The end of an operation, if its start is in the queue. -/
def finish? (s : Span) (elapsedMicros : Nat) : Option Event :=
  if s.isRecorded then
    some ⟨s.part, s.metric, .ofString _ (endMessage elapsedMicros), s.id⟩
  else
    none

end Span

/-! ## Options -/

/-- What a queue with a writer needs. -/
structure Options where
  path : String
  capacity : Nat := 128
  /-- The longest that the writer sleeps. -/
  interval : Duration := .ofMillis 10
deriving DecidableEq, Repr

/-- Why a queue cannot be started with its options. -/
inductive OptionsFault where
  | noCapacity | noInterval | noPath
deriving DecidableEq, Repr, Inhabited

/-- The reason in words. -/
def OptionsFault.message (fault : OptionsFault) : String :=
  "invalid telemetry config: " ++ match fault with
    | noCapacity => "capacity must be greater than zero"
    | noInterval => "interval must be greater than zero"
    | noPath => "path must not be empty"

/-- The first fault of the options. -/
def Options.fault? (o : Options) : Option OptionsFault :=
  if o.capacity = 0 then some .noCapacity
  else if o.interval.isZero then some .noInterval
  else if o.path.isEmpty then some .noPath
  else none

end ReleaseFeed.Telemetry
