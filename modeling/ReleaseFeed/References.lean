import Std.Data.HashMap
import ReleaseFeed.Wire.Codec

/-!
# Reference data by subscription

A subscription delivers one reference record and then events that carry only its correlation id.
`References` keeps the latest reference record of each subscription until the subscription ends, and joins
events with it.
-/
namespace ReleaseFeed

/-- The reference data of each live subscription, by correlation id. -/
structure References where
  entries : Std.HashMap UInt64 ReferenceData := {}

namespace References

/-- No subscription is live. -/
def empty : References := {}

instance : Inhabited References := ⟨empty⟩

/-- Stores the reference data of a subscription in place of what was stored for it. -/
def add (r : References) (data : ReferenceData) : References :=
  ⟨r.entries.insert data.correlationId data⟩

/-- The reference data of a subscription. -/
def get? (r : References) (correlationId : UInt64) : Option ReferenceData :=
  r.entries[correlationId]?

/-- Forgets a subscription, and gives what was stored for it. -/
def take (r : References) (correlationId : UInt64) : Option ReferenceData × References :=
  (r.get? correlationId, ⟨r.entries.erase correlationId⟩)

/-- Forgets a subscription. -/
def remove (r : References) (correlationId : UInt64) : References :=
  (r.take correlationId).2

/-- How many subscriptions are live. -/
def size (r : References) : Nat :=
  r.entries.size

/-- No subscription is live. -/
def isEmpty (r : References) : Bool :=
  r.entries.isEmpty

/-- A log record tells that its subscription has ended. -/
def endsSubscription (record : LogRecord) : Bool :=
  record.component == .subscription && (SubscriptionStatus.ofCode record.status).isEnded

/-- Forgets the subscription that a log record ends, and says whether it was live. -/
def observeLog (r : References) (record : LogRecord) : Bool × References :=
  if endsSubscription record then
    let (taken, rest) := r.take record.correlationId
    (taken.isSome, rest)
  else
    (false, r)

/-- Follows the published stream: reference records are stored, the ends of subscriptions forget, and
everything else changes nothing. -/
def notify (r : References) (buffer : ByteArray) : References :=
  match Record.decode buffer with
  | .ok (.reference data) => r.add data
  | .ok (.log record) => (r.observeLog record).2
  | _ => r

/-- The reference data to join with an event; empty but for the correlation id if there is none. -/
def joining (r : References) (correlationId : UInt64) : ReferenceData :=
  (r.get? correlationId).getD { correlationId }

/-- A headline with the reference data of its subscription. -/
def enrichHeadline (r : References) (event : SeriesHeadline) : SeriesHeadline × ReferenceData :=
  (event, r.joining event.correlationId)

/-- A calendar entry with the reference data of its subscription. -/
def enrichEntry (r : References) (entry : SeriesEntry) : SeriesEntry × ReferenceData :=
  (entry, r.joining entry.correlationId)

end References

end ReleaseFeed
