import ReleaseFeed.Measurement
import ReleaseFeed.Timestamp
import ReleaseFeed.Vocabulary

/-!
# Records

The six records that a message can carry.  Economic and calendar headlines share a `Headline`; the
series records carry the correlation id of a subscription; a log record is one diagnostic line.
`Record.same` is the equality of records in which all absent readings count as one value.
-/
namespace ReleaseFeed

/-- What economic and calendar headlines have in common. -/
structure Headline where
  globalId : String := ""
  shortId : String := ""
  description : String := ""
  kind : EventKind := .unknown
  subkind : EventSubkind := .unknown
  eventId : UInt64 := 0
  period : String := ""
  release : Interval := {}
deriving DecidableEq, Repr, Inhabited

/-- An economic release: actual, revision or estimate.  The prior fields describe the release that a
revision replaces. -/
structure EconomicEvent where
  headline : Headline := {}
  value : Measurement := {}
  priorValue : Measurement := {}
  priorEventId : UInt64 := 0
  priorPeriod : String := ""
  priorRelease : Interval := {}
deriving DecidableEq, Repr, Inhabited

/-- A scheduled or published calendar entry. -/
structure CalendarEvent where
  headline : Headline := {}
  status : ReleaseStatus := .unknown
deriving DecidableEq, Repr, Inhabited

/-- One diagnostic line of the feed adapter or of the pipeline. -/
structure LogRecord where
  timestamp : Timestamp := .epoch
  component : Component := .unknown
  /-- Read in the vocabulary of the component. -/
  status : UInt8 := 0
  correlationId : UInt64 := 0
  message : String := ""
deriving DecidableEq, Repr, Inhabited

/-- Descriptive metadata of one tracked series. -/
structure ReferenceData where
  correlationId : UInt64 := 0
  globalId : String := ""
  shortId : String := ""
  description : String := ""
  frequency : String := ""
  units : String := ""
  country : String := ""
  source : String := ""
  seasonality : String := ""
deriving DecidableEq, Repr, Inhabited

/-- A headline on a subscribed series, identified by correlation id only. -/
structure SeriesHeadline where
  correlationId : UInt64 := 0
  kind : EventKind := .unknown
  subkind : EventSubkind := .unknown
  eventId : UInt64 := 0
  period : String := ""
  release : Interval := {}
  priorEventId : UInt64 := 0
  priorPeriod : String := ""
  priorRelease : Interval := {}
  value : Measurement := {}
deriving DecidableEq, Repr, Inhabited

/-- A calendar entry on a subscribed series. -/
structure SeriesEntry where
  correlationId : UInt64 := 0
  globalId : String := ""
  shortId : String := ""
  kind : EventKind := .unknown
  subkind : EventSubkind := .unknown
  description : String := ""
  eventId : UInt64 := 0
  period : String := ""
  release : Interval := {}
  status : ReleaseStatus := .unknown
  /-- Absent when the feed gave no relevance score. -/
  relevance : Float := absentReading
deriving DecidableEq, Repr, Inhabited

/-- Any record that a message can carry. -/
inductive Record where
  | economic (event : EconomicEvent)
  | calendar (event : CalendarEvent)
  | log (record : LogRecord)
  | reference (data : ReferenceData)
  | seriesHeadline (event : SeriesHeadline)
  | seriesEntry (entry : SeriesEntry)
deriving DecidableEq, Repr, Inhabited

/-- What a message says it carries. -/
inductive RecordType where
  | economic | calendar | log | reference | seriesHeadline | seriesEntry
deriving DecidableEq, Repr, Inhabited

namespace RecordType

/-- Every type, in the order of the codes. -/
def all : List RecordType :=
  [economic, calendar, log, reference, seriesHeadline, seriesEntry]

/-- The code on the wire. -/
def code : RecordType → UInt8
  | economic => 1
  | calendar => 2
  | log => 3
  | reference => 4
  | seriesHeadline => 5
  | seriesEntry => 6

/-- The type with a given code; 0 and codes above 6 name none. -/
def ofCode? (byte : UInt8) : Option RecordType :=
  all.find? fun t => t.code == byte

/-- The name in text. -/
def name : RecordType → String
  | economic => "economic_event"
  | calendar => "calendar_event"
  | log => "log"
  | reference => "reference_data"
  | seriesHeadline => "macro_headline_event"
  | seriesEntry => "macro_calendar_event"

theorem ofCode?_code (t : RecordType) : ofCode? t.code = some t := by cases t <;> rfl

end RecordType

/-- The status name of a log record. -/
def LogRecord.statusLabel (r : LogRecord) : String :=
  r.component.statusLabel r.status

namespace Record

/-- The type of a record. -/
def type : Record → RecordType
  | economic _ => .economic
  | calendar _ => .calendar
  | log _ => .log
  | reference _ => .reference
  | seriesHeadline _ => .seriesHeadline
  | seriesEntry _ => .seriesEntry

/-- Equality of records in which all absent readings are equal and readings compare as numbers. -/
def same : Record → Record → Bool
  | economic a, economic b =>
    a.headline == b.headline && a.value.same b.value && a.priorValue.same b.priorValue
      && a.priorEventId == b.priorEventId && a.priorPeriod == b.priorPeriod
      && a.priorRelease == b.priorRelease
  | calendar a, calendar b => a == b
  | log a, log b => a == b
  | reference a, reference b => a == b
  | seriesHeadline a, seriesHeadline b =>
    a.correlationId == b.correlationId && a.kind == b.kind && a.subkind == b.subkind
      && a.eventId == b.eventId && a.period == b.period && a.release == b.release
      && a.priorEventId == b.priorEventId && a.priorPeriod == b.priorPeriod
      && a.priorRelease == b.priorRelease && a.value.same b.value
  | seriesEntry a, seriesEntry b =>
    a.correlationId == b.correlationId && a.globalId == b.globalId && a.shortId == b.shortId
      && a.kind == b.kind && a.subkind == b.subkind && a.description == b.description
      && a.eventId == b.eventId && a.period == b.period && a.release == b.release
      && a.status == b.status && sameReading a.relevance b.relevance
  | _, _ => false

end Record

end ReleaseFeed
