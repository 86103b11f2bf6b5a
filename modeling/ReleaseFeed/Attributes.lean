import ReleaseFeed.Record

/-!
# Records by attribute

Every record can be looked at as a list of named attributes in a fixed order.  The names are the ones that
lines of text use.
-/
namespace ReleaseFeed

/-- What one field of a record holds. -/
inductive AttributeValue where
  | text (value : String)
  /-- A label of a vocabulary. -/
  | label (value : String)
  | number (value : Nat)
  /-- An id of 64 bits. -/
  | id (value : UInt64)
  | reading (value : Float)
  | time (value : Timestamp)
  | interval (value : Interval)
  | measurement (value : Measurement)
deriving DecidableEq, Repr, Inhabited

/-- One field of a record with its name. -/
structure Attribute where
  key : String
  value : AttributeValue
deriving DecidableEq, Repr, Inhabited

/-- The attributes that economic and calendar events start with. -/
def Headline.attributes (h : Headline) : List Attribute :=
  [⟨"global_id", .text h.globalId⟩, ⟨"short_id", .text h.shortId⟩,
    ⟨"description", .text h.description⟩, ⟨"kind", .label h.kind.label⟩,
    ⟨"subkind", .label h.subkind.label⟩, ⟨"event_id", .id h.eventId⟩,
    ⟨"observation_period", .text h.period⟩, ⟨"release", .interval h.release⟩]

/-- The attributes of a record, in a fixed order for each type. -/
def Record.attributes : Record → List Attribute
  | economic e => e.headline.attributes ++
    [⟨"value", .measurement e.value⟩, ⟨"prior_value", .measurement e.priorValue⟩,
      ⟨"prior_event_id", .id e.priorEventId⟩, ⟨"prior_observation_period", .text e.priorPeriod⟩,
      ⟨"prior_release", .interval e.priorRelease⟩]
  | calendar e => e.headline.attributes ++ [⟨"release_status", .label e.status.label⟩]
  | log r =>
    [⟨"timestamp", .time r.timestamp⟩, ⟨"module", .label r.component.label⟩,
      ⟨"status", .number r.status.toNat⟩, ⟨"status_name", .label r.statusLabel⟩,
      ⟨"correlation_id", .id r.correlationId⟩, ⟨"message", .text r.message⟩]
  | reference d =>
    [⟨"correlation_id", .id d.correlationId⟩, ⟨"global_id", .text d.globalId⟩,
      ⟨"short_id", .text d.shortId⟩, ⟨"description", .text d.description⟩,
      ⟨"frequency", .text d.frequency⟩, ⟨"units", .text d.units⟩, ⟨"country_iso", .text d.country⟩,
      ⟨"source", .text d.source⟩, ⟨"seasonality", .text d.seasonality⟩]
  | seriesHeadline e =>
    [⟨"correlation_id", .id e.correlationId⟩, ⟨"kind", .label e.kind.label⟩,
      ⟨"subkind", .label e.subkind.label⟩, ⟨"event_id", .id e.eventId⟩,
      ⟨"observation_period", .text e.period⟩, ⟨"release", .interval e.release⟩,
      ⟨"prior_event_id", .id e.priorEventId⟩, ⟨"prior_observation_period", .text e.priorPeriod⟩,
      ⟨"prior_release", .interval e.priorRelease⟩, ⟨"value", .measurement e.value⟩]
  | seriesEntry e =>
    [⟨"correlation_id", .id e.correlationId⟩, ⟨"global_id", .text e.globalId⟩,
      ⟨"short_id", .text e.shortId⟩, ⟨"kind", .label e.kind.label⟩,
      ⟨"subkind", .label e.subkind.label⟩, ⟨"description", .text e.description⟩,
      ⟨"event_id", .id e.eventId⟩, ⟨"observation_period", .text e.period⟩,
      ⟨"release", .interval e.release⟩, ⟨"release_status", .label e.status.label⟩,
      ⟨"relevance", .reading e.relevance⟩]

/-- The parts of a measurement by name. -/
def Measurement.attributes (m : Measurement) : List Attribute :=
  [⟨"count", .number m.count.toNat⟩, ⟨"value", .reading m.value⟩, ⟨"low", .reading m.low⟩,
    ⟨"high", .reading m.high⟩, ⟨"median", .reading m.median⟩, ⟨"average", .reading m.average⟩,
    ⟨"standard_deviation", .reading m.deviation⟩]

end ReleaseFeed
