import ReleaseFeed.Element.Direct
import ReleaseFeed.Element.Read

/-! # The direct path writes what the read record would

A message can be made from an element in two ways: by reading the record and
encoding it, or by filling the slots of the message as the fields are read.  The
second is the first with the encoding moved inside: as computations, which read
fields, note anomalies and may fail, the slots of a message are the fields of the
record that is read (`headlineSlots_eq` to `seriesEntrySlots_eq`).  Both ways
look at the same fields in the same order, so they stop at the same missing name
and note the same anomalies.

`Record.fields` is the list of the fields of a record's table, slot by slot.
-/
namespace ReleaseFeed

open Wire in
/-- The fields of a record's table, first slot first. -/
def Record.fields : Record → List Field
  | economic e => Field.headline e.headline
      ++ [.measurement e.value, .measurement e.priorValue, .u64 e.priorEventId, .text e.priorPeriod]
      ++ Field.interval e.priorRelease
  | calendar e => Field.headline e.headline ++ [.u8 e.status.code]
  | log r => [.moment r.timestamp, .u8 r.component.code, .u8 r.status, .u64 r.correlationId,
      .text r.message]
  | reference d => [.u64 d.correlationId, .text d.globalId, .text d.shortId,
      .text d.description, .text d.frequency, .text d.units, .text d.country, .text d.source,
      .text d.seasonality]
  | seriesHeadline e =>
      [.u64 e.correlationId, .u8 e.kind.code, .u8 e.subkind.code, .u64 e.eventId, .text e.period]
      ++ Field.interval e.release ++ [.u64 e.priorEventId, .text e.priorPeriod]
      ++ Field.interval e.priorRelease ++ [.measurement e.value]
  | seriesEntry e =>
      [.u64 e.correlationId, .text e.globalId, .text e.shortId, .u8 e.kind.code, .u8 e.subkind.code,
        .text e.description, .u64 e.eventId, .text e.period]
      ++ Field.interval e.release ++ [.u8 e.status.code, .f64 e.relevance]

theorem Record.table_eq_ofFields (r : Record) : r.table = .ofFields r.fields := by
  cases r <;> rfl

theorem Record.encode_eq_fields (r : Record) :
    r.encode = Wire.enclose r.type (.ofFields r.fields) := by
  rw [Record.encode, r.table_eq_ofFields]

namespace Element
open Wire
variable {ε : Type} [Element ε]

/-! ## Slots and fields, kind by kind -/

theorem headlineSlots_eq (kind : FeedKind) (e : ε) :
    headlineSlots kind e = Field.headline <$> readHeadline kind e := by
  simp only [headlineSlots, readHeadline, map_bind, map_pure, Field.headline]

theorem economicSlots_eq (e : ε) :
    economicSlots e = (fun r => (Record.economic r).fields) <$> readEconomic e := by
  simp only [economicSlots, readEconomic, headlineSlots_eq, map_bind, map_pure, bind_map_left,
    Record.fields]

theorem calendarSlots_eq (e : ε) :
    calendarSlots e = (fun r => (Record.calendar r).fields) <$> readCalendar e := by
  simp only [calendarSlots, readCalendar, headlineSlots_eq, map_bind, map_pure, bind_map_left,
    Record.fields]

theorem referenceSlots_eq (e : ε) (correlationId : UInt64) :
    referenceSlots e correlationId =
      (fun r => (Record.reference r).fields) <$> readReference e correlationId := by
  simp only [referenceSlots, readReference, map_bind, map_pure, Record.fields]

theorem seriesHeadlineSlots_eq (e : ε) (correlationId : UInt64) :
    seriesHeadlineSlots e correlationId =
      (fun r => (Record.seriesHeadline r).fields) <$> readSeriesHeadline e correlationId := by
  simp only [seriesHeadlineSlots, readSeriesHeadline, map_bind, map_pure, Record.fields]

theorem seriesEntrySlots_eq (e : ε) (correlationId : UInt64) :
    seriesEntrySlots e correlationId =
      (fun r => (Record.seriesEntry r).fields) <$> readSeriesEntry e correlationId := by
  simp only [seriesEntrySlots, readSeriesEntry, map_bind, map_pure, Record.fields]

/-! ## Messages and records -/

/-- A message of a kind is that of the record of the kind that is read. -/
theorem messageAs_eq (kind : FeedKind) (e : ε) (correlationId : UInt64) :
    messageAs kind e correlationId = Record.encode <$> readAs kind e correlationId := by
  cases kind with
  | economic =>
    simp only [messageAs, slotsAs, readAs, economicSlots_eq, bind_map_left, map_bind, map_pure,
      Record.encode_eq_fields, Record.type, FeedKind.recordType]
  | calendar =>
    simp only [messageAs, slotsAs, readAs, calendarSlots_eq, bind_map_left, map_bind, map_pure,
      Record.encode_eq_fields, Record.type, FeedKind.recordType]
  | reference =>
    simp only [messageAs, slotsAs, readAs, referenceSlots_eq, bind_map_left, map_bind, map_pure,
      Record.encode_eq_fields, Record.type, FeedKind.recordType]
  -- the slots of a series headline cannot fail, and are lifted where others may
  | seriesHeadline =>
    simp only [messageAs, slotsAs, readAs, seriesHeadlineSlots_eq, liftM_map, bind_map_left,
      map_bind, map_pure, Record.encode_eq_fields, Record.type, FeedKind.recordType]
  | seriesEntry =>
    simp only [messageAs, slotsAs, readAs, seriesEntrySlots_eq, bind_map_left, map_bind, map_pure,
      Record.encode_eq_fields, Record.type, FeedKind.recordType]

theorem readMessage_eq (e : ε) (correlationId : UInt64) :
    readMessage e correlationId = Record.encode <$> readRecord e correlationId := by
  simp only [readMessage, readRecord, messageAs_eq, map_bind]

/-- An encoding moved inside a reading changes its result, and neither why it fails nor
what it notes. -/
theorem run_map {α β : Type} (f : α → β) (reading : Reading α) (notes : List Anomaly) :
    (f <$> reading).run.run notes =
      ((reading.run.run notes).1.map f, (reading.run.run notes).2) := by
  rw [ExceptT.run_map, StateT.run_map]
  rfl

/-- **The direct path and the path through the record agree** on every element: they give
a message and a record together, the message is the record's to the byte, and otherwise
both fail with the same error; and both leave the same anomalies, in the same order,
after whatever was noted before.  So they do where the kind is told and not found. -/
theorem direct_path (e : ε) (correlationId : UInt64) (notes : List Anomaly) :
    (readMessage e correlationId).run.run notes =
        (((readRecord e correlationId).run.run notes).1.map Record.encode,
          ((readRecord e correlationId).run.run notes).2) ∧
    ∀ kind, (messageAs kind e correlationId).run.run notes =
        (((readAs kind e correlationId).run.run notes).1.map Record.encode,
          ((readAs kind e correlationId).run.run notes).2) := by
  refine ⟨?_, fun kind => ?_⟩
  · rw [readMessage_eq, run_map]
  · rw [messageAs_eq, run_map]

end Element

end ReleaseFeed
