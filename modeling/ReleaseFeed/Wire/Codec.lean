import ReleaseFeed.Wire.Envelope

/-!
# Records as messages

`Record.table` puts each field of a record into the slot that the layout of its type has for it, and
`Record.ofTable` takes the fields out again; a slot that is absent, or that holds something else, gives
the field's default.  Writing always fills every slot, so that absent readings, zeros and empty texts
come back as they were.  `encode` and `decode` do this with whole messages.
-/
namespace ReleaseFeed.Wire

namespace Field

/-- A slot with a one-byte number. -/
abbrev u8 (value : UInt8) : Field := .scalar (.u8 value)

/-- A slot with an eight-byte number. -/
abbrev u64 (value : UInt64) : Field := .scalar (.u64 value)

/-- A slot with a reading. -/
abbrev f64 (value : Float) : Field := .scalar (.f64 value)

/-- A slot with the table of a timestamp. -/
def moment (t : Timestamp) : Field :=
  .child (.ofFields [u64 t.micros, .scalar (.i16 t.offset)])

/-- A slot with the table of a measurement. -/
def measurement (m : Measurement) : Field :=
  .child (.ofFields [.scalar (.u32 m.count), f64 m.value, f64 m.low, f64 m.high, f64 m.median,
    f64 m.average, f64 m.deviation])

/-- Two slots with the ends of an interval. -/
def interval (i : Interval) : List Field :=
  [moment i.start, moment i.stop]

/-- The slots that economic and calendar events start with. -/
def headline (h : Headline) : List Field :=
  [.text h.globalId, .text h.shortId, .text h.description, u8 h.kind.code, u8 h.subkind.code,
    u64 h.eventId, .text h.period] ++ interval h.release

end Field

namespace Table

/-! ## Fields with defaults -/

/-- A one-byte number, by default 0. -/
def u8 (t : Table) (slot : Nat) : UInt8 :=
  match t.get? slot with
  | some (.scalar (.u8 value)) => value
  | _ => 0

/-- A signed two-byte number, by default 0. -/
def i16 (t : Table) (slot : Nat) : Int16 :=
  match t.get? slot with
  | some (.scalar (.i16 value)) => value
  | _ => 0

/-- A four-byte number, by default 0. -/
def u32 (t : Table) (slot : Nat) : UInt32 :=
  match t.get? slot with
  | some (.scalar (.u32 value)) => value
  | _ => 0

/-- An eight-byte number, by default 0. -/
def u64 (t : Table) (slot : Nat) : UInt64 :=
  match t.get? slot with
  | some (.scalar (.u64 value)) => value
  | _ => 0

/-- A reading, by default absent. -/
def reading (t : Table) (slot : Nat) : Float :=
  match t.get? slot with
  | some (.scalar (.f64 value)) => value
  | _ => absentReading

/-- A text, by default empty. -/
def string (t : Table) (slot : Nat) : String :=
  match t.get? slot with
  | some (.text value) => value
  | _ => ""

/-- A table, by default one without slots. -/
def inner (t : Table) (slot : Nat) : Table :=
  match t.get? slot with
  | some (.child value) => value
  | _ => .done

/-- A timestamp, by default the epoch. -/
def timestamp (t : Table) (slot : Nat) : Timestamp :=
  ⟨(t.inner slot).u64 0, (t.inner slot).i16 1⟩

/-- An interval whose ends are in two slots. -/
def interval (t : Table) (slot : Nat) : Interval :=
  ⟨t.timestamp slot, t.timestamp (slot + 1)⟩

/-- A measurement, by default absent. -/
def measurement (t : Table) (slot : Nat) : Measurement :=
  let m := t.inner slot
  { count := m.u32 0, value := m.reading 1, low := m.reading 2, high := m.reading 3
    median := m.reading 4, average := m.reading 5, deviation := m.reading 6 }

/-- What economic and calendar events start with. -/
def headline (t : Table) : Headline :=
  { globalId := t.string 0, shortId := t.string 1, description := t.string 2
    kind := .ofCode (t.u8 3), subkind := .ofCode (t.u8 4), eventId := t.u64 5, period := t.string 6
    release := t.interval 7 }

end Table

end ReleaseFeed.Wire

namespace ReleaseFeed.Record

open Wire

/-- The table of a record: every slot of its layout is filled. -/
def table : Record → Wire.Table
  | economic e => .ofFields <| Field.headline e.headline
      ++ [.measurement e.value, .measurement e.priorValue, .u64 e.priorEventId, .text e.priorPeriod]
      ++ Field.interval e.priorRelease
  | calendar e => .ofFields <| Field.headline e.headline ++ [.u8 e.status.code]
  | log r => .ofFields [.moment r.timestamp, .u8 r.component.code, .u8 r.status, .u64 r.correlationId,
      .text r.message]
  | reference d => .ofFields [.u64 d.correlationId, .text d.globalId, .text d.shortId,
      .text d.description, .text d.frequency, .text d.units, .text d.country, .text d.source,
      .text d.seasonality]
  | seriesHeadline e => .ofFields <|
      [.u64 e.correlationId, .u8 e.kind.code, .u8 e.subkind.code, .u64 e.eventId, .text e.period]
      ++ Field.interval e.release ++ [.u64 e.priorEventId, .text e.priorPeriod]
      ++ Field.interval e.priorRelease ++ [.measurement e.value]
  | seriesEntry e => .ofFields <|
      [.u64 e.correlationId, .text e.globalId, .text e.shortId, .u8 e.kind.code, .u8 e.subkind.code,
        .text e.description, .u64 e.eventId, .text e.period]
      ++ Field.interval e.release ++ [.u8 e.status.code, .f64 e.relevance]

/-- The record of a given type that a table holds. -/
def ofTable (type : RecordType) (t : Wire.Table) : Record :=
  match type with
  | .economic => economic
      { headline := t.headline, value := t.measurement 9, priorValue := t.measurement 10
        priorEventId := t.u64 11, priorPeriod := t.string 12, priorRelease := t.interval 13 }
  | .calendar => calendar { headline := t.headline, status := .ofCode (t.u8 9) }
  | .log => log
      { timestamp := t.timestamp 0, component := .ofCode (t.u8 1), status := t.u8 2
        correlationId := t.u64 3, message := t.string 4 }
  | .reference => reference
      { correlationId := t.u64 0, globalId := t.string 1, shortId := t.string 2
        description := t.string 3, frequency := t.string 4, units := t.string 5
        country := t.string 6, source := t.string 7, seasonality := t.string 8 }
  | .seriesHeadline => seriesHeadline
      { correlationId := t.u64 0, kind := .ofCode (t.u8 1), subkind := .ofCode (t.u8 2)
        eventId := t.u64 3, period := t.string 4, release := t.interval 5
        priorEventId := t.u64 7, priorPeriod := t.string 8, priorRelease := t.interval 9
        value := t.measurement 11 }
  | .seriesEntry => seriesEntry
      { correlationId := t.u64 0, globalId := t.string 1, shortId := t.string 2
        kind := .ofCode (t.u8 3), subkind := .ofCode (t.u8 4), description := t.string 5
        eventId := t.u64 6, period := t.string 7, release := t.interval 8
        status := .ofCode (t.u8 10), relevance := t.reading 11 }

/-- A record comes back from its table as it was. -/
theorem ofTable_table (r : Record) : ofTable r.type r.table = r := by
  cases r <;>
    simp [ofTable, table, type, Table.ofFields, Table.cons, Field.headline, Field.interval,
      Field.moment, Field.measurement, Table.headline, Table.timestamp, Table.interval,
      Table.measurement, Table.inner, Table.u8, Table.i16, Table.u32, Table.u64, Table.reading,
      Table.string, Table.get?, EventKind.ofCode_code, EventSubkind.ofCode_code,
      ReleaseStatus.ofCode_code, Component.ofCode_code]

/-- The record as a message, however long. -/
def encode (r : Record) : ByteArray :=
  enclose r.type r.table

/-- The record as a message that a reader accepts. -/
def tryEncode (r : Record) : Except Wire.Error ByteArray :=
  let bytes := r.encode
  if bytes.size > maxMessageSize then .error (.tooLarge bytes.size maxMessageSize) else .ok bytes

/-- The record in a message. -/
def decode (buffer : ByteArray) : Except Wire.Error Record := do
  let type ← verify buffer
  let root ← Envelope.find buffer
  let message ← Envelope.message root
  return ofTable type (← message.read type.layout 0)

end ReleaseFeed.Record
