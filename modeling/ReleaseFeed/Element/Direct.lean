import ReleaseFeed.Element.Field
import ReleaseFeed.Wire.Codec

/-!
# Elements to messages

The same field rules as for records, but each field goes straight into the slot of the message's table.
A message made this way has the bytes of the message of the record that is read from the element.
-/
namespace ReleaseFeed.Element

open Wire

variable {ε : Type} [Element ε]

/-- The slots that economic and calendar messages start with. -/
def headlineSlots (kind : FeedKind) (e : ε) : Reading (List Field) := do
  let names := [
    .text (← requiredText e kind "ID_BB_GLOBAL"),
    .text (← requiredText e kind "PARSEKYABLE_DES"),
    .text (textField e "DESCRIPTION"),
    .u8 (kindField e).code,
    .u8 (subkindField e).code,
    .u64 (idField e "EVENT_ID"),
    .text (textField e "OBSERVATION_PERIOD")]
  return names ++ Field.interval (← intervalField e "ECO_RELEASE_DT")

/-- The slots of an economic message. -/
def economicSlots (e : ε) : Reading (List Field) := do
  let headline ← headlineSlots .economic e
  let prior ← groupedRevision e
  let values := [
    .measurement (← measurementField e "VALUE"),
    .measurement (← measurementField e "PRIOR_VALUE"),
    .u64 prior.eventId,
    .text prior.period]
  return headline ++ values ++ Field.interval prior.release

/-- The slots of a calendar message. -/
def calendarSlots (e : ε) : Reading (List Field) := do
  return (← headlineSlots .calendar e) ++ [.u8 (statusField e).code]

/-- The slots of a reference message. -/
def referenceSlots (e : ε) (correlationId : UInt64) : Reading (List Field) := do
  return [
    .u64 correlationId,
    .text (← requiredText e .reference "ID_BB_GLOBAL"),
    .text (← requiredText e .reference "PARSEKYABLE_DES"),
    .text (textField e "DESCRIPTION"),
    .text (textField e "INDX_FREQ"),
    .text (textField e "INDX_UNITS"),
    .text (textField e "COUNTRY_ISO"),
    .text (textField e "INDX_SOURCE"),
    .text (textField e "SEASONALITY_AND_TRANSFORMATION")]

/-- The slots of a series headline message. -/
def seriesHeadlineSlots (e : ε) (correlationId : UInt64) : Noting (List Field) := do
  let prior ← flatRevision e
  let current := [
    .u64 correlationId,
    .u8 (kindField e).code,
    .u8 (subkindField e).code,
    .u64 (idField e "EVENT_ID"),
    .text (textField e "OBSERVATION_PERIOD")]
  let release ← intervalField e "ECO_RELEASE_DT"
  let value ← measurementField e "VALUE"
  return current ++ Field.interval release ++ [.u64 prior.eventId, .text prior.period]
    ++ Field.interval prior.release ++ [.measurement value]

/-- The slots of a series entry message. -/
def seriesEntrySlots (e : ε) (correlationId : UInt64) : Reading (List Field) := do
  let names := [
    .u64 correlationId,
    .text (← requiredText e .seriesEntry "ID_BB_GLOBAL"),
    .text (← requiredText e .seriesEntry "PARSEKYABLE_DES"),
    .u8 (kindField e).code,
    .u8 (subkindField e).code,
    .text (textField e "DESCRIPTION"),
    .u64 (idField e "EVENT_ID"),
    .text (textField e "OBSERVATION_PERIOD")]
  return names ++ Field.interval (← intervalField e "ECO_RELEASE_DT")
    ++ [.u8 (statusField e).code, .f64 (readingField e "RELEVANCE_VALUE")]

/-- The slots of the message of a given kind. -/
def slotsAs (kind : FeedKind) (e : ε) (correlationId : UInt64) : Reading (List Field) :=
  match kind with
  | .economic => economicSlots e
  | .calendar => calendarSlots e
  | .reference => referenceSlots e correlationId
  | .seriesHeadline => seriesHeadlineSlots e correlationId
  | .seriesEntry => seriesEntrySlots e correlationId

/-- The message of a given kind, from the element that has its fields. -/
def messageAs (kind : FeedKind) (e : ε) (correlationId : UInt64) : Reading ByteArray := do
  return enclose kind.recordType (.ofFields (← slotsAs kind e correlationId))

/-- The message of the record that an element holds. -/
def readMessage (e : ε) (correlationId : UInt64) : Reading ByteArray := do
  let (kind, node) ← resolve e
  messageAs kind node correlationId

end ReleaseFeed.Element
