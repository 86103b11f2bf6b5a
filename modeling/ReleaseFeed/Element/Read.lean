import ReleaseFeed.Element.Field

/-!
# Elements to records

One reader for each kind of record, and `readRecord`, which finds the kind first.  The correlation id is
the subscription's and goes into series records only.
-/
namespace ReleaseFeed.Element

variable {ε : Type} [Element ε]

/-- What economic and calendar headlines have in common. -/
def readHeadline (kind : FeedKind) (e : ε) : Reading Headline := do
  let globalId ← requiredText e kind "ID_BB_GLOBAL"
  let shortId ← requiredText e kind "PARSEKYABLE_DES"
  return { globalId, shortId, description := textField e "DESCRIPTION", kind := kindField e
           subkind := subkindField e, eventId := idField e "EVENT_ID"
           period := textField e "OBSERVATION_PERIOD"
           release := ← intervalField e "ECO_RELEASE_DT" }

/-- An economic headline. -/
def readEconomic (e : ε) : Reading EconomicEvent := do
  let headline ← readHeadline .economic e
  let prior ← groupedRevision e
  return { headline, value := ← measurementField e "VALUE"
           priorValue := ← measurementField e "PRIOR_VALUE"
           priorEventId := prior.eventId, priorPeriod := prior.period, priorRelease := prior.release }

/-- A calendar headline. -/
def readCalendar (e : ε) : Reading CalendarEvent := do
  return { headline := ← readHeadline .calendar e, status := statusField e }

/-- The reference data of a series. -/
def readReference (e : ε) (correlationId : UInt64) : Reading ReferenceData := do
  let globalId ← requiredText e .reference "ID_BB_GLOBAL"
  let shortId ← requiredText e .reference "PARSEKYABLE_DES"
  return { correlationId, globalId, shortId, description := textField e "DESCRIPTION"
           frequency := textField e "INDX_FREQ", units := textField e "INDX_UNITS"
           country := textField e "COUNTRY_ISO", source := textField e "INDX_SOURCE"
           seasonality := textField e "SEASONALITY_AND_TRANSFORMATION" }

/-- A headline on a series; no field is required. -/
def readSeriesHeadline (e : ε) (correlationId : UInt64) : Noting SeriesHeadline := do
  let prior ← flatRevision e
  return { correlationId, kind := kindField e, subkind := subkindField e
           eventId := idField e "EVENT_ID", period := textField e "OBSERVATION_PERIOD"
           release := ← intervalField e "ECO_RELEASE_DT"
           priorEventId := prior.eventId, priorPeriod := prior.period, priorRelease := prior.release
           value := ← measurementField e "VALUE" }

/-- A calendar entry on a series. -/
def readSeriesEntry (e : ε) (correlationId : UInt64) : Reading SeriesEntry := do
  let globalId ← requiredText e .seriesEntry "ID_BB_GLOBAL"
  let shortId ← requiredText e .seriesEntry "PARSEKYABLE_DES"
  return { correlationId, globalId, shortId, kind := kindField e, subkind := subkindField e
           description := textField e "DESCRIPTION", eventId := idField e "EVENT_ID"
           period := textField e "OBSERVATION_PERIOD"
           release := ← intervalField e "ECO_RELEASE_DT"
           status := statusField e, relevance := readingField e "RELEVANCE_VALUE" }

/-- The record of a given kind whose fields an element has. -/
def readAs (kind : FeedKind) (e : ε) (correlationId : UInt64) : Reading Record := do
  match kind with
  | .economic => return .economic (← readEconomic e)
  | .calendar => return .calendar (← readCalendar e)
  | .reference => return .reference (← readReference e correlationId)
  | .seriesHeadline => return .seriesHeadline (← readSeriesHeadline e correlationId)
  | .seriesEntry => return .seriesEntry (← readSeriesEntry e correlationId)

/-- The record that an element holds. -/
def readRecord (e : ε) (correlationId : UInt64) : Reading Record := do
  let (kind, node) ← resolve e
  readAs kind node correlationId

end ReleaseFeed.Element
