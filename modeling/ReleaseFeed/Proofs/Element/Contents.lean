import ReleaseFeed.Element.Read

/-! # What a record is made of

Reading an element notes what is misread and stops at an identifier that is missing.  What it
reads if it comes to an end depends on neither: each component of the record is converted from
one field, or has its default if the field is not there.  `recordAt` puts the record together in
this way, without notes or failures.
-/
namespace ReleaseFeed.Element
variable {ε : Type} [Element ε]

/-! ## One field -/

/-- The text that a field holds; one that is no scalar reads as empty. -/
def textIn (field : ε) : String :=
  (text? field).getD ""

/-- The id that a field holds. -/
def idIn (field : ε) : UInt64 :=
  UInt64.ofNat ((int? field).getD 0).toInt.toNat

/-- The release that a field tells, unknown if it selects no variant or not a known one. -/
def intervalIn (field : ε) : Interval :=
  ((choice? field).bind intervalOf?).getD {}

/-- The measurement that a field tells, nothing if it selects no variant or not a known one. -/
def measurementIn (field : ε) : Measurement :=
  ((choice? field).bind measurementOf?).getD .absent

theorem textField_eq (e : ε) (name : String) :
    textField e name = ((field? e name).map textIn).getD "" := by
  rw [textField]
  cases field? e name <;> rfl

theorem idField_eq (e : ε) (name : String) :
    idField e name = ((field? e name).map idIn).getD 0 := by
  rw [idField]
  cases field? e name <;> rfl

/-- A label that is not there reads as the one of the empty text. -/
theorem labelField_eq {α : Type} (ofLabel : String → α) (e : ε) (name : String) :
    labelField ofLabel e name =
      ((field? e name).map fun field => ofLabel (textIn field)).getD (ofLabel "") := by
  rw [labelField, textField_eq]
  cases field? e name <;> rfl

/-! ## Records -/

/-- When something is released. -/
def intervalAt (e : ε) (name : String) : Interval :=
  ((field? e name).map intervalIn).getD {}

/-- What was measured. -/
def measurementAt (e : ε) (name : String) : Measurement :=
  ((field? e name).map measurementIn).getD .absent

/-- The replaced release. -/
def revisionAt (e : ε) : Revision where
  eventId := idField e "PRIOR_EVENT_ID"
  period := textField e "PRIOR_OBSERVATION_PERIOD"
  release := intervalAt e "PRIOR_ECO_RELEASE_DT"

/-- The replaced release, if it comes in the group. -/
def groupedRevisionAt (e : ε) : Revision :=
  ((revisionGroup? e).map revisionAt).getD {}

/-- What economic and calendar headlines have in common. -/
def headlineAt (e : ε) : Headline where
  globalId := textField e "ID_BB_GLOBAL"
  shortId := textField e "PARSEKYABLE_DES"
  description := textField e "DESCRIPTION"
  kind := kindField e
  subkind := subkindField e
  eventId := idField e "EVENT_ID"
  period := textField e "OBSERVATION_PERIOD"
  release := intervalAt e "ECO_RELEASE_DT"

/-- An economic headline. -/
def economicAt (e : ε) : EconomicEvent where
  headline := headlineAt e
  value := measurementAt e "VALUE"
  priorValue := measurementAt e "PRIOR_VALUE"
  priorEventId := (groupedRevisionAt e).eventId
  priorPeriod := (groupedRevisionAt e).period
  priorRelease := (groupedRevisionAt e).release

/-- A calendar headline. -/
def calendarAt (e : ε) : CalendarEvent where
  headline := headlineAt e
  status := statusField e

/-- The reference data of a series. -/
def referenceAt (e : ε) (correlationId : UInt64) : ReferenceData where
  correlationId
  globalId := textField e "ID_BB_GLOBAL"
  shortId := textField e "PARSEKYABLE_DES"
  description := textField e "DESCRIPTION"
  frequency := textField e "INDX_FREQ"
  units := textField e "INDX_UNITS"
  country := textField e "COUNTRY_ISO"
  source := textField e "INDX_SOURCE"
  seasonality := textField e "SEASONALITY_AND_TRANSFORMATION"

/-- A headline on a series. -/
def seriesHeadlineAt (e : ε) (correlationId : UInt64) : SeriesHeadline :=
  let prior := revisionAt ((revisionGroup? e).getD e)
  { correlationId, kind := kindField e, subkind := subkindField e
    eventId := idField e "EVENT_ID", period := textField e "OBSERVATION_PERIOD"
    release := intervalAt e "ECO_RELEASE_DT"
    priorEventId := prior.eventId, priorPeriod := prior.period, priorRelease := prior.release
    value := measurementAt e "VALUE" }

/-- A calendar entry on a series. -/
def seriesEntryAt (e : ε) (correlationId : UInt64) : SeriesEntry where
  correlationId
  globalId := textField e "ID_BB_GLOBAL"
  shortId := textField e "PARSEKYABLE_DES"
  kind := kindField e
  subkind := subkindField e
  description := textField e "DESCRIPTION"
  eventId := idField e "EVENT_ID"
  period := textField e "OBSERVATION_PERIOD"
  release := intervalAt e "ECO_RELEASE_DT"
  status := statusField e
  relevance := readingField e "RELEVANCE_VALUE"

/-- The record of a kind that the fields of an element make up. -/
def recordAt (kind : FeedKind) (e : ε) (correlationId : UInt64) : Record :=
  match kind with
  | .economic => .economic (economicAt e)
  | .calendar => .calendar (calendarAt e)
  | .reference => .reference (referenceAt e correlationId)
  | .seriesHeadline => .seriesHeadline (seriesHeadlineAt e correlationId)
  | .seriesEntry => .seriesEntry (seriesEntryAt e correlationId)

end ReleaseFeed.Element
