import ReleaseFeed.Element.Kind
import ReleaseFeed.Number.Numeral
import ReleaseFeed.Record

/-!
# Reading fields

One rule for every optional field: if it is there it is converted, else it has its default; text that is
no number gives an absent reading or 0.  A release or a measurement that is there in no known shape has
its default too, and is noted as an `Anomaly`.  Only a missing name makes reading fail, so that one bad
field never costs the rest of a record.
-/
namespace ReleaseFeed

/-- A field that was there in no known shape. -/
structure Anomaly where
  /-- The name of the field. -/
  field : String
  /-- What was there. -/
  found : String
deriving DecidableEq, Repr, Inhabited

namespace Anomaly

/-- What stands for the variant of a field that is no choice. -/
def notAChoice : String := "<not a choice>"

/-- The anomaly in words. -/
def message (a : Anomaly) : String :=
  "unrecognized variant '" ++ a.found ++ "' in " ++ a.field ++ ", using defaults"

end Anomaly

/-- Reading that notes anomalies. -/
abbrev Noting := StateM (List Anomaly)

/-- Reading that notes anomalies and may fail; what was noted before a failure is kept. -/
abbrev Reading := ExceptT FeedError Noting

namespace Reading

/-- The result of a reading and the anomalies that it noted. -/
def outcome {α : Type} (reading : Reading α) : Except FeedError α × List Anomaly :=
  reading.run.run []

/-- The result of a reading. -/
def result {α : Type} (reading : Reading α) : Except FeedError α :=
  reading.outcome.1

end Reading

/-- Adds an anomaly to the notes. -/
def note (field found : String) : Noting Unit :=
  modify (· ++ [⟨field, found⟩])

namespace Element

variable {ε : Type} [Element ε]

/-! ## Scalars -/

/-- A text that must be there; one that is no scalar reads as empty. -/
def requiredText (e : ε) (kind : FeedKind) (name : String) : Except FeedError String :=
  match field? e name with
  | some field => .ok ((text? field).getD "")
  | none => .error (.missing kind name)

/-- A text, by default empty. -/
def textField (e : ε) (name : String) : String :=
  ((field? e name).bind text?).getD ""

/-- An id, by default 0; a negative one is 0. -/
def idField (e : ε) (name : String) : UInt64 :=
  UInt64.ofNat (((field? e name).bind int?).getD 0).toInt.toNat

/-- The number at the start of an element's text, by default absent. -/
def readingOf (e : ε) : Float :=
  ((text? e).bind fun text => Number.readingAtStart? text.toList).getD absentReading

/-- A reading, by default absent. -/
def readingField (e : ε) (name : String) : Float :=
  ((field? e name).map readingOf).getD absentReading

/-- A count of contributors, by default 0; a negative one is 0. -/
def countField (e : ε) (name : String) : UInt32 :=
  let count := ((field? e name).bind text?).bind fun text => Number.countAtStart? text.toList
  UInt32.ofNat (count.getD 0).toNat

/-- A label in a vocabulary, by default the empty one. -/
def labelField {α : Type} (ofLabel : String → α) (e : ε) (name : String) : α :=
  ofLabel (textField e name)

/-- The kind of an event. -/
def kindField (e : ε) : EventKind :=
  labelField .ofLabel e "EVENT_TYPE"

/-- The subkind of an event. -/
def subkindField (e : ε) : EventSubkind :=
  labelField .ofLabel e "EVENT_SUBTYPE"

/-- The release status of a calendar entry. -/
def statusField (e : ε) : ReleaseStatus :=
  labelField .ofLabel e "RELEASE_STATUS"

/-! ## Choices -/

/-- The timestamp of an element that is a moment, else the epoch. -/
def timestampOf (e : ε) : Timestamp :=
  ((moment? e).map Moment.timestamp).getD .epoch

/-- A release from its selected variant: a date and time, a date, or a range with both ends; nothing if
the variant is none of these. -/
def intervalOf? (variant : ε) : Option Interval :=
  match name variant with
  | "DATETIME" | "DATE" =>
    some (if isNull variant then {} else .point (timestampOf variant))
  | "DATARANGE" =>
    match field? variant "START", field? variant "END" with
    | some start, some stop => some ⟨timestampOf start, timestampOf stop⟩
    | _, _ => some {}
  | _ => none

/-- A measurement from its selected variant: a single reading or a distribution. -/
def measurementOf? (variant : ε) : Option Measurement :=
  match name variant with
  | "SINGLE" => some (.single (readingOf variant))
  | "DISTRIBUTION" =>
    some (.distribution (countField variant "NUMBER") (readingField variant "LOW")
      (readingField variant "HIGH") (readingField variant "MEDIAN")
      (readingField variant "AVERAGE") (readingField variant "STANDARD_DEVIATION"))
  | _ => none

/-- A field that is a choice, by default `absent`; one that is there in no known shape is noted. -/
def choiceField {α : Type} (convert : ε → Option α) (absent : α) (e : ε) (name : String) : Noting α :=
  match field? e name with
  | none => pure absent
  | some field =>
    match choice? field with
    | none => do
      note name Anomaly.notAChoice
      return absent
    | some variant =>
      match convert variant with
      | some value => pure value
      | none => do
        note name (Element.name variant)
        return absent

/-- When something is released, by default unknown. -/
def intervalField (e : ε) (name : String) : Noting Interval :=
  choiceField intervalOf? {} e name

/-- What was measured, by default nothing. -/
def measurementField (e : ε) (name : String) : Noting Measurement :=
  choiceField measurementOf? .absent e name

end Element

/-! ## Revisions -/

/-- The release that a revision replaces. -/
structure Revision where
  eventId : UInt64 := 0
  period : String := ""
  release : Interval := {}
deriving DecidableEq, Repr, Inhabited

namespace Element

variable {ε : Type} [Element ε]

/-- The replaced release from the element that has its fields. -/
def revisionOf (e : ε) : Noting Revision := do
  return { eventId := idField e "PRIOR_EVENT_ID", period := textField e "PRIOR_OBSERVATION_PERIOD"
           release := ← intervalField e "PRIOR_ECO_RELEASE_DT" }

/-- The group that the replaced release may come in. -/
def revisionGroup? (e : ε) : Option ε :=
  field? e "REVISION_METADATA"

/-- The replaced release of a headline, by default none; it always comes in the group. -/
def groupedRevision (e : ε) : Noting Revision :=
  match revisionGroup? e with
  | some group => revisionOf group
  | none => pure {}

/-- The replaced release of a series headline, in the group or among the headline's own fields. -/
def flatRevision (e : ε) : Noting Revision :=
  revisionOf ((revisionGroup? e).getD e)

end Element

end ReleaseFeed
