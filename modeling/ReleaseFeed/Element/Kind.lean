import ReleaseFeed.Element.Basic
import ReleaseFeed.Record

/-!
# Kinds of feed records

The name of an element, or of the variant that it selects, tells what kind of record it holds and which
element has the fields.  `FeedError` is why an element gives no record.
-/
namespace ReleaseFeed

/-- The records that the feed delivers. -/
inductive FeedKind where
  | economic | calendar | reference | seriesHeadline | seriesEntry
deriving DecidableEq, Repr, Inhabited

namespace FeedKind

/-- Every kind. -/
def all : List FeedKind :=
  [economic, calendar, reference, seriesHeadline, seriesEntry]

/-- The name of the feed's element. -/
def name : FeedKind → String
  | economic => "HeadlineEconomicEvent"
  | calendar => "HeadlineCalendarEvent"
  | reference => "MacroReferenceData"
  | seriesHeadline => "MacroHeadlineEvent"
  | seriesEntry => "MacroCalendarEvent"

/-- The kind that an element's name tells. -/
def ofName? (name : String) : Option FeedKind :=
  all.find? fun kind => kind.name == name

/-- The type of the record that is read from it. -/
def recordType : FeedKind → RecordType
  | economic => .economic
  | calendar => .calendar
  | reference => .reference
  | seriesHeadline => .seriesHeadline
  | seriesEntry => .seriesEntry

end FeedKind

/-- Why an element gives no record. -/
inductive FeedError where
  /-- A name that a record of this kind needs is absent. -/
  | missing (kind : FeedKind) (field : String)
  /-- The element is of no known kind. -/
  | unknownKind (name : String)
deriving DecidableEq, Repr, Inhabited

namespace FeedError

/-- The reason in words. -/
def message : FeedError → String
  | missing kind field => kind.name ++ ": missing required field " ++ field
  | unknownKind name => "unrecognized record element '" ++ name ++ "'"

/-- The element can be passed over; an unknown kind can, a record without its names is malformed. -/
def isRecoverable : FeedError → Bool
  | unknownKind _ => true
  | missing .. => false

end FeedError

open Element in
/-- The kind of an element and the element that has the fields.  A named record may be a choice whose
selected variant repeats the name; an element of another name may select a named record. -/
def resolve {ε : Type} [Element ε] (e : ε) : Except FeedError (FeedKind × ε) :=
  let selected := (choice? e).bind fun variant =>
    (FeedKind.ofName? (name variant)).map fun kind => (kind, variant)
  match FeedKind.ofName? (name e), selected with
  | some kind, some (variantKind, variant) =>
    .ok (kind, if variantKind = kind then variant else e)
  | some kind, none => .ok (kind, e)
  | none, some (kind, variant) => .ok (kind, variant)
  | none, none => .error (.unknownKind (name e))

end ReleaseFeed
