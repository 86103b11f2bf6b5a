import ReleaseFeed.Timestamp

/-!
# Elements of the feed

The feed delivers each record as a tree of named elements.  A reader looks at elements through the class
`Element` only: a name, named fields, the selected variant of a choice, and the scalar of a leaf as
text, as an integer or as a moment.
-/
namespace ReleaseFeed

/-- A moment of the feed; the date, the time of day or both may be absent. -/
structure Moment where
  date : Option Date := none
  time : Option TimeOfDay := none
  /-- Minutes from UTC. -/
  offset : Int16 := 0
deriving DecidableEq, Repr, Inhabited

namespace Moment

/-- The timestamp of a moment.  An absent date is 1970-01-01, and an absent time is midnight. -/
def timestamp (m : Moment) : Timestamp :=
  .ofWallClock ⟨m.date.getD .epoch, m.time.getD .midnight⟩ m.offset

/-- The parts that are there, joined by a `T`. -/
def text (m : Moment) : String :=
  match m.date, m.time with
  | some date, some time => date.text ++ "T" ++ time.text
  | some date, none => date.text
  | none, some time => time.text
  | none, none => ""

end Moment

/-- Read access to one element of a tree. -/
class Element (ε : Type) where
  /-- The name of the element. -/
  name : ε → String
  /-- The field of that name. -/
  field? : ε → String → Option ε
  /-- The selected variant, if the element is a choice. -/
  choice? : ε → Option ε
  /-- The element holds nothing. -/
  isNull : ε → Bool
  /-- The scalar of a leaf in text. -/
  text? : ε → Option String
  /-- The scalar of a leaf as an integer. -/
  int? : ε → Option Int64
  /-- The scalar of a leaf as a moment. -/
  moment? : ε → Option Moment

namespace Element

variable {ε : Type} [Element ε]

/-- There is a field of that name. -/
def hasField (e : ε) (name : String) : Bool :=
  (field? e name).isSome

/-- The element is a choice. -/
def isChoice (e : ε) : Bool :=
  (choice? e).isSome

end Element

end ReleaseFeed
