import ReleaseFeed.Telemetry.FixedText
import ReleaseFeed.Text.Space

/-!
# Telemetry events

An event is a short record of what a part of the program did: the part, what it measured, a message and
an id, which the start and the end of one operation share.  In the file an event is one line of five
fields with bars between them; a text cannot hold a bar or a line break there.
-/
namespace ReleaseFeed.Telemetry

/-- The longest name of a part of the program, or of a metric, in bytes. -/
def nameLimit : Nat := 31

/-- The longest message in bytes. -/
def messageLimit : Nat := 255

/-- What a part of the program did. -/
structure Event where
  part : FixedText nameLimit
  metric : FixedText nameLimit
  message : FixedText messageLimit
  /-- 0 asks the queue for a fresh id. -/
  id : UInt64
deriving DecidableEq, Inhabited

namespace Event

/-- An event with as much of the texts as fits. -/
def of (part metric message : String) (id : UInt64) : Event :=
  ⟨.ofString _ part, .ofString _ metric, .ofString _ message, id⟩

/-- A character of a field: a bar becomes a slash, and a control character a space. -/
def fieldChar (c : Char) : Char :=
  if c = '|' then '/' else if Text.isControl c then ' ' else c

/-- A text as a field. -/
def field (cs : List Char) : String :=
  String.ofList (cs.map fieldChar)

/-- The line of an event that is written `micros` microseconds after 1970-01-01T00:00:00. -/
def line (e : Event) (micros : Int) : String :=
  toString micros ++ "|" ++ toString e.id.toNat ++ "|" ++ field e.part.chars ++ "|"
    ++ field e.metric.chars ++ "|" ++ field e.message.chars

end Event

end ReleaseFeed.Telemetry
