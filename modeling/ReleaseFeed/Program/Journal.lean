import ReleaseFeed.Line
import ReleaseFeed.Program.Desk

/-!
# The journal

What the program reports about itself: events with a level, a message, and details.  The journal keeps the
events of its own level and of graver ones, one a line, for a reader or as JSON.
-/
namespace ReleaseFeed

/-- Something that happened. -/
structure Event where
  level : Level
  message : String
  details : List (String × String) := []
deriving DecidableEq, Repr, Inhabited

/-- Which events are kept, in which form, and where. -/
structure Journal where
  level : Level
  format : ReportFormat
  target : Target
deriving DecidableEq, Repr, Inhabited

namespace Event

/-- A level in capital letters, as wide as the widest one. -/
def levelText (level : Level) : String :=
  match level with
  | .trace => "TRACE"
  | .debug => "DEBUG"
  | .info => "INFO"
  | .warn => "WARN"
  | .error => "ERROR"

/-- A character inside a JSON text. -/
def jsonChar (c : Char) : String :=
  if c = '"' then "\\\""
  else if c = '\\' then "\\\\"
  else if c.toNat < 0x20 then
    "\\u00" ++ String.ofList [Nat.digitChar (c.toNat / 16), Nat.digitChar (c.toNat % 16)]
  else c.toString

/-- A JSON text. -/
def jsonText (text : String) : String :=
  "\"" ++ String.join (text.toList.map jsonChar) ++ "\""

/-- A JSON object of members whose values are spelled already. -/
def jsonObject (members : List (String × String)) : String :=
  "\x7b" ++ ",".intercalate (members.map fun (key, value) => jsonText key ++ ":" ++ value) ++ "\x7d"

/-- The line of an event at a given time. -/
def line (now : WallClock) (format : ReportFormat) (e : Event) : String :=
  match format with
  | .console =>
    let details := e.details.map fun (key, value) => " " ++ key ++ "=" ++ value
    Line.stamp now ++ " " ++ levelText e.level ++ " " ++ e.message ++ String.join details
  | .json =>
    let fields := ("message", e.message) :: e.details
    jsonObject [("timestamp", jsonText (Line.stamp now)), ("level", jsonText (levelText e.level)),
      ("fields", jsonObject (fields.map fun (key, value) => (key, jsonText value)))]

end Event

namespace Journal

/-- The journal keeps an event. -/
def keeps (j : Journal) (e : Event) : Bool :=
  j.level.rank ≤ e.level.rank

/-- Writes an event down, if the journal keeps it.  An event that cannot be written is lost. -/
def note (j : Journal) (now : WallClock) (e : Event) : StateM Desk Unit := do
  if j.keeps e then discard (Desk.writeLine j.target (e.line now j.format))

end Journal

end ReleaseFeed
