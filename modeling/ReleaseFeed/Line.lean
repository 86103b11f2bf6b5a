import ReleaseFeed.Attributes
import ReleaseFeed.Number.Shortest
import ReleaseFeed.Text.Quoted
import ReleaseFeed.Wire.Codec

/-!
# Messages as lines of text

A log record is a line of five parts between bars.  Every other record is the time at which the line was
made, the type, and the fields that are there as `key=value` pairs; a buffer that holds no record is an
error line.  A text is put in quotes where it has white space, an equals sign or a quote in it, so that
the pairs can be told apart again.
-/
namespace ReleaseFeed.Line

/-- What stands after the equals sign. -/
inductive Value where
  /-- A number, a label or a time, which never needs quotes. -/
  | plain (text : String)
  /-- A text of the feed. -/
  | text (text : String)
deriving DecidableEq, Repr, Inhabited

/-- A field on a line. -/
structure Pair where
  key : String
  value : Value
deriving DecidableEq, Repr, Inhabited

namespace Value

/-- A text with this character in it is put in quotes. -/
def needsQuotes (c : Char) : Bool :=
  Text.isSpace c || c = '=' || c = '"'

/-- The value as it is written. -/
def written : Value → String
  | plain s => s
  | text s => if s.toList.any needsQuotes then Text.quoted s else s

end Value

/-! ## Attributes that are there -/

/-- An attribute of one part, unless it is an empty text, an absent reading or the epoch. -/
def single (key : String) : AttributeValue → List Pair
  | .text value => if value = "" then [] else [⟨key, .text value⟩]
  | .label value => [⟨key, .plain value⟩]
  | .number value => [⟨key, .plain (toString value)⟩]
  | .id value => [⟨key, .plain (toString value.toNat)⟩]
  | .reading value => if value.isNaN then [] else [⟨key, .plain (Number.text value)⟩]
  | .time value => if value.isEpoch then [] else [⟨key, .plain value.text⟩]
  | .interval _ | .measurement _ => []

/-- An attribute, unless it is absent.  A release is one time for a point, else both ends; a measurement
has a pair for each part that is there. -/
def pairsOf (a : Attribute) : List Pair :=
  match a.value with
  | .interval i =>
    if i.isPoint then single a.key (.time i.start)
    else single (a.key ++ ".start") (.time i.start) ++ single (a.key ++ ".end") (.time i.stop)
  | .measurement m =>
    if m.isAbsent then []
    else m.attributes.flatMap fun part => single (a.key ++ "." ++ part.key) part.value
  | value => single a.key value

/-! ## Lines -/

/-- The time of a line, to the millisecond. -/
def stamp (w : WallClock) : String :=
  w.date.text ++ "T" ++ w.time.clockText ++ "." ++ Text.padded 3 (w.time.nanos / 1_000_000 % 1000) ++ "Z"

/-- A stamp and the pairs after it. -/
def ofPairs (stamp : String) (pairs : List Pair) : String :=
  pairs.foldl (fun line pair => line ++ " " ++ pair.key ++ "=" ++ pair.value.written) stamp

/-- The time of a log record: its reading, or its microseconds where the calendar has no such time. -/
def logTime (t : Timestamp) : String :=
  match t.wallClock? with
  | some w => w.date.text ++ " " ++ w.time.clockText
  | none => toString t.micros.toNat

/-- The line of a log record: time, component, status, correlation id and message. -/
def ofLog (r : LogRecord) : String :=
  logTime r.timestamp ++ "|" ++ r.component.label ++ "|" ++ r.statusLabel ++ "|CorrelationID("
    ++ toString r.correlationId.toNat ++ ")|" ++ Text.onOneLine r.message

/-- The line of a record that is made at a given time. -/
def ofRecord (now : WallClock) : Record → String
  | .log r => ofLog r
  | r => ofPairs (stamp now) (⟨"type", .plain r.type.name⟩ :: r.attributes.flatMap pairsOf)

/-- The line of a buffer that holds no record. -/
def ofError (now : WallClock) (e : Wire.Error) (size : Nat) : String :=
  ofPairs (stamp now) [⟨"error", .text e.message⟩, ⟨"bytes", .plain (toString size)⟩]

/-- The line of a buffer that is made at a given time. -/
def ofBuffer (now : WallClock) (buffer : ByteArray) : String :=
  match Record.decode buffer with
  | .ok r => ofRecord now r
  | .error e => ofError now e buffer.size

end ReleaseFeed.Line
