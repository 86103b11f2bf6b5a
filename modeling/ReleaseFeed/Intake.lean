import ReleaseFeed.Element.Direct
import ReleaseFeed.Element.Read
import ReleaseFeed.Station

/-!
# Intake of elements

The front end of the feed.  Each element is read as a record or turned into a message; what was noted on
the way, and why reading failed if it did, goes to the bus as log records of the system; and each call is
timed as a telemetry span.  Neither the bus nor the telemetry has any influence on the result.
-/
namespace ReleaseFeed.Intake

open Element

variable {ω σ ε α : Type} [Observer ω σ] [Element ε]

/-- The part of the program that the spans of intake name. -/
def part : String := "parser"

/-- The station after the anomalies and the failure of a call are reported, each when it is noted. -/
def report (noted : Nat → WallClock) (correlationId : UInt64) (anomalies : List Anomaly)
    (error? : Option FeedError) (s : Station ω σ) : Station ω σ :=
  let s := anomalies.zipIdx.foldl (fun s (a, n) => s.tell (noted n) .warning correlationId a.message) s
  match error? with
  | some error => s.tell (noted anomalies.length) .error correlationId error.message
  | none => s

/-- The result of reading an element, and the station after the report. -/
def call (time : CallTime) (reading : ε → UInt64 → Reading α) (e : ε) (correlationId : UInt64)
    (s : Station ω σ) : Except FeedError α × Station ω σ :=
  let (result, anomalies) := (reading e correlationId).outcome
  let error? := match result with
    | .error error => some error
    | .ok _ => none
  (result, s.timed time part (name e) (report time.noted correlationId anomalies error?))

/-- The record of an element. -/
def parse (time : CallTime) (e : ε) (correlationId : UInt64) (s : Station ω σ) :
    Except FeedError Record × Station ω σ :=
  call time readRecord e correlationId s

/-- The message of an element. -/
def encode (time : CallTime) (e : ε) (correlationId : UInt64) (s : Station ω σ) :
    Except FeedError ByteArray × Station ω σ :=
  call time readMessage e correlationId s

/-- Publishes the message of an element. -/
def process (time : CallTime) (e : ε) (correlationId : UInt64) (s : Station ω σ) :
    Except FeedError Unit × Station ω σ :=
  match encode time e correlationId s with
  | (.ok buffer, s) => (.ok (), s.publish time.published buffer)
  | (.error error, s) => (.error error, s)

end ReleaseFeed.Intake
