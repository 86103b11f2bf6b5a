import ReleaseFeed.Line

/-!
# The notification bus

Every buffer that is published goes to the observers that were registered when publishing began, in the
order of registration.  An observer may fail, which is counted and does not keep the buffer from the
others, and it may register further observers, which get the next buffer.  While there is no observer,
each buffer becomes one line on the fallback sink.

Observers are values of a type `ω` that act on a world `σ`; what they do is `Observer.notify`.
-/
namespace ReleaseFeed

/-- What an observer does when it is notified. -/
structure Reaction (ω : Type) where
  failed : Bool := false
  /-- The observers that it registers, in order. -/
  registers : List ω := []
deriving Repr, Inhabited

/-- Observers that act on a world. -/
class Observer (ω : Type) (σ : outParam Type) where
  notify : ω → ByteArray → σ → Reaction ω × σ

/-- What the bus has done so far, in counters of 64 bits that start anew after their greatest number. -/
structure BusCounters where
  publishes : UInt64 := 0
  deliveries : UInt64 := 0
  observerFailures : UInt64 := 0
  fallbackLines : UInt64 := 0
  /-- Lines that the sink refused. -/
  fallbackErrors : UInt64 := 0
  /-- Log records of no component, which are dropped. -/
  suppressed : UInt64 := 0
deriving DecidableEq, Repr, Inhabited

/-- Where lines go; a line is taken whole or refused. -/
structure Sink where
  lines : List String := []
  refusing : Bool := false
deriving DecidableEq, Repr, Inhabited

/-- The sink after a line, and whether it took it. -/
def Sink.write (s : Sink) (line : String) : Bool × Sink :=
  if s.refusing then (false, s) else (true, { s with lines := s.lines ++ [line] })

/-- Observers in order of registration, and the fallback sink. -/
structure Bus (ω : Type) where
  observers : List ω := []
  sink : Sink := {}
  counters : BusCounters := {}
deriving Inhabited

namespace Bus

variable {ω σ : Type}

/-- The bus with one more observer at the end; it is notified once for each time it is registered. -/
def register (b : Bus ω) (o : ω) : Bus ω :=
  { b with observers := b.observers ++ [o] }

/-- The bus with other counters. -/
def count (b : Bus ω) (f : BusCounters → BusCounters) : Bus ω :=
  { b with counters := f b.counters }

/-- The bus after a line for the sink. -/
def fallBack (b : Bus ω) (line : String) : Bus ω :=
  match b.sink.write line with
  | (true, sink) =>
    { b with sink }.count fun c => { c with fallbackLines := c.fallbackLines + 1 }
  | (false, sink) =>
    { b with sink }.count fun c => { c with fallbackErrors := c.fallbackErrors + 1 }

variable [Observer ω σ]

/-- The bus and the world after one observer is notified. -/
def deliver (buffer : ByteArray) (state : Bus ω × σ) (o : ω) : Bus ω × σ :=
  let (b, world) := state
  let (reaction, world) := Observer.notify o buffer world
  let b := reaction.registers.foldl register b
  (b.count fun c =>
    if reaction.failed then { c with observerFailures := c.observerFailures + 1 }
    else { c with deliveries := c.deliveries + 1 }, world)

/-- The bus and the world after a buffer is published. -/
def publish (now : WallClock) (buffer : ByteArray) (b : Bus ω) (world : σ) : Bus ω × σ :=
  let b := b.count fun c => { c with publishes := c.publishes + 1 }
  match b.observers with
  | [] => (b.fallBack (Line.ofBuffer now buffer), world)
  | observers => observers.foldl (deliver buffer) (b, world)

/-- The log record that the bus publishes at a given time. -/
def logRecord (now : WallClock) (component : Component) (status : UInt8) (correlationId : UInt64)
    (message : String) : LogRecord :=
  { timestamp := .ofWallClock now 0, component, status, correlationId, message }

/-- The bus and the world after a log record is published; one of no component is dropped. -/
def log (now : WallClock) (component : Component) (status : UInt8) (correlationId : UInt64)
    (message : String) (b : Bus ω) (world : σ) : Bus ω × σ :=
  if component.isSuppressed then
    (b.count fun c => { c with suppressed := c.suppressed + 1 }, world)
  else
    let record := logRecord now component status correlationId message
    b.publish now (Record.encode (.log record)) world

end Bus

end ReleaseFeed
