import ReleaseFeed.Bus
import ReleaseFeed.Telemetry.Machine

/-!
# Stations

A station is what a call reports to: a bus, the world that the observers of the bus act on, and telemetry.
Both the bus and the telemetry may be absent; a call then does without them.
-/
namespace ReleaseFeed

/-- What clocks show in the course of a call.  Each reading is taken by itself, so that time may pass
between any two of them, or be set back. -/
structure CallTime where
  /-- When the telemetry writes that the call has begun. -/
  begun : WallClock
  /-- When the `n`-th log record about the call is published. -/
  noted : (n : Nat) → WallClock
  /-- When the message of the call is published. -/
  published : WallClock
  /-- When the telemetry writes that the call has ended. -/
  ended : WallClock
  elapsedMicros : Nat := 0
deriving Inhabited

/-- A call in the course of which no time passes. -/
def CallTime.still (now : WallClock) : CallTime :=
  { begun := now, noted := fun _ => now, published := now, ended := now }

/-- What a call reports to. -/
structure Station (ω σ : Type) where
  bus : Option (Bus ω) := none
  telemetry : Option Telemetry.Machine := none
  /-- What the observers of the bus act on. -/
  world : σ

namespace Station

variable {ω σ : Type} [Observer ω σ]

/-- The station after its bus, if there is one, has done something. -/
def onBus (s : Station ω σ) (act : Bus ω → σ → Bus ω × σ) : Station ω σ :=
  match s.bus with
  | none => s
  | some bus =>
    let (bus, world) := act bus s.world
    { s with bus := some bus, world }

/-- The station after its bus, if there is one, has published a buffer. -/
def publish (now : WallClock) (buffer : ByteArray) (s : Station ω σ) : Station ω σ :=
  s.onBus (Bus.publish now buffer)

/-- The station after its bus, if there is one, is told a status of the system. -/
def tell (now : WallClock) (status : SystemStatus) (correlationId : UInt64) (message : String)
    (s : Station ω σ) : Station ω σ :=
  s.onBus (Bus.log now .system status.code correlationId message)

/-- The station after its telemetry, if there is any, has taken in a span around a call. -/
def timed (time : CallTime) (part metric : String) (call : Station ω σ → Station ω σ)
    (s : Station ω σ) : Station ω σ :=
  match s.telemetry with
  | none => call s
  | some machine =>
    let (span, machine) := machine.begin part metric
    let s := call { s with telemetry := some (machine.drain time.begun.micros) }
    { s with telemetry := s.telemetry.map fun machine =>
        (machine.finish span time.elapsedMicros).drain time.ended.micros }

end Station

end ReleaseFeed
