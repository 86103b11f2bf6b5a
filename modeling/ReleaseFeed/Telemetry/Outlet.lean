/-!
# Buffered output

An outlet is a file to which text is appended; some of the attempts to write may fail, and those write
nothing.  A buffered outlet holds text back until it is flushed or the buffer has no room left.  When a
flush fails, the text stays in the buffer and goes out with the next flush that succeeds.
-/
namespace ReleaseFeed.Telemetry

/-- A file to which text is appended. -/
structure Outlet where
  /-- Whether an attempt fails, the attempts being counted from 0. -/
  fails : Nat → Bool := fun _ => false
  attempts : Nat := 0
  content : String := ""

/-- Appends a text, if the attempt succeeds. -/
def Outlet.write (o : Outlet) (s : String) : Bool × Outlet :=
  let next := { o with attempts := o.attempts + 1 }
  if o.fails o.attempts then (false, next) else (true, { next with content := o.content ++ s })

/-- An outlet with text that is held back. -/
structure Buffered where
  outlet : Outlet
  held : String := ""

namespace Buffered

/-- Bytes that can be held back. -/
def room : Nat := 8192

/-- Writes what is held back; it stays where that fails. -/
def flush (b : Buffered) : Bool × Buffered :=
  if b.held.isEmpty then
    (true, b)
  else
    let (done, outlet) := b.outlet.write b.held
    (done, { outlet, held := if done then "" else b.held })

/-- Holds back a text, after a flush where there is no room; a text as long as the buffer is written at
once. -/
def write (b : Buffered) (s : String) : Bool × Buffered :=
  let spare := room - b.held.utf8ByteSize
  if s.utf8ByteSize < spare then
    (true, { b with held := b.held ++ s })
  else
    let (done, b) := if spare < s.utf8ByteSize then b.flush else (true, b)
    if !done then
      (false, b)
    else if room ≤ s.utf8ByteSize then
      let (done, outlet) := b.outlet.write s
      (done, { b with outlet })
    else
      (true, { b with held := b.held ++ s })

/-- Writes a line and its end, then flushes; the first failure ends it. -/
def writeLine (b : Buffered) (line : String) : Bool × Buffered :=
  match b.write line with
  | (false, b) => (false, b)
  | (true, b) =>
    match b.write "\n" with
    | (false, b) => (false, b)
    | (true, b) => b.flush

/-- Flushes for the last time; what cannot be written then is lost. -/
def close (b : Buffered) : Buffered :=
  { b.flush.2 with held := "" }

end Buffered

end ReleaseFeed.Telemetry
