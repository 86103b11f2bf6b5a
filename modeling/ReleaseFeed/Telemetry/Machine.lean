import ReleaseFeed.Telemetry.Outlet
import ReleaseFeed.Telemetry.Queue

/-!
# The queue and its writer

A machine is a queue with at most one writer, any number of producers, and any number of callers that stop
it.  Each takes steps of its own, in any order: a producer pushes an event; the writer takes the oldest
event, writes its line, and leaves once the queue is stopped and empty; a caller that stops the queue
signals it, claims the writer if nobody has, and returns when the writer that it claimed has left.

`Machine.step?` says when a step can be taken and what it does.  The other operations are made of steps:
`drain` lets the writer empty the queue, and `stop` is one caller's stop from beginning to end.
-/
namespace ReleaseFeed.Telemetry

/-- What the writer is doing. -/
inductive WriterPhase where
  /-- There is no writer yet. -/
  | absent
  /-- It looks for an event. -/
  | ready
  /-- It has taken an event out and has not written it yet. -/
  | holding (event : Event)
  /-- It has left. -/
  | gone
deriving DecidableEq

/-- How far a caller that stops the queue has come. -/
inductive StopPhase where
  | outside
  /-- The queue is told to stop. -/
  | signalled
  /-- It waits for the writer to leave. -/
  | waiting
  | returned
deriving DecidableEq

/-- A queue, its writer, its file, and those who stop it. -/
structure Machine where
  queue : Queue
  writer : WriterPhase := .absent
  output : Buffered
  /-- There is a writer that no caller has claimed. -/
  unclaimed : Bool := false
  callers : Nat → StopPhase := fun _ => .outside

/-- A step of a machine. -/
inductive Step where
  | push (event : Event)
  /-- A writer is given to the queue. -/
  | attach
  | take
  | write (nowMicros : Int)
  | leave
  | signal (caller : Nat)
  | claim (caller : Nat)
  | join (caller : Nat)

namespace Machine

/-- A queue with no writer, whose file has a given content. -/
def idle (capacity : Nat) (outlet : Outlet) : Machine :=
  { queue := .ofCapacity capacity, output := { outlet } }

/-- The machine with one caller further on. -/
def withCaller (m : Machine) (caller : Nat) (phase : StopPhase) : Machine :=
  { m with callers := fun c => if c = caller then phase else m.callers c }

/-- The machine after a step; nothing if the step cannot be taken. -/
def step? (m : Machine) : Step → Option Machine
  | .push event => some { m with queue := (m.queue.push event).2 }
  | .attach =>
    if m.writer = .absent ∨ m.writer = .gone then
      some { m with writer := .ready, unclaimed := true }
    else
      none
  | .take =>
    match m.writer, m.queue.take? with
    | .ready, some (event, queue) => some { m with writer := .holding event, queue }
    | _, _ => none
  | .write nowMicros =>
    match m.writer with
    | .holding event =>
      let (done, output) := m.output.writeLine (event.line nowMicros)
      some { m with writer := .ready, output, queue := m.queue.settled done }
    | _ => none
  | .leave =>
    if m.writer = .ready ∧ m.queue.ring.isEmpty ∧ !m.queue.running then
      some { m with writer := .gone, output := m.output.close }
    else
      none
  | .signal caller =>
    if m.callers caller = .outside then
      some ({ m with queue := m.queue.stopped }.withCaller caller .signalled)
    else
      none
  | .claim caller =>
    if m.callers caller = .signalled then
      some ({ m with unclaimed := false }.withCaller caller
        (if m.unclaimed then .waiting else .returned))
    else
      none
  | .join caller =>
    if m.callers caller = .waiting ∧ m.writer = .gone then
      some (m.withCaller caller .returned)
    else
      none

/-- The machine after a list of steps; nothing if one of them cannot be taken. -/
def run? (m : Machine) (steps : List Step) : Option Machine :=
  steps.foldlM step? m

/-- The machine after a step, or as it was if the step cannot be taken. -/
def attempt (m : Machine) (step : Step) : Machine :=
  (m.step? step).getD m

/-- The machine after the writer has dealt with `n` events. -/
def deal (nowMicros : Int) : (n : Nat) → Machine → Machine
  | 0, m => m
  | n + 1, m => deal nowMicros n ((m.attempt .take).attempt (.write nowMicros))

/-- The machine after the writer, if there is one, has dealt with all events; it leaves if the queue is
stopped. -/
def drain (m : Machine) (nowMicros : Int) : Machine :=
  (deal nowMicros m.queue.ring.count m).attempt .leave

/-- The machine after an event is pushed, and the id of the event. -/
def push (m : Machine) (event : Event) : UInt64 × Machine :=
  ((m.queue.push event).1, m.attempt (.push event))

/-- The machine after a caller that nobody disturbs has stopped it. -/
def stop (m : Machine) (nowMicros : Int) (caller : Nat) : Machine :=
  (((m.attempt (.signal caller)).attempt (.claim caller)).drain nowMicros).attempt (.join caller)

/-- The machine after a span begins. -/
def begin (m : Machine) (part metric : String) : Span × Machine :=
  let (id, m) := m.push (Span.start part metric)
  (.ofStart part metric id, m)

/-- The machine after a span ends; a span that was refused at its start leaves no trace. -/
def finish (m : Machine) (span : Span) (elapsedMicros : Nat) : Machine :=
  match span.finish? elapsedMicros with
  | some event => (m.push event).2
  | none => m

end Machine

end ReleaseFeed.Telemetry
