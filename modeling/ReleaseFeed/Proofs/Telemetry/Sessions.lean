import ReleaseFeed.Proofs.Telemetry.Safety

/-! # Spans and single events around a queue

A session is a machine and the spans that callers hold.  Events come from nowhere else
than spans that begin and end, and pushes that ask for a fresh id; the writer and those
who stop the queue take their steps in between.  A run of a session is a run of its
machine (`run_machine`), so all that is known of machines holds of it.

What matters of an action for the ids is its `Effect`: the event that was accepted, if
one was, the spans that are open after it, and the next fresh id.  There are six, and
`effect_of_act?` is the only place where sessions are looked into.
-/
namespace ReleaseFeed.Telemetry

/-- What callers do with a queue, and the steps of the writer and of stops. -/
inductive Action where
  | begin (part metric : String)
  /-- The span that was the `k`-th to begin, counted from 0, ends. -/
  | finish (k elapsedMicros : Nat)
  | push (part metric message : String)
  /-- Any step of the machine that is not a push. -/
  | step (step : Step)

/-- A machine, and the spans in the order in which they began; nothing for one that ended. -/
structure Session where
  machine : Machine
  spans : List (Option Span) := []

/-- Where an accepted event came from. -/
inductive Origin where
  | single
  | start (k : Nat)
  | finish (k : Nat)
deriving DecidableEq

/-- The event is the end of a span. -/
def Origin.isFinish : Origin → Bool
  | finish _ => true
  | _ => false

/-- An accepted event and where it came from. -/
structure Entry where
  origin : Origin
  event : Event
deriving DecidableEq

namespace Session

/-- A session without spans, around a queue without a writer. -/
def idle (capacity : Nat) (outlet : Outlet) : Session :=
  { machine := .idle capacity outlet }

/-- The session after an action; nothing if the action cannot be taken. -/
def act? (s : Session) : Action → Option Session
  | .begin part metric =>
    let (span, machine) := s.machine.begin part metric
    some { machine, spans := s.spans ++ [some span] }
  | .finish k elapsedMicros =>
    match s.spans[k]? with
    | some (some span) =>
      some { machine := s.machine.finish span elapsedMicros, spans := s.spans.set k none }
    | _ => none
  | .push part metric message =>
    some { s with machine := (s.machine.push (.of part metric message 0)).2 }
  | .step step =>
    if step.isPush then none else (s.machine.step? step).map fun machine => { s with machine }

/-- The session after a list of actions; nothing if one of them cannot be taken. -/
def run? (s : Session) (actions : List Action) : Option Session :=
  actions.foldlM act? s

/-- The event that an action adds to the accepted ones. -/
def enters? (s : Session) : Action → Option Entry
  | .begin part metric =>
    (s.machine.queue.accept? (Span.start part metric)).map (⟨.start s.spans.length, ·⟩)
  | .finish k elapsedMicros =>
    match s.spans[k]? with
    | some (some span) =>
      (span.finish? elapsedMicros).bind fun event =>
        (s.machine.queue.accept? event).map (⟨.finish k, ·⟩)
    | _ => none
  | .push part metric message =>
    (s.machine.queue.accept? (.of part metric message 0)).map (⟨.single, ·⟩)
  | .step _ => none

/-- The events that a run accepts, in order, and where they came from. -/
def entries (start : Session) (actions : List Action) : List Entry :=
  Runs.history act? enters? start actions

/-! ## Sessions are machines -/

variable {s s' : Session} {a : Action} {actions : List Action}

/-- An action is one step of the machine that accepts the same event, or none at all. -/
theorem step_of_act? (h : s.act? a = some s') :
    s'.machine = s.machine ∧ s.enters? a = none ∨
      ∃ step, s.machine.step? step = some s'.machine ∧
        s.machine.accepts? step = (s.enters? a).map Entry.event := by
  have hmap : ∀ (origin : Origin) (event : Event), s.machine.queue.accept? event =
      ((s.machine.queue.accept? event).map (⟨origin, ·⟩)).map Entry.event := by
    intro origin event
    cases s.machine.queue.accept? event <;> rfl
  cases a with
  | begin part metric =>
    cases h
    exact .inr ⟨.push (Span.start part metric), rfl, hmap _ _⟩
  | push part metric message =>
    cases h
    exact .inr ⟨.push (.of part metric message 0), rfl, hmap _ _⟩
  | finish k elapsedMicros =>
    simp only [act?] at h
    split at h
    · rename_i span hspan
      cases h
      simp only [enters?, hspan, Machine.finish]
      cases span.finish? elapsedMicros with
      | none => exact .inl ⟨rfl, rfl⟩
      | some event => exact .inr ⟨.push event, rfl, hmap _ _⟩
    · cases h
  | step step =>
    obtain ⟨hstep, hmachine⟩ := Option.ite_none_left_eq_some.mp h
    obtain ⟨machine, htaken, hsame⟩ := Option.map_eq_some_iff.mp hmachine
    cases hsame
    refine .inr ⟨step, htaken, ?_⟩
    cases step with
    | push => exact absurd rfl hstep
    | attach | take | write | leave | signal | claim | join => rfl

/-- A run of a session is a run of its machine, which accepts the same events. -/
theorem run_machine {capacity : Nat} {outlet : Outlet}
    (hrun : (idle capacity outlet).run? actions = some s) :
    ∃ steps, (Machine.idle capacity outlet).run? steps = some s.machine ∧
      Machine.accepted (Machine.idle capacity outlet) steps =
        (entries (idle capacity outlet) actions).map Entry.event := by
  refine Runs.run_induction (P := fun actions s =>
    ∃ steps, (Machine.idle capacity outlet).run? steps = some s.machine ∧
      Machine.accepted (Machine.idle capacity outlet) steps =
        (entries (idle capacity outlet) actions).map Entry.event) ⟨[], rfl, rfl⟩ ?_ hrun
  rintro actions a s s' hrun ⟨steps, hsteps, haccepted⟩ hact
  rw [entries, Runs.history_concat hrun, ← entries, List.map_append, ← haccepted]
  rcases step_of_act? hact with ⟨hsame, hentry⟩ | ⟨step, hstep, haccepts⟩
  · rw [hsame, hentry]
    exact ⟨steps, hsteps, (List.append_nil _).symm⟩
  · refine ⟨steps ++ [step], Runs.run_concat_iff.mpr ⟨_, hsteps, hstep⟩, ?_⟩
    rw [Machine.accepted_concat hsteps, haccepts]
    cases s.enters? a with
    | none => rfl
    | some => rfl

/-! ## What an action does to ids and spans -/

/-- The event that is accepted, the spans after it, and the next fresh id. -/
inductive Effect (spans : List (Option Span)) (nextId : UInt64) :
    Option Entry → List (Option Span) → UInt64 → Prop where
  /-- No event comes in. -/
  | idle : Effect spans nextId none spans nextId
  /-- A single event is accepted. -/
  | single (part metric message : String) :
      Effect spans nextId (some ⟨.single, .of part metric message nextId⟩) spans (nextId + 1)
  /-- A span begins and its start is accepted. -/
  | recorded (part metric : String) :
      Effect spans nextId
        (some ⟨.start spans.length, .of part metric Span.startMessage nextId⟩)
        (spans ++ [some (.ofStart part metric nextId)]) (nextId + 1)
  /-- A span begins and its start is refused. -/
  | unrecorded (part metric : String) :
      Effect spans nextId none (spans ++ [some (.ofStart part metric 0)]) nextId
  /-- A span ends and its end is accepted. -/
  | ended {k : Nat} {span : Span} (elapsedMicros : Nat) (began : spans[k]? = some (some span))
      (recorded : span.id ≠ 0) :
      Effect spans nextId
        (some ⟨.finish k,
          .of span.part.text span.metric.text (Span.endMessage elapsedMicros) span.id⟩)
        (spans.set k none) nextId
  /-- A span ends without a trace. -/
  | vanished (k : Nat) : Effect spans nextId none (spans.set k none) nextId

/-- The end of a span is made of texts that were cut to size at its start. -/
theorem finish?_eq (span : Span) (elapsedMicros : Nat) :
    span.finish? elapsedMicros = if span.id ≠ 0 then
      some (.of span.part.text span.metric.text (Span.endMessage elapsedMicros) span.id)
    else none := by
  rw [Event.of, FixedText.ofString_text, FixedText.ofString_text, Span.finish?, Span.isRecorded]
  simp only [bne_iff_ne]

theorem effect_of_act? {capacity : Nat} (hs : s.machine.Sound capacity) (h : s.act? a = some s') :
    Effect s.spans s.machine.queue.nextId (s.enters? a) s'.spans s'.machine.queue.nextId := by
  cases a with
  | begin part metric =>
    cases h
    dsimp only [enters?, Machine.begin, Machine.push, Machine.attempt, Machine.step?,
      Option.getD_some]
    rcases Queue.push_fresh (e := Span.start part metric) hs.le rfl with
      ⟨haccept, hid, hnext⟩ | ⟨haccept, hid, hnext⟩
    · rw [haccept, hid, hnext]
      exact .recorded part metric
    · rw [haccept, hid, hnext]
      exact .unrecorded part metric
  | push part metric message =>
    cases h
    dsimp only [enters?, Machine.push, Machine.attempt, Machine.step?, Option.getD_some]
    rcases Queue.push_fresh (e := .of part metric message 0) hs.le rfl with
      ⟨haccept, -, hnext⟩ | ⟨haccept, -, hnext⟩
    · rw [haccept, hnext]
      exact .single part metric message
    · rw [haccept, hnext]
      exact .idle
  | finish k elapsedMicros =>
    simp only [act?] at h
    split at h
    · rename_i span hspan
      cases h
      simp only [enters?, hspan, Machine.finish, finish?_eq]
      by_cases hrecorded : span.id ≠ 0
      · simp only [if_pos hrecorded, Option.bind_some, Machine.push, Machine.attempt, Machine.step?,
          Option.getD_some]
        obtain ⟨haccept, hnext⟩ := Queue.push_own (e := .of span.part.text span.metric.text
          (Span.endMessage elapsedMicros) span.id) hs.le hrecorded
        rw [hnext]
        rcases haccept with haccept | haccept
        · rw [haccept]
          exact .ended elapsedMicros hspan hrecorded
        · rw [haccept]
          exact .vanished k
      · simp only [if_neg hrecorded]
        exact .vanished k
    · cases h
  | step step =>
    obtain ⟨hstep, hmachine⟩ := Option.ite_none_left_eq_some.mp h
    obtain ⟨machine, htaken, hsame⟩ := Option.map_eq_some_iff.mp hmachine
    cases hsame
    rcases (Machine.Takes.of_step? htaken).nextId hs with ⟨-, hnext⟩ | ⟨hdraw, -⟩
    · show Effect s.spans _ none s.spans machine.queue.nextId
      rw [hnext]
      exact .idle
    · cases step with
      | push => exact absurd rfl hstep
      | attach | take | write | leave | signal | claim | join => cases hdraw

end Session

end ReleaseFeed.Telemetry
