import ReleaseFeed.Proofs.Telemetry.Admission
import ReleaseFeed.Proofs.Telemetry.Outlet
import ReleaseFeed.Telemetry.Machine

/-! # What one step of a machine does

`Machine.Takes` lists the steps that can be taken, with what each does; a step of
`Machine.step?` is one of them (`Takes.of_step?`), and only here is `step?` opened.

Three things are observed of a step: the event that it puts into the ring, the fresh id
that it gives away, and the event that it writes.  Each lemma below says how one part of
the machine changes with them.  Nothing is lost between ring and file, because what a
step puts in comes out behind what was in flight and in the ring before (`Takes.flow`).
-/
namespace ReleaseFeed.Telemetry

/-- What the writer has taken out and not written yet. -/
def WriterPhase.inFlight : WriterPhase → List Event
  | .holding event => [event]
  | _ => []

namespace Step

/-- An event is pushed. -/
def isPush : Step → Bool
  | push _ => true
  | _ => false

/-- The queue is told to stop. -/
def isSignal : Step → Bool
  | signal _ => true
  | _ => false

end Step

/-- The lines of events that were written, each at its time. -/
def linesText : List (Event × Int) → String
  | [] => ""
  | (event, micros) :: rest => event.line micros ++ "\n" ++ linesText rest

theorem linesText_append (written more : List (Event × Int)) :
    linesText (written ++ more) = linesText written ++ linesText more := by
  induction written with
  | nil => exact (String.empty_append).symm
  | cons first rest ih =>
    simp only [List.cons_append, linesText, ih, String.append_assoc]

namespace Machine
variable {m m' : Machine} {a : Step} {capacity : Nat}

/-! ## What is observed of a step -/

/-- The event that a step puts into the ring. -/
def accepts? (m : Machine) : Step → Option Event
  | .push event => m.queue.accept? event
  | _ => none

/-- The fresh id that a step gives away. -/
def draws? (m : Machine) : Step → Option UInt64
  | .push event =>
    if event.id = 0 ∧ (m.queue.accept? event).isSome then some (m.queue.push event).1 else none
  | _ => none

/-- The event that a step writes, and when. -/
def writes? (m : Machine) : Step → Option (Event × Int)
  | .write micros =>
    match m.writer with
    | .holding event => some (event, micros)
    | _ => none
  | _ => none

/-! ## The steps -/

/-- The steps that can be taken, and the machine after each. -/
inductive Takes (m : Machine) : Step → Machine → Prop where
  | push (event : Event) : Takes m (.push event) { m with queue := (m.queue.push event).2 }
  | attach (h : m.writer = .absent ∨ m.writer = .gone) :
      Takes m .attach { m with writer := .ready, unclaimed := true }
  | take {event : Event} {queue : Queue} (ready : m.writer = .ready)
      (taken : m.queue.take? = some (event, queue)) :
      Takes m .take { m with writer := .holding event, queue }
  | write {event : Event} (micros : Int) (holding : m.writer = .holding event) :
      Takes m (.write micros)
        { m with
          writer := .ready
          output := (m.output.writeLine (event.line micros)).2
          queue := m.queue.settled (m.output.writeLine (event.line micros)).1 }
  | leave (ready : m.writer = .ready) (empty : m.queue.ring.isEmpty)
      (stopped : m.queue.running = false) :
      Takes m .leave { m with writer := .gone, output := m.output.close }
  | signal {caller : Nat} (outside : m.callers caller = .outside) :
      Takes m (.signal caller) ({ m with queue := m.queue.stopped }.withCaller caller .signalled)
  | claim {caller : Nat} (signalled : m.callers caller = .signalled) :
      Takes m (.claim caller) ({ m with unclaimed := false }.withCaller caller
        (if m.unclaimed then .waiting else .returned))
  | join {caller : Nat} (waiting : m.callers caller = .waiting) (gone : m.writer = .gone) :
      Takes m (.join caller) (m.withCaller caller .returned)

theorem Takes.of_step? (h : m.step? a = some m') : m.Takes a m' := by
  cases a with
  | push event =>
    cases h
    exact .push event
  | attach =>
    obtain ⟨hwriter, hsame⟩ := Option.ite_none_right_eq_some.mp h
    cases hsame
    exact .attach hwriter
  | take =>
    simp only [step?] at h
    split at h
    · cases h
      exact .take ‹_› ‹_›
    · cases h
  | write micros =>
    simp only [step?] at h
    split at h
    · cases h
      exact .write micros ‹_›
    · cases h
  | leave =>
    obtain ⟨⟨hready, hempty, hstopped⟩, hsame⟩ := Option.ite_none_right_eq_some.mp h
    cases hsame
    exact .leave hready hempty (by simpa using hstopped)
  | signal caller =>
    obtain ⟨houtside, hsame⟩ := Option.ite_none_right_eq_some.mp h
    cases hsame
    exact .signal houtside
  | claim caller =>
    obtain ⟨hsignalled, hsame⟩ := Option.ite_none_right_eq_some.mp h
    cases hsame
    exact .claim hsignalled
  | join caller =>
    obtain ⟨⟨hwaiting, hgone⟩, hsame⟩ := Option.ite_none_right_eq_some.mp h
    cases hsame
    exact .join hwaiting hgone

/-! ## What a step keeps -/

/-- What is so of a machine at any time. -/
structure Sound (capacity : Nat) (m : Machine) : Prop where
  capacity_eq : m.queue.ring.capacity = capacity
  count_le : m.queue.ring.count ≤ capacity
  /-- The writer leaves when nothing waits and nothing more is let in. -/
  gone : m.writer = .gone → m.queue.ring.toList = [] ∧ m.queue.running = false

theorem Sound.le (h : m.Sound capacity) : m.queue.ring.count ≤ m.queue.ring.capacity := by
  rw [h.capacity_eq]
  exact h.count_le

theorem Takes.sound (h : m.Takes a m') (hs : m.Sound capacity) : m'.Sound capacity := by
  cases h with
  | push event =>
    by_cases hadmits : m.queue.admits
    · obtain ⟨ring, -, hcount, hcapacity, hpush⟩ := Queue.push_of_admits hadmits hs.le event
      obtain ⟨hrunning, hroom⟩ := (Queue.admits_iff hs.le).mp hadmits
      rw [hpush]
      refine ⟨hcapacity.trans hs.capacity_eq, ?_, fun hgone => ?_⟩
      · show ring.count ≤ capacity
        rw [hcount, ← hs.capacity_eq]
        exact hroom
      · exact absurd (hs.gone hgone).2 (ne_false_of_eq_true hrunning)
    · rw [Queue.push_of_not_admits (Bool.eq_false_iff.mpr hadmits)]
      exact ⟨hs.capacity_eq, hs.count_le, hs.gone⟩
  | take ready taken =>
    obtain ⟨ring, hpop, rfl⟩ := Queue.take?_eq_some taken
    obtain ⟨-, hcount, hcapacity⟩ := Ring.toList_of_pop? hpop
    refine ⟨hcapacity.trans hs.capacity_eq, ?_, nofun⟩
    show ring.count ≤ capacity
    have hle := hs.count_le
    omega
  | attach | write => exact ⟨hs.capacity_eq, hs.count_le, nofun⟩
  | leave ready empty stopped =>
    exact ⟨hs.capacity_eq, hs.count_le, fun _ => ⟨Ring.toList_of_isEmpty empty, stopped⟩⟩
  | signal => exact ⟨hs.capacity_eq, hs.count_le, fun hgone => ⟨(hs.gone hgone).1, rfl⟩⟩
  | claim | join => exact ⟨hs.capacity_eq, hs.count_le, hs.gone⟩

/-- Every line so far is in the file, and the file does not fail. -/
structure Punctual (m : Machine) : Prop where
  reliable : m.output.outlet.Reliable
  held_eq : m.output.held = ""

theorem Takes.punctual (h : m.Takes a m') (hp : m.Punctual) : m'.Punctual := by
  cases h with
  | write micros holding =>
    obtain ⟨output, hline, hkeeps, hheld⟩ := Buffered.writeLine_of_reliable hp.reliable _
    rw [hline]
    exact ⟨hkeeps.reliable hp.reliable, hheld⟩
  | leave =>
    rw [Buffered.close_of_held_eq hp.held_eq]
    exact ⟨hp.reliable, hp.held_eq⟩
  | push | attach | take | signal | claim | join => exact ⟨hp.reliable, hp.held_eq⟩

/-! ## What a step changes -/

/-- What comes out of the writer and the ring, together with what stays in them, is what
was in them and what a step puts in; the order is kept. -/
theorem Takes.flow (h : m.Takes a m') (hs : m.Sound capacity) :
    (m.writes? a).toList.map Prod.fst ++ m'.writer.inFlight ++ m'.queue.ring.toList =
      m.writer.inFlight ++ m.queue.ring.toList ++ (m.accepts? a).toList := by
  cases h with
  | push event =>
    by_cases hadmits : m.queue.admits
    · obtain ⟨ring, hlist, -, -, hpush⟩ := Queue.push_of_admits hadmits hs.le event
      simp only [writes?, accepts?, Queue.accept?, hadmits, if_true, hpush, Queue.acceptance, hlist,
        Option.toList_none, Option.toList_some, List.map_nil, List.nil_append, List.append_assoc]
    · rw [Queue.push_of_not_admits (Bool.eq_false_iff.mpr hadmits)]
      simp only [writes?, accepts?, Queue.accept?, if_neg hadmits, Queue.refusal,
        Option.toList_none, List.map_nil, List.nil_append, List.append_nil]
  | attach h =>
    rcases h with h | h <;> rw [h] <;> exact (List.append_nil _).symm
  | take ready taken =>
    obtain ⟨ring, hpop, rfl⟩ := Queue.take?_eq_some taken
    obtain ⟨hlist, -, -⟩ := Ring.toList_of_pop? hpop
    -- the front of the ring is now in flight
    rw [ready, hlist]
    exact (List.append_nil _).symm
  | write micros holding =>
    simp only [writes?, holding]
    exact (List.append_nil _).symm
  | leave ready =>
    rw [ready]
    exact (List.append_nil _).symm
  | signal | claim | join => exact (List.append_nil _).symm

/-- What a step writes is in the file as a line. -/
theorem Takes.filed (h : m.Takes a m') (hp : m.Punctual) :
    m'.output.outlet.content = m.output.outlet.content ++ linesText (m.writes? a).toList := by
  cases h with
  | @write event micros holding =>
    obtain ⟨output, hline, hkeeps, hheld⟩ :=
      Buffered.writeLine_of_reliable hp.reliable (event.line micros)
    have htext := hkeeps.text
    rw [← Buffered.content_of_held_eq hheld, ← Buffered.content_of_held_eq hp.held_eq,
      String.join_cons, String.join_cons, String.join_nil] at htext
    simp only [writes?, holding, hline, Option.toList_some, linesText, String.append_assoc]
    exact htext
  | leave =>
    rw [Buffered.close_of_held_eq hp.held_eq]
    exact (String.append_empty).symm
  | push | attach | take | signal | claim | join => exact (String.append_empty).symm

/-- The fresh id that a step gives away is the next one, which then moves on by one. -/
theorem Takes.nextId (h : m.Takes a m') (hs : m.Sound capacity) :
    m.draws? a = none ∧ m'.queue.nextId = m.queue.nextId ∨
      m.draws? a = some m.queue.nextId ∧ m'.queue.nextId = m.queue.nextId + 1 := by
  cases h with
  | push event =>
    by_cases hfresh : event.id = 0
    · rcases Queue.push_fresh hs.le hfresh with ⟨haccept, hid, hnext⟩ | ⟨haccept, -, hnext⟩
      · exact .inr ⟨by rw [draws?, if_pos ⟨hfresh, by rw [haccept]; rfl⟩, hid], hnext⟩
      · exact .inl ⟨by rw [draws?, haccept, if_neg fun h => nomatch h.2], hnext⟩
    · exact .inl ⟨if_neg fun h => hfresh h.1, (Queue.push_own hs.le hfresh).2⟩
  | take ready taken =>
    obtain ⟨ring, -, rfl⟩ := Queue.take?_eq_some taken
    exact .inl ⟨rfl, rfl⟩
  | attach | write | leave | signal | claim | join => exact .inl ⟨rfl, rfl⟩

/-- Only a signal stops the queue, and nothing starts it again. -/
theorem Takes.running (h : m.Takes a m') (hs : m.Sound capacity) :
    m'.queue.running = (m.queue.running && !a.isSignal) := by
  cases h with
  | push event =>
    by_cases hadmits : m.queue.admits
    · obtain ⟨ring, -, -, -, hpush⟩ := Queue.push_of_admits hadmits hs.le event
      rw [hpush]
      exact (Bool.and_true _).symm
    · rw [Queue.push_of_not_admits (Bool.eq_false_iff.mpr hadmits)]
      exact (Bool.and_true _).symm
  | take ready taken =>
    obtain ⟨ring, -, rfl⟩ := Queue.take?_eq_some taken
    exact (Bool.and_true _).symm
  | signal => exact (Bool.and_false _).symm
  | attach | write | leave | claim | join => exact (Bool.and_true _).symm

theorem accepts?_of_stopped (h : m.queue.running = false) (a : Step) : m.accepts? a = none := by
  cases a with
  | push event =>
    rw [accepts?, Queue.accept?, Queue.admits, h, Bool.false_and]
    rfl
  | attach | take | write | leave | signal | claim | join => rfl

/-- Only pushes draw ids. -/
theorem length_draws?_le (m : Machine) (a : Step) :
    (m.draws? a).toList.length ≤ [a].countP Step.isPush := by
  cases a with
  | push event =>
    rw [draws?]
    split <;> simp [Step.isPush]
  | attach | take | write | leave | signal | claim | join => exact Nat.zero_le _

end Machine

end ReleaseFeed.Telemetry
